import CqlWriter.Document.Problem
import CqlWriter.Number.Notation
import CqlWriter.Statement.Operand
import CqlWriter.Yaml.Decode

/-!
# Operands of a document

A scalar of a document is a literal: a string, a number, a truth value or a null. A mapping with one
key names the kind of an operand. Sequences and other mappings are no operands. Where an alias is
met again on the way down from itself, making the operand never ends.
-/

namespace CqlWriter.Document

open Yaml

/-! ### Scalars -/

/-- Whether a text is a sequence of decimal digits after an optional sign. -/
def isDecimal (t : Text) : Bool :=
  let digits := (Integer.signed t).2
  !digits.isEmpty && digits.all Integer.isDigit

/-- The literal of a finite number of double precision, which never looks like an integer. -/
def finiteLiteral (negative : Bool) (m : Nat) (e : Int) : Text :=
  let t := (Binary64.written negative m e).general
  if t.contains (Text.byte '.') || t.contains (Text.byte 'e') then t else t ++ ".0"

/-- The literal of a number of double precision that is written as `text`. An integer that is too
wide for sixty-four bits keeps all its digits. -/
def floatLiteral (text : Text) : Binary64 → Text
  | .infinite false => "Infinity"
  | .infinite true => "-Infinity"
  | .nan => "NaN"
  | .finite negative m e =>
    let plain := text.filter (· ≠ Text.byte '_')
    if (Binary64.finite negative m e).atLeastPow2 63 && isDecimal plain then
      (Text.dropStart? "+" plain).getD plain
    else finiteLiteral negative m e

/-- The literal of a scalar that is tagged as a number, if its text is one. -/
def numberLiteral? (tag : Tag) (text : Text) : Option Text :=
  match Scalar.ofTagged tag text with
  | .ok (.int n) => some (Text.ofInt n)
  | .ok (.float x) => some (floatLiteral text x)
  | _ => none

/-! ### Shapes -/

/-- What a node says about its operand by itself: the whole operand, a problem, the nodes that its
elements are made from, or the entries of a map literal. -/
inductive Shape where
  | leaf (o : Operand)
  | refused (problem : Problem)
  | elements (make : List Operand → Operand) (items : List Node)
  | entries (items : List Node)

/-- Whether an entry of a mapping gives the arguments of a function. -/
def isArgs (e : Node × Node) : Bool :=
  e.1.text = "args"

/-- The arguments in a mapping; the last ones count. -/
def argsOf (entries : List (Node × Node)) : Option Node :=
  ((entries.filter isArgs).getLast?).map (·.2)

/-- The entries of a mapping that name a kind of operand. -/
def kindsOf (entries : List (Node × Node)) : List (Node × Node) :=
  entries.filter fun e => !isArgs e

/-- A collection whose elements have no keys. -/
def keyless (kind : CollectionKind) (os : List Operand) : Operand :=
  .collection kind (os.map fun o => (.hole, o))

namespace Shape

/-- The shape of a scalar. -/
def ofScalar (entry : Nat) (tag : Tag) (text : Text) : Shape :=
  match tag with
  | .null => leaf .null
  | .str | .timestamp => leaf (.string text)
  | .bool => leaf (.const text.lower)
  | .int | .float =>
    match numberLiteral? tag text with
    | some literal => leaf (.const literal)
    | none => refused (.unknown entry "numeric literal" text)
  | other => refused (.unknown entry "scalar tag" other.text)

/-- The shape of what is made from the items of a sequence; another node is of an unknown kind. -/
def ofItems (entry : Nat) (what : Text) (n : Node) (whole : List Node → Shape) : Shape :=
  match n.resolved with
  | .sequence _ _ items => whole items
  | .reference .. => refused .endless
  | other => refused (.unknown entry what other.kindName)

/-- The shape of a kind with the given body; `args` are the arguments of a function. -/
def ofKind (entry : Nat) (kind : Text) (body : Node) (args : Option Node) : Shape :=
  let text := body.resolved.text
  if kind = "const" then leaf (.const text)
  else if kind = "param" then leaf (.param text)
  else if kind = "column" then leaf (.column (.ofText text))
  else if kind = "func" then
    match args with
    | some n => ofItems entry "operand list" n (elements (.call text))
    | none => leaf (.call text [])
  else if kind = "tuple" then ofItems entry "operand list" body (elements .tuple)
  else if kind = "list" then ofItems entry "operand list" body (elements (keyless .list))
  else if kind = "set" then ofItems entry "operand list" body (elements (keyless .set))
  else if kind = "map" then ofItems entry "map literal" body entries
  else refused (.unknown entry "operand" kind)

/-- The shape of a mapping. One key names its kind; `args` may stand beside `func`. -/
def ofMapping (entry : Nat) (es : List (Node × Node)) : Shape :=
  match kindsOf es with
  | [] =>
    refused (.missing entry "operand" "one of const, param, column, func, tuple, list, set, map")
  | [(k, body)] =>
    if (argsOf es).isSome && k.text ≠ "func" then
      refused (.unknown entry "operand" (k.text ++ "+args"))
    else ofKind entry k.text body (argsOf es)
  | kinds => refused (.unknown entry "operand" (Text.join "+" (kinds.map (·.1.text))))

/-- The shape of a node. -/
def of (entry : Nat) (n : Node) : Shape :=
  match n.resolved with
  | .scalar _ tag text => ofScalar entry tag text
  | .mapping _ _ es => ofMapping entry es
  | .sequence .. => refused (.unknown entry "operand" "sequence")
  | .reference .. => refused .endless

end Shape

/-! ### Entries of map literals -/

/-- The entry of a map literal: a node for the key and one for the value. -/
structure MapEntry where
  key : Option Node := none
  value : Option Node := none

/-- The fields of an entry of a map literal. Other keys do not matter. -/
def mapEntryRecord : Record MapEntry where
  typeName := "struct \x7b Key yaml.Node \"yaml:\\\"key\\\"\"; "
    ++ "Value yaml.Node \"yaml:\\\"value\\\"\" \x7d"
  fields := [
    ("key", Field.raw fun n e => { e with key := some n }),
    ("value", Field.raw fun n e => { e with value := some n })]
  strict := false

/-- Read an entry of a map literal. A null has neither a key nor a value. -/
def readMapEntry (n : Node) : Except Failure MapEntry := do
  pure ((← (Decode.follow (mapEntryRecord.decode {}) n).run).getD {})

/-- The problem with an entry of a map literal that cannot be read. An alias that is met again,
though the entry does not merge itself, was met on the way to the entry. -/
def unreadable (n : Node) : Failure → Problem
  | .selfContaining name =>
    if n.mergesItself [] then .badMapEntry (.selfContaining name) else .endless
  | failure => .badMapEntry failure

/-- The key and the value of an entry of a map literal, which has to have both. -/
def keyAndValue (entry : Nat) (n : Node) : Except Problem (Node × Node) :=
  match readMapEntry n with
  | .error failure => .error (unreadable n failure)
  | .ok ⟨some k, some v⟩ => .ok (k, v)
  | .ok _ => .error (.missing entry "map entry" "key and value")

/-- The key and value of an entry of a map literal, each made an operand by `build`. -/
def mapElement (build : Node → Except Problem Operand) (entry : Nat) (n : Node) :
    Except Problem (Operand × Operand) := do
  let (k, v) ← keyAndValue entry n
  let k ← build k
  let v ← build v
  pure (k, v)

/-- The operand of a shape, whose parts are made operands by `build`. -/
def Shape.operand (build : Node → Except Problem Operand) (entry : Nat) :
    Shape → Except Problem Operand
  | leaf o => .ok o
  | refused problem => .error problem
  | elements make items => do pure (make (← items.mapM build))
  | entries items => do pure (.collection .map (← items.mapM (mapElement build entry)))

/-! ### Nodes -/

mutual

/-- The number of nodes on the longest way down from a node, through aliases too. -/
def height : Node → Nat
  | .scalar .. => 1
  | .sequence _ _ items => heightList items + 1
  | .mapping _ _ entries => heightPairs entries + 1
  | .reference _ _ target => heightOption target + 1

/-- The greatest height of a list of nodes. -/
def heightList : List Node → Nat
  | [] => 0
  | n :: ns => max (height n) (heightList ns)

/-- The greatest height of a list of entries. -/
def heightPairs : List (Node × Node) → Nat
  | [] => 0
  | (k, v) :: es => max (max (height k) (height v)) (heightPairs es)

/-- The height of the node that an alias stands for. -/
def heightOption : Option Node → Nat
  | none => 0
  | some n => height n

end

/-- The operand of a node whose height is at most `fuel`. -/
def operandWithin (entry : Nat) : (fuel : Nat) → Node → Except Problem Operand
  | 0, _ => .error .endless
  | fuel + 1, n => (Shape.of entry n).operand (operandWithin entry fuel) entry

/-- The operand of a node. -/
def operand (entry : Nat) (n : Node) : Except Problem Operand :=
  operandWithin entry (height n) n

end CqlWriter.Document
