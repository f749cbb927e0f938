import CqlWriter.Statement.Identifier

/-!
# Operands

The value expressions of a statement: literals, bind markers, column references, function calls,
tuples and collection literals, nested to any depth. A place in a tree that holds no operand is a
hole; it has no text of its own and a walk passes over it.
-/

namespace CqlWriter

/-- The syntax of a collection literal; a code outside the three kinds is kept as it is. -/
inductive CollectionKind where
  | list
  | set
  | map
  | other (code : Int)
  deriving DecidableEq, Repr

namespace CollectionKind

/-- The kind with a given code. -/
def ofCode : Int → CollectionKind
  | 0 => list
  | 1 => set
  | 2 => map
  | n => other n

/-- The name of a kind. -/
def name : CollectionKind → Text
  | list => "LIST"
  | set => "SET"
  | map => "MAP"
  | other n => "CollectionKind(" ++ Text.ofInt n ++ ")"

end CollectionKind

/-- A value expression. The elements of a collection are pairs of a key and a value, and the key is
a hole where there is none. -/
inductive Operand where
  | hole
  | const (text : Text)
  | param (name : Text)
  | column (name : Identifier)
  | call (name : Text) (args : List Operand)
  | tuple (elements : List Operand)
  | collection (kind : CollectionKind) (elements : List (Operand × Operand))
  | null
  deriving Inhabited, Repr

namespace Operand

/-- The literal of a string value. -/
def string (value : Text) : Operand :=
  const (quoteLiteral value)

/-- Whether a place holds no operand. -/
def isHole : Operand → Bool
  | hole => true
  | _ => false

/-- The text of one element of a collection literal: a map shows the key where there is one. -/
def elementCql (kind : CollectionKind) (keyless : Bool) (key value : Text) : Text :=
  if kind = .map && !keyless then key ++ ": " ++ value else value

/-- The text of a collection literal around its elements. -/
def collectionCql (kind : CollectionKind) (elements : List Text) : Text :=
  if kind = .list then "[" ++ Text.join ", " elements ++ "]"
  else "\x7b" ++ Text.join ", " elements ++ "\x7d"

mutual

/-- The CQL text of an operand. -/
def cql : Operand → Text
  | hole => ""
  | const text => text
  | param name => if name.isEmpty then "?" else ":" ++ name
  | column name => name.cql
  | call name args => name ++ "(" ++ Text.join ", " (cqlList args) ++ ")"
  | tuple elements => "(" ++ Text.join ", " (cqlList elements) ++ ")"
  | collection kind elements => collectionCql kind (cqlElements kind elements)
  | null => "NULL"

/-- The CQL text of each operand of a list. -/
def cqlList : List Operand → List Text
  | [] => []
  | o :: os => cql o :: cqlList os

/-- The CQL text of each element of a collection of the given kind. -/
def cqlElements (kind : CollectionKind) : List (Operand × Operand) → List Text
  | [] => []
  | (k, v) :: es => elementCql kind k.isHole (cql k) (cql v) :: cqlElements kind es

end

theorem cqlList_eq_map (os : List Operand) : cqlList os = os.map cql := by
  induction os with
  | nil => rfl
  | cons o os ih => rw [cqlList, ih, List.map_cons]

theorem cqlElements_eq_map (kind : CollectionKind) (es : List (Operand × Operand)) :
    cqlElements kind es = es.map fun e => elementCql kind e.1.isHole e.1.cql e.2.cql := by
  induction es with
  | nil => rfl
  | cons e es ih => rw [cqlElements, ih, List.map_cons]

/-- A description of an operand for logs. -/
def describe : Operand → Text
  | hole => "%!s(<nil>)"
  | const text => "Const(" ++ text ++ ")"
  | param name => "Param(" ++ cql (param name) ++ ")"
  | column name => "ColumnOperand(" ++ name.cql ++ ")"
  | call name args => "FuncCall(" ++ name ++ "/" ++ Text.ofNat args.length ++ ")"
  | tuple elements => "Tuple[" ++ Text.ofNat elements.length ++ "]"
  | collection kind elements =>
    "Collection(" ++ kind.name ++ "[" ++ Text.ofNat elements.length ++ "])"
  | null => "Null"

end Operand

end CqlWriter
