import CqlWriter.Number.Binary64
import CqlWriter.Timestamp
import CqlWriter.Text.Glyph

/-!
# Scalars

A scalar has a tag, which tells what kind of value its text stands for. A plain scalar without a tag
is resolved: its text alone tells whether it is a null, a truth value, a number, a timestamp or a
string.
-/

namespace CqlWriter.Yaml

/-- The tags of the core kinds, and any other tag as it is written. -/
inductive Tag where
  | null
  | bool
  | int
  | float
  | str
  | timestamp
  | binary
  | merge
  | seq
  | map
  | other (name : Text)
  deriving DecidableEq, Repr

namespace Tag

/-- The core tags by name. -/
def core : List (Text × Tag) :=
  [("!!null", null), ("!!bool", bool), ("!!int", int), ("!!float", float), ("!!str", str),
    ("!!timestamp", timestamp), ("!!binary", binary), ("!!merge", merge), ("!!seq", seq),
    ("!!map", map)]

/-- The tag with a given short name. -/
def ofText (t : Text) : Tag :=
  (core.lookup t).getD (other t)

/-- The short name of a tag. -/
def text : Tag → Text
  | null => "!!null"
  | bool => "!!bool"
  | int => "!!int"
  | float => "!!float"
  | str => "!!str"
  | timestamp => "!!timestamp"
  | binary => "!!binary"
  | merge => "!!merge"
  | seq => "!!seq"
  | map => "!!map"
  | other name => name

/-- What the names of the core tags start with in full. -/
def coreStart : Text := "tag:yaml.org,2002:"

/-- The tag with a given full name; the core tags have short names. -/
def ofFullName (t : Text) : Tag :=
  match Text.dropStart? coreStart t with
  | some name => ofText ("!!" ++ name)
  | none => ofText t

end Tag

/-- The value of a scalar. -/
inductive Scalar where
  | null
  | bool (b : Bool)
  | int (n : Int)
  | float (x : Binary64)
  | timestamp (t : Timestamp)
  | text (t : Text)
  deriving DecidableEq, Repr

namespace Scalar

/-- The tag of a value. -/
def tag : Scalar → Tag
  | null => .null
  | bool _ => .bool
  | int _ => .int
  | float _ => .float
  | timestamp _ => .timestamp
  | text _ => .str

/-- The texts that stand for one value each. -/
def words : List (Text × Scalar) :=
  [("", null), ("~", null), ("null", null), ("Null", null), ("NULL", null),
    ("true", bool true), ("True", bool true), ("TRUE", bool true),
    ("false", bool false), ("False", bool false), ("FALSE", bool false),
    (".nan", float .nan), (".NaN", float .nan), (".NAN", float .nan),
    (".inf", float (.infinite false)), (".Inf", float (.infinite false)),
    (".INF", float (.infinite false)),
    ("+.inf", float (.infinite false)), ("+.Inf", float (.infinite false)),
    ("+.INF", float (.infinite false)),
    ("-.inf", float (.infinite true)), ("-.Inf", float (.infinite true)),
    ("-.INF", float (.infinite true))]

/-- Whether a text starts with a digit or a sign. -/
def startsNumber : Text → Bool
  | b :: _ => Integer.isDigit b || b = Text.byte '+' || b = Text.byte '-'
  | [] => false

/-- The integer after `0b` or `0o`, where it may have a sign of its own, or after these with a minus
sign in front. -/
def markedInteger? (t : Text) : Option Int :=
  [(("0b" : Text), ("" : Text), 2), ("-0b", "-", 2), ("0o", "", 8), ("-0o", "-", 8)].findSome?
    fun (start, sign, base) =>
      (Text.dropStart? start t).bind fun rest => Integer.ofDigits? base (sign ++ rest)

/-- The number that a text stands for when its low lines are left out. -/
def number? (t : Text) : Option Scalar :=
  let plain := t.filter (· ≠ Text.byte '_')
  (((Integer.ofText? plain).map int).or ((Integer.word? plain).map fun n => int n)).or
    (((Binary64.ofText? plain).map float).or ((markedInteger? plain).map int))

/-- The value that a text stands for by itself. Dates are looked for only if `dates` is set. -/
def resolve (dates : Bool) (t : Text) : Scalar :=
  match words.lookup t with
  | some v => v
  | none =>
    if startsNumber t then
      match (if dates then Timestamp.ofText? t else none) with
      | some stamp => timestamp stamp
      | none => (number? t).getD (text t)
    else if t.head? = some (Text.byte '.') then
      ((Binary64.ofSpacedText? t).map float).getD (text t)
    else text t

/-- The tag of a plain scalar without a tag. The text `<<` asks for a merge. -/
def plainTag (t : Text) : Tag :=
  if t = "<<" then .merge else (resolve true t).tag

end Scalar

/-- Why a scalar has no value: its text stands for a value with another tag. -/
structure TagMismatch where
  found : Tag
  text : Text
  wanted : Tag
  deriving DecidableEq, Repr

/-- The value of a scalar with a tag. A scalar whose tag is not of a core kind is a string. -/
def Scalar.ofTagged (tag : Tag) (t : Text) : Except TagMismatch Scalar :=
  match tag with
  | .str | .binary | .merge | .seq | .map | .other _ => .ok (.text t)
  | wanted =>
    let v := resolve (wanted = .timestamp) t
    if v.tag = wanted then .ok v
    else match wanted, v with
      | .float, .int n =>
        if n < power 2 63 then .ok (.float (Binary64.ofInt n)) else .error ⟨.int, t, wanted⟩
      | _, v => .error ⟨v.tag, t, wanted⟩

end CqlWriter.Yaml
