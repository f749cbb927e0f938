import CqlWriter.Number.Notation
import CqlWriter.Settings.Handling
import CqlWriter.Text.Quoted
import CqlWriter.Text.Words
import CqlWriter.Timestamp

/-!
# Values of settings

A setting may come from a default, an environment variable, a flag or a file, so its value may be of
any kind. Where a value of one kind is wanted, a value of another kind is converted if it can be.
-/

namespace CqlWriter.Settings

/-- The value of a setting, of any kind. -/
inductive Value where
  | null
  | text (t : Text)
  | flag (b : Bool)
  | int (n : Int)
  /-- An integer that is asked to have sixty-four bits. -/
  | wide (n : Int)
  /-- An integer that is too great for a sign. -/
  | word (n : Nat)
  | float (x : Binary64)
  | timestamp (t : Timestamp)
  | handling (h : Handling)
  /-- A list of texts, which may be absent. -/
  | texts (ts : Option (List Text))
  | list (items : List Value)
  | map (entries : List (Text × Value))
  /-- A map in which not all keys were written as texts. -/
  | mixed (entries : List (Text × Value))
  deriving Inhabited, Repr

/-- The truth value that a word stands for. -/
def truth? (t : Text) : Option Bool :=
  if t = "1" || t = "t" || t = "T" || t = "TRUE" || t = "true" || t = "True" then some true
  else if t = "0" || t = "f" || t = "F" || t = "FALSE" || t = "false" || t = "False" then some false
  else none

/-- The message about a text that stands for no truth value. -/
def notTruth (t : Text) : Text :=
  "strconv.ParseBool: parsing " ++ t.quoted ++ ": invalid syntax"

/-- The message about a text that stands for no integer. -/
def notInteger (t : Text) (f : Integer.Failure) : Text :=
  "strconv.ParseInt: parsing " ++ t.quoted ++ ": " ++ f.message

/-- The text of a truth value. -/
def truthText (b : Bool) : Text :=
  if b then "true" else "false"

/-- What is left of a text that is read from its end, when it is cut at a point with a zero behind
it. Anything else than zeros and points behind that one keeps the text whole. -/
def cutZeroFraction? (zeroMet : Bool) : (reversed : Text) → Option Text
  | [] => none
  | b :: rest =>
    if b = Text.byte '.' then (if zeroMet then some rest else cutZeroFraction? zeroMet rest)
    else if b = Text.byte '0' then cutZeroFraction? true rest
    else none

/-- The text of a number without the zeros behind its point, if there is nothing else. -/
def withoutZeroFraction (t : Text) : Text :=
  match cutZeroFraction? false t.reverse with
  | some rest => rest.reverse
  | none => t

namespace Value

/-- The text of a value, if it has one. -/
def text? : Value → Option Text
  | null => some []
  | text t => some t
  | flag b => some (truthText b)
  | int n | wide n => some (Text.ofInt n)
  | word n => some (Text.ofNat n)
  | float x => some x.positional
  | timestamp t => some t.text
  | handling _ | texts _ | list _ | map _ | mixed _ => none

/-- A value as a text. -/
def toText (v : Value) : Text :=
  v.text?.getD []

/-- A value as a truth value: a number is true unless it is zero. -/
def toFlag : Value → Bool
  | flag b => b
  | int n | wide n => n ≠ 0
  | word n => n ≠ 0
  | float x => !x.isZero
  | text t => (truth? t).getD false
  | _ => false

/-- A value as an integer of sixty-four bits. -/
def toInt : Value → Int
  | int n | wide n => n
  | word n => n - power 2 64
  | float x => x.toInt
  | text t => (Integer.read (withoutZeroFraction t)).toOption.getD 0
  | flag b => if b then 1 else 0
  | _ => 0

/-- A value as an integer of sixty-four bits that is not converted. -/
def toWide : Value → Int
  | wide n => n
  | _ => 0

/-- A value as a list of texts: a text is cut into words, and anything else that has a text is a
list of its own. -/
def toTexts : Value → Option (List Text)
  | list [] => none
  | list items => some (items.map toText)
  | texts ts => ts
  | text t => some t.words
  | null => none
  | v => v.text?.map fun t => [t]

/-! ### Values in messages -/

/-- The name of the kind of a value. -/
def typeName : Value → Text
  | null => "<nil>"
  | text _ => "string"
  | flag _ => "bool"
  | int _ => "int"
  | wide _ => "int64"
  | word _ => "uint64"
  | float _ => "float64"
  | timestamp _ => "time.Time"
  | handling _ => Handling.typeName
  | texts _ => "[]string"
  | list _ => "[]interface \x7b\x7d"
  | map _ => "map[string]interface \x7b\x7d"
  | mixed _ => "map[interface \x7b\x7d]interface \x7b\x7d"

/-- Put an entry into its place in a list that is sorted by keys. -/
def sortedInsert (e : Text × Text) : List (Text × Text) → List (Text × Text)
  | [] => [e]
  | x :: rest => if (Text.order e.1 x.1).isLE then e :: x :: rest else x :: sortedInsert e rest

mutual

/-- The text of a value in a message. -/
def shown : Value → Text
  | null => "<nil>"
  | text t => t
  | flag b => truthText b
  | int n | wide n => Text.ofInt n
  | word n => Text.ofNat n
  | float x => x.general
  | timestamp t => t.text
  | handling h => Text.ofInt h.code
  | texts ts => "[" ++ Text.join " " (ts.getD []) ++ "]"
  | list items => "[" ++ Text.join " " (shownList items) ++ "]"
  | map entries | mixed entries =>
    "map[" ++ Text.join " " ((shownEntries entries).map fun e => e.1 ++ ":" ++ e.2) ++ "]"

/-- The texts of a list of values. -/
def shownList : List Value → List Text
  | [] => []
  | v :: vs => shown v :: shownList vs

/-- The entries of a map with the texts of their values, sorted by keys. -/
def shownEntries : List (Text × Value) → List (Text × Text)
  | [] => []
  | (k, v) :: es => sortedInsert (k, shown v) (shownEntries es)

end

end Value

end CqlWriter.Settings
