import CqlWriter.Settings.Table

/-!
# Settings in effect

The settings of the program as a record of fixed kinds. A value of another kind is converted where
that loses nothing; the problems of all values are reported together.
-/

namespace CqlWriter.Settings

/-- The settings in effect. -/
structure Effective where
  outputFormat : Text
  watch : Bool
  logLevel : Text
  logFormat : Text
  logOutput : Text
  deriving DecidableEq, Repr

/-- Why a value is not of the kind that is wanted. -/
inductive Mismatch where
  | notConvertible (key wanted : Text) (v : Value)
  | noTruth (key text : Text)

namespace Mismatch

/-- The message about a value. -/
def message : Mismatch → Text
  | notConvertible key wanted v =>
    "'" ++ key ++ "' expected type '" ++ wanted ++ "', got unconvertible type '" ++ v.typeName
      ++ "', value: '" ++ v.shown ++ "'"
  | noTruth key text => "cannot parse '" ++ key ++ "' as bool: " ++ notTruth text

/-- The line about a value in a report. -/
def line (m : Mismatch) : Text :=
  "* " ++ m.message

/-- Put a text into its place in a sorted list. -/
def insertSorted (t : Text) : List Text → List Text
  | [] => [t]
  | x :: rest => if (Text.order t x).isLE then t :: x :: rest else x :: insertSorted t rest

/-- The message about several values. The lines are sorted. -/
def report (ms : List Mismatch) : Text :=
  Text.ofNat ms.length ++ " error(s) decoding:\n\n"
    ++ Text.join "\n" ((ms.map line).foldr insertSorted [])

end Mismatch

namespace Effective

/-- A value as a text. A truth value is a digit. -/
def textOf (key : Text) : Option Value → Except Mismatch Text
  | none | some .null => .ok []
  | some (.text t) => .ok t
  | some (.flag b) => .ok (if b then "1" else "0")
  | some (.int n) | some (.wide n) => .ok (Text.ofInt n)
  | some (.word n) => .ok (Text.ofNat n)
  | some (.float x) => .ok x.positional
  | some (.handling h) => .ok (Text.ofInt h.code)
  | some v => .error (.notConvertible key "string" v)

/-- A value as a truth value. A number is true unless it is zero, and an empty text is false. -/
def flagOf (key : Text) : Option Value → Except Mismatch Bool
  | none | some .null => .ok false
  | some (.flag b) => .ok b
  | some (.int n) | some (.wide n) => .ok (n ≠ 0)
  | some (.word n) => .ok (n ≠ 0)
  | some (.float x) => .ok !x.isZero
  | some (.handling h) => .ok (h.code ≠ 0)
  | some (.text t) =>
    match truth? t with
    | some b => .ok b
    | none => if t.isEmpty then .ok false else .error (.noTruth key t)
  | some v => .error (.notConvertible key "bool" v)

/-- What is wrong, if anything. -/
def mismatch? : Except Mismatch α → List Mismatch
  | .ok _ => []
  | .error m => [m]

/-- The settings in a table, or all that is wrong with them. Other keys do not matter. -/
def ofTable (t : Table) : Except (List Mismatch) Effective :=
  let text (key : Text) := textOf key (t.lookup key)
  let flag (key : Text) := flagOf key (t.lookup key)
  let outputFormat := text "output-format"
  let watch := flag "watch"
  let logLevel := text "log-level"
  let logFormat := text "log-format"
  let logOutput := text "log-output"
  match outputFormat, watch, logLevel, logFormat, logOutput with
  | .ok outputFormat, .ok watch, .ok logLevel, .ok logFormat, .ok logOutput =>
    .ok { outputFormat, watch, logLevel, logFormat, logOutput }
  | _, _, _, _, _ =>
    .error (mismatch? outputFormat ++ mismatch? watch ++ mismatch? logLevel ++ mismatch? logFormat
      ++ mismatch? logOutput)

end Effective

end CqlWriter.Settings
