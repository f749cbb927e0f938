import CqlWriter.Text.Basic

/-!
# Variables in texts

A variable is written `$name` or `${name}`, and its value takes its place.
-/

namespace CqlWriter.Text

/-- Whether a byte may stand in the name of a variable without braces. -/
def isNameByte (b : UInt8) : Bool :=
  (Text.byte '0' ≤ b && b ≤ Text.byte '9') || (Text.byte 'a' ≤ b && b ≤ Text.byte 'z')
  || (Text.byte 'A' ≤ b && b ≤ Text.byte 'Z') || b = Text.byte '_'

/-- The bytes that are names of variables by themselves, beside the digits. -/
def nameMarks : Text := "*#$@!?-"

/-- The name of the variable that a text behind a dollar sign starts with, and how many bytes it
takes. Braces that are empty or are not closed are taken, but hold no name. -/
def variableName : Text → Text × Nat
  | [] => ([], 0)
  | 0x7b :: rest =>
    if rest.contains 0x7d then
      let name := rest.takeWhile (· ≠ 0x7d)
      (name, name.length + 2)
    else ([], 1)
  | b :: rest =>
    if nameMarks.contains b || (Text.byte '0' ≤ b && b ≤ Text.byte '9') then ([b], 1)
    else
      let name := (b :: rest).takeWhile isNameByte
      (name, name.length)

/-- A text with the values of the variables in it. A dollar sign without a name stays. -/
def expand (value : Text → Text) : Text → Text
  | [] => []
  | [b] => [b]
  | b :: c :: rest =>
    if b = Text.byte '$' then
      let (name, width) := variableName (c :: rest)
      let new := if name.isEmpty then (if width = 0 then [b] else []) else value name
      new ++ expand value ((c :: rest).drop width)
    else b :: expand value (c :: rest)
  termination_by t => t.length
  decreasing_by all_goals (simp only [List.length_drop, List.length_cons]; omega)

/-- The names of the variables in a text. -/
def variableNames : Text → List Text
  | [] => []
  | b :: rest =>
    if b = Text.byte '$' then (variableName rest).1 :: variableNames rest else variableNames rest

end CqlWriter.Text
