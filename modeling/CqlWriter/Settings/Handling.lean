import CqlWriter.Text.Glyph

/-!
# Missing configuration files

What is done when a configuration file is not found.
-/

namespace CqlWriter.Settings

/-- What is done when a configuration file is not found. A number that has no meaning is kept. -/
inductive Handling where
  | ignore
  | warn
  | error
  | exit
  | other (code : Int)
  deriving DecidableEq, Repr

namespace Handling

/-- The handling with a given number. -/
def ofCode : Int → Handling
  | 0 => ignore
  | 1 => warn
  | 2 => error
  | 3 => exit
  | n => other n

/-- The number of a handling. -/
def code : Handling → Int
  | ignore => 0
  | warn => 1
  | error => 2
  | exit => 3
  | other n => n

/-- The name of a handling. -/
def name : Handling → Text
  | ignore => "ignore"
  | warn => "warn"
  | error => "error"
  | exit => "exit"
  | other _ => "<UNKNOWN>"

/-- The name of this kind of value. -/
def typeName : Text := "ConfigFileNotFoundHandling"

/-- The handling with a given name in any case. -/
def ofName? (name : Text) : Option Handling :=
  [ignore, warn, error, exit].find? (·.name = name.lower)

/-- The message about a name that no handling has. -/
def unknownName (name : Text) : Text :=
  "unknown handling name " ++ name

/-- The handling with a given name, or a message. -/
def ofName (name : Text) : Except Text Handling :=
  match ofName? name with
  | some h => .ok h
  | none => .error (unknownName name)

end Handling

end CqlWriter.Settings
