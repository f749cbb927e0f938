import CqlWriter.Text.Glyph

/-!
# Levels of a log
-/

namespace CqlWriter.Log

/-- How much a record matters. -/
inductive Level where
  | debug
  | info
  | warn
  | error
  deriving DecidableEq, Repr

namespace Level

/-- The level with a given name in any case; any other name means `info`. -/
def ofName (name : Text) : Level :=
  let lower := name.lower
  if lower = "debug" then debug
  else if lower = "warn" then warn
  else if lower = "error" then error
  else info

/-- The name of a level. -/
def name : Level → Text
  | debug => "DEBUG"
  | info => "INFO"
  | warn => "WARN"
  | error => "ERROR"

/-- The rank of a level: the more it matters, the greater. -/
def rank : Level → Int
  | debug => -4
  | info => 0
  | warn => 4
  | error => 8

end Level

end CqlWriter.Log
