import CqlWriter.Json.Quoted
import CqlWriter.Log.Level

/-!
# Records of a log

A record has a level, a message and attributes. It is written as one line: in words of the form
`key=value`, as a JSON object, or plainly with the level in front.
-/

namespace CqlWriter.Log

/-- The value of an attribute. -/
inductive Value where
  | text (t : Text)
  | number (n : Int)
  | flag (b : Bool)
  deriving DecidableEq, Repr

/-- A record of a log. The attributes are in the order in which they are written. -/
structure Record where
  level : Level
  message : Text
  attributes : List (Text × Value) := []
  deriving DecidableEq, Repr

/-- The text of a truth value. -/
def flagText (b : Bool) : Text :=
  if b then "true" else "false"

/-! ### Lines of words -/

/-- Whether a character or a stray byte cannot stand in a word without quotes. A backslash can. -/
def needsQuotes : Glyph → Bool
  | .stray _ => true
  | .char c =>
    if c.toNat < 0x80 then c.toNat ≤ 0x20 || c = '=' || c = '"'
    else c = Glyph.replacement || !isPrintable c

/-- A text as a word of a line, in quotes if it needs them. -/
def word (t : Text) : Text :=
  if t.isEmpty || t.glyphs.any needsQuotes then t.quoted else t

/-- The value of an attribute as a word of a line. -/
def Value.word : Value → Text
  | text t => Log.word t
  | number n => Text.ofInt n
  | flag b => flagText b

/-- An attribute as words of a line. -/
def attributeWords (a : Text × Value) : Text :=
  " " ++ word a.1 ++ "=" ++ a.2.word

/-- A record as a line of words. -/
def Record.textLine (r : Record) : Text :=
  "level=" ++ r.level.name ++ " msg=" ++ word r.message ++ r.attributes.flatMap attributeWords
    ++ "\n"

/-- A text that ends a line. -/
def lineEnded (t : Text) : Text :=
  if t.getLast? = some (Text.byte '\n') then t else t ++ "\n"

/-- A record as a plain line: the level and the message as they are, then the attributes. -/
def Record.plainLine (r : Record) : Text :=
  lineEnded (r.level.name ++ " " ++ r.message ++ r.attributes.flatMap attributeWords)

/-! ### Lines of JSON -/

/-- The value of an attribute in a JSON object. -/
def Value.json : Value → Text
  | text t => Json.Style.log.quoted t
  | number n => Text.ofInt n
  | flag b => flagText b

/-- An attribute in a JSON object. -/
def attributeJson (a : Text × Value) : Text :=
  "," ++ Json.Style.log.quoted a.1 ++ ":" ++ a.2.json

/-- A record as a line with a JSON object. -/
def Record.jsonLine (r : Record) : Text :=
  "\x7b\"level\":\"" ++ r.level.name ++ "\",\"msg\":" ++ Json.Style.log.quoted r.message
  ++ r.attributes.flatMap attributeJson ++ "\x7d\n"

/-- The forms of a line that can be chosen. -/
inductive Format where
  | text
  | json
  deriving DecidableEq, Repr

/-- The form with a given name in any case; any other name than `text` means JSON. -/
def Format.ofName (name : Text) : Format :=
  if name.lower = "text" then .text else .json

/-- A record as a line of a given form. -/
def Record.line (r : Record) : Format → Text
  | .text => r.textLine
  | .json => r.jsonLine

end CqlWriter.Log
