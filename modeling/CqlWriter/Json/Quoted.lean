import CqlWriter.Text.Quoted

/-!
# JSON strings

A text between quotes. What must be escaped always is: quotes, backslashes, control characters, the
two separators that some readers take for line breaks, and bytes that belong to no character. A
style tells which letters stand for control characters and whether characters of markup are escaped
too.
-/

namespace CqlWriter.Json

/-- A style of escaping. -/
structure Style where
  /-- The control characters that are written with a letter. -/
  letters : List (Char × Char)
  /-- Whether `<`, `>` and `&` are escaped. -/
  markup : Bool

namespace Style

/-- The style of documents, which may be put into a page of markup. -/
def document : Style where
  letters := [('\x08', 'b'), ('\x0c', 'f'), ('\n', 'n'), ('\x0d', 'r'), ('\t', 't')]
  markup := true

/-- The style of log lines. -/
def log : Style where
  letters := [('\n', 'n'), ('\x0d', 'r'), ('\t', 't')]
  markup := false

/-- Whether a character is written by its number. -/
def escapes (s : Style) (c : Char) : Bool :=
  c.toNat < 0x20 || c = '\u2028' || c = '\u2029'
  || (s.markup && (c = '<' || c = '>' || c = '&'))

/-- A character between quotes. -/
def char (s : Style) (c : Char) : Text :=
  if c = '"' then "\\\""
  else if c = '\\' then "\\\\"
  else match s.letters.lookup c with
  | some letter => Text.ofChars ['\\', letter]
  | none => if s.escapes c then "\\u" ++ Text.hex 4 c.toNat else Text.ofChars [c]

/-- A character or a stray byte between quotes. -/
def glyph (s : Style) : Glyph → Text
  | .char c => s.char c
  | .stray _ => "\\ufffd"

/-- A text between quotes. -/
def quoted (s : Style) (t : Text) : Text :=
  "\"" ++ t.glyphs.flatMap s.glyph ++ "\""

end Style

end CqlWriter.Json
