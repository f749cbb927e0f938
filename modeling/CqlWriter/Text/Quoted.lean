import CqlWriter.Text.Glyph
import CqlWriter.Text.Printable

/-!
# Quoted text

The form of a text between double quotes, in which printable characters stand for themselves and all
else is escaped, so that two texts never share a quoted form.
-/

namespace CqlWriter

namespace Text

/-- The hexadecimal digits of `n`, with zeros in front up to `width` digits. -/
def hex (width n : Nat) : Text :=
  let digits := Nat.toDigits 16 n
  ofChars (List.replicate (width - digits.length) '0' ++ digits)

/-- The letter that follows the backslash in the escape of a control character that has one. -/
def escapeLetter? (c : Char) : Option Text :=
  match c.toNat with
  | 0x07 => some "a"
  | 0x08 => some "b"
  | 0x09 => some "t"
  | 0x0a => some "n"
  | 0x0b => some "v"
  | 0x0c => some "f"
  | 0x0d => some "r"
  | _ => none

/-- A glyph inside double quotes. -/
def quotedGlyph : Glyph → Text
  | .stray b => "\\x" ++ hex 2 b.toNat
  | .char c =>
    if c = '"' || c = '\\' then "\\" ++ ofChars [c]
    else if isPrintable c then ofChars [c]
    else match escapeLetter? c with
      | some l => "\\" ++ l
      | none =>
        if c.toNat < 0x80 then "\\x" ++ hex 2 c.toNat
        else if c.toNat < 0x10000 then "\\u" ++ hex 4 c.toNat
        else "\\U" ++ hex 8 c.toNat

/-- The text between double quotes, with everything escaped that is not printable. -/
def quoted (t : Text) : Text :=
  "\"" ++ t.glyphs.flatMap quotedGlyph ++ "\""

end Text

end CqlWriter
