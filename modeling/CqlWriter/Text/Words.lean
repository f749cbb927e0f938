import CqlWriter.Text.Glyph

/-!
# Words

A text is cut into words at white space.
-/

namespace CqlWriter

/-- The ranges of characters that count as white space. -/
def blankRanges : List (Nat × Nat) :=
  [(0x09, 0x0d), (0x20, 0x20), (0x85, 0x85), (0xa0, 0xa0), (0x1680, 0x1680), (0x2000, 0x200a),
    (0x2028, 0x2029), (0x202f, 0x202f), (0x205f, 0x205f), (0x3000, 0x3000)]

/-- Whether a character is white space. -/
def isBlank (c : Char) : Bool :=
  blankRanges.any fun (first, last) => first ≤ c.toNat && c.toNat ≤ last

namespace Glyph

/-- The bytes that a glyph was read from. -/
def bytes : Glyph → Text
  | .char c => Text.ofChars [c]
  | .stray b => [b]

/-- Whether a glyph is white space. -/
def isBlank : Glyph → Bool
  | .char c => CqlWriter.isBlank c
  | .stray _ => false

end Glyph

namespace Text

/-- The words of a list of glyphs, where `current` holds the bytes of a word that has begun. -/
def wordsFrom (current : Text) : List Glyph → List Text
  | [] => if current.isEmpty then [] else [current]
  | g :: rest =>
    if g.isBlank then
      if current.isEmpty then wordsFrom [] rest else current :: wordsFrom [] rest
    else wordsFrom (current ++ g.bytes) rest

/-- The words of a text. -/
def words (t : Text) : List Text :=
  wordsFrom [] t.glyphs

end Text

end CqlWriter
