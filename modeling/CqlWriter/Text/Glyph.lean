import CqlWriter.Text.Basic
import CqlWriter.Text.LowerCase

/-!
# Reading a text as characters

The bytes of a text need not be UTF-8. Read from the left, a text is a list of glyphs: a well-formed
byte sequence is a character, and a byte that starts none is a stray byte of its own.
-/

namespace CqlWriter

/-- One step of reading a text: a character, or a byte that belongs to none. -/
inductive Glyph where
  | char (c : Char)
  | stray (b : UInt8)
  deriving DecidableEq, Repr

namespace Glyph

/-- The character shown in place of a stray byte. -/
def replacement : Char := '\ufffd'

/-- The character that is shown for the glyph. -/
def shown : Glyph → Char
  | .char c => c
  | .stray _ => replacement

/-- The value of a byte of the form `10xxxxxx`. -/
def tail? (b : UInt8) : Option Nat :=
  if 0x80 ≤ b ∧ b ≤ 0xbf then some (b.toNat - 0x80) else none

/-- The character with code `n`, if there is one and `n` is at least `least`. -/
def code? (least n : Nat) : Option Char :=
  if n < least then none
  else if h : n.isValidChar then some (Char.ofNatAux n h) else none

/-- The character that starts with the byte `lead`, and how many of the following bytes it takes. -/
def lead? (lead : UInt8) (rest : Text) : Option (Char × Nat) :=
  let n := lead.toNat
  if n < 0x80 then some (Char.ofNat n, 0)
  else if n < 0xc0 then none
  else if n < 0xe0 then
    match rest with
    | a :: _ => do
      let x ← tail? a
      let c ← code? 0x80 ((n - 0xc0) * 64 + x)
      pure (c, 1)
    | _ => none
  else if n < 0xf0 then
    match rest with
    | a :: b :: _ => do
      let x ← tail? a
      let y ← tail? b
      let c ← code? 0x800 (((n - 0xe0) * 64 + x) * 64 + y)
      pure (c, 2)
    | _ => none
  else if n < 0xf8 then
    match rest with
    | a :: b :: d :: _ => do
      let x ← tail? a
      let y ← tail? b
      let z ← tail? d
      let c ← code? 0x10000 ((((n - 0xf0) * 64 + x) * 64 + y) * 64 + z)
      pure (c, 3)
    | _ => none
  else none

/-- The glyphs of a text after `skip` bytes that belong to a character already read. -/
def readFrom : (skip : Nat) → Text → List Glyph
  | _, [] => []
  | 0, b :: rest =>
    match lead? b rest with
    | some (c, n) => .char c :: readFrom n rest
    | none => .stray b :: readFrom 0 rest
  | n + 1, _ :: rest => readFrom n rest

end Glyph

namespace Text

/-- The glyphs of a text, from the left. -/
def glyphs (t : Text) : List Glyph :=
  Glyph.readFrom 0 t

/-- The characters of a text, if no byte of it is stray. -/
def chars? (t : Text) : Option (List Char) :=
  t.glyphs.mapM fun
    | .char c => some c
    | .stray _ => none

/-- The text as a string, with the replacement character for each stray byte. -/
def shown (t : Text) : String :=
  String.ofList (t.glyphs.map Glyph.shown)

/-- The text with every letter in lower case. A stray byte becomes the replacement character. -/
def lower (t : Text) : Text :=
  ofChars (t.glyphs.map fun g => lowerChar g.shown)

end Text

end CqlWriter
