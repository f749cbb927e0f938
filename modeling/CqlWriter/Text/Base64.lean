import CqlWriter.Text.Basic

/-!
# Base 64

Bytes written in groups of four letters, six bits each. The last group is filled up with `=`, and
line breaks between the letters do not count.
-/

namespace CqlWriter

namespace Text

/-- The six bits that a letter stands for. -/
def sextet? (b : UInt8) : Option Nat :=
  let n := b.toNat
  if 0x41 ≤ n && n ≤ 0x5a then some (n - 0x41)
  else if 0x61 ≤ n && n ≤ 0x7a then some (n - 0x61 + 26)
  else if 0x30 ≤ n && n ≤ 0x39 then some (n - 0x30 + 52)
  else if n = 0x2b then some 62
  else if n = 0x2f then some 63
  else none

/-- The first `count` of the three bytes of a group. -/
def groupBytes (count a b c d : Nat) : Text :=
  let n := ((a * 64 + b) * 64 + c) * 64 + d
  ([n / 65536, n / 256, n].take count).map Nat.toUInt8

/-- The bytes of the groups of a text without line breaks. -/
def ofGroups? : Text → Option Text
  | [] => some []
  | [a, b, 0x3d, 0x3d] => do pure (groupBytes 1 (← sextet? a) (← sextet? b) 0 0)
  | [a, b, c, 0x3d] => do pure (groupBytes 2 (← sextet? a) (← sextet? b) (← sextet? c) 0)
  | a :: b :: c :: d :: rest => do
    let bytes := groupBytes 3 (← sextet? a) (← sextet? b) (← sextet? c) (← sextet? d)
    pure (bytes ++ (← ofGroups? rest))
  | _ => none

/-- The bytes that a text stands for in base 64. -/
def ofBase64? (t : Text) : Option Text :=
  ofGroups? (t.filter fun b => b ≠ 0x0a && b ≠ 0x0d)

/-- The letter for six bits. -/
def sextetLetter (n : Nat) : UInt8 :=
  if n < 26 then (n + 0x41).toUInt8
  else if n < 52 then (n - 26 + 0x61).toUInt8
  else if n < 62 then (n - 52 + 0x30).toUInt8
  else if n = 62 then 0x2b
  else 0x2f

/-- The letters for three bytes. -/
def groupLetters (a b c : UInt8) : Text :=
  let n := (a.toNat * 256 + b.toNat) * 256 + c.toNat
  [n / 262144, n / 4096 % 64, n / 64 % 64, n % 64].map sextetLetter

/-- A text in base 64. -/
def toBase64 : Text → Text
  | [] => []
  | [a] => (groupLetters a 0 0).take 2 ++ "=="
  | [a, b] => (groupLetters a b 0).take 3 ++ "="
  | a :: b :: c :: rest => groupLetters a b c ++ toBase64 rest

end Text

end CqlWriter
