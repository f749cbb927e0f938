import CqlWriter.Number.Integer

/-!
# Double precision numbers

A finite number is a significand of at most fifty-three bits times a power of two. A decimal is read
as the nearest such number, the one with the even significand when two are equally near.
-/

namespace CqlWriter

/-- A double precision number. The value of a finite one is `significand * 2 ^ exponent`, with a
minus sign when it is negative. -/
inductive Binary64 where
  | finite (negative : Bool) (significand : Nat) (exponent : Int)
  | infinite (negative : Bool)
  | nan
  deriving DecidableEq, Repr

/-- A natural number scaled by a power of `base`, as a fraction. -/
def scaled (base n : Nat) (exponent : Int) : Nat × Nat :=
  if exponent < 0 then (n, power base exponent.natAbs) else (n * power base exponent.natAbs, 1)

/-- The whole number nearest to a fraction, the even one of two that are equally near. -/
def roundHalfEven (num den : Nat) : Nat :=
  let q := num / den
  let r := num % den
  if 2 * r < den || (2 * r = den && q % 2 = 0) then q else q + 1

namespace Binary64

/-- The least exponent of a significand. -/
def minExponent : Int := -1074

/-- The greatest exponent of a significand. -/
def maxExponent : Int := 971

/-- The exponent at which a positive fraction has a significand of fifty-three bits, or the least
exponent if that is greater. -/
def exponentOf (num den : Nat) : Int :=
  let e : Int := num.log2 - den.log2 - 52
  let (n, d) := scaled 2 num (-e)
  let e := if n < den * d * power 2 52 then e - 1 else e
  max e minExponent

/-- A fraction in units of `2 ^ e`, rounded to a whole number. -/
def significandAt (num den : Nat) (e : Int) : Nat :=
  let (n, d) := scaled 2 num (-e)
  roundHalfEven n (den * d)

/-- The number with a significand and an exponent, or nothing if the exponent is too great. -/
def ofParts? (negative : Bool) (significand : Nat) (exponent : Int) : Option Binary64 :=
  if maxExponent < exponent then none else some (.finite negative significand exponent)

/-- The number nearest to a fraction, or nothing if it is too great. -/
def ofFraction? (negative : Bool) (num den : Nat) : Option Binary64 :=
  if num = 0 then some (.finite negative 0 minExponent)
  else
    let e := exponentOf num den
    let m := significandAt num den e
    if m = power 2 53 then ofParts? negative (power 2 52) (e + 1) else ofParts? negative m e

/-- The number nearest to `digits * 10 ^ exponent`, or nothing if it is too great. `places` is the
number of decimal digits of `digits`; far outside the range the answer does not depend on them. -/
def ofDecimal? (negative : Bool) (digits places : Nat) (exponent : Int) : Option Binary64 :=
  if digits = 0 || (places : Int) + exponent < -400 then some (.finite negative 0 minExponent)
  else if 400 < (places : Int) + exponent then none
  else
    let (num, den) := scaled 10 digits exponent
    ofFraction? negative num den

/-- The double precision number nearest to an integer; all integers of sixty-four bits have one. -/
def ofInt (n : Int) : Binary64 :=
  (ofFraction? (n < 0) n.natAbs 1).getD .nan

/-- Whether the number is zero, with either sign. -/
def isZero : Binary64 → Bool
  | .finite _ 0 _ => true
  | _ => false

/-- Whether the magnitude of the number is at least `2 ^ k`. -/
def atLeastPow2 (k : Nat) : Binary64 → Bool
  | .finite _ m e => let (n, d) := scaled 2 m e; decide (power 2 k * d ≤ n)
  | .infinite _ => true
  | .nan => false

/-- The whole part of the magnitude of a finite number. -/
def wholePart : Binary64 → Nat
  | .finite _ m e => let (n, d) := scaled 2 m e; n / d
  | _ => 0

/-- The sixty-four bit word of a number, rounded towards zero. A negative number is taken modulo
`2 ^ 64`; what lies beyond the integers with a sign gives `2 ^ 63`. There is none for a number above
`2 ^ 64` and for what is not a number. -/
def toWord? : Binary64 → Option UInt64
  | .nan => none
  | .infinite negative => if negative then some (power 2 63).toUInt64 else none
  | .finite negative m e =>
    let whole := (finite negative m e).wholePart
    if negative then
      if whole ≤ power 2 63 then some (power 2 64 - whole).toUInt64 else some (power 2 63).toUInt64
    else if whole < power 2 64 then some whole.toUInt64
    else if (finite negative m e) = ofInt (power 2 64) then some 0
    else none

/-- The integer of a number, rounded towards zero; `-2 ^ 63` where none of sixty-four bits is
near. -/
def toInt : Binary64 → Int
  | .finite negative m e =>
    let whole := (finite negative m e).wholePart
    if whole < power 2 63 then (if negative then -whole else whole) else -power 2 63
  | _ => -power 2 63

/-- A decimal in parts: whole digits, digits after the point, and the exponent. -/
structure Decimal where
  negative : Bool
  whole : Text
  fraction : Text
  exponent : Int

/-- The exponent that a text after the mark `e` stands for: digits after an optional sign. -/
def exponentOf? (t : Text) : Option Int := do
  let (negative, digits) := Integer.signed t
  if digits.isEmpty || !digits.all Integer.isDigit then none
  -- From ten thousand on an exponent stands for a number that is too great or zero in any case.
  let more (n : Nat) (b : UInt8) : Nat := if n < 10000 then n * 10 + (b.toNat - 0x30) else n
  let n : Nat := digits.foldl more 0
  pure (if negative then -n else n)

/-- Read a decimal: digits with an optional point, and an optional exponent after `e` or `E`. There
is at least one digit before the exponent. -/
def decimal? (t : Text) : Option Decimal := do
  let (negative, rest) := Integer.signed t
  let whole := rest.takeWhile Integer.isDigit
  let rest := rest.dropWhile Integer.isDigit
  let (fraction, rest) :=
    match rest with
    | 0x2e :: r => (r.takeWhile Integer.isDigit, r.dropWhile Integer.isDigit)
    | r => ([], r)
  if whole.isEmpty && fraction.isEmpty then none
  let exponent ←
    match rest with
    | [] => some 0
    | b :: r => if Integer.lowerByte b = Text.byte 'e' then exponentOf? r else none
  pure ⟨negative, whole, fraction, exponent⟩

/-- The double precision number nearest to a decimal, or nothing if it is too great. -/
def Decimal.value? (d : Decimal) : Option Binary64 := do
  let digits := (d.whole ++ d.fraction).dropWhile (· = 0x30)
  let n ← Integer.digitsFrom? 10 0 digits
  ofDecimal? d.negative n digits.length (d.exponent - d.fraction.length)

/-- The double precision number nearest to a decimal text, or nothing if the text is no decimal or
the number is too great. -/
def ofText? (t : Text) : Option Binary64 := do
  (← decimal? t).value?

/-- As `ofText?`, for a decimal in which low lines may stand between digits. -/
def ofSpacedText? (t : Text) : Option Binary64 :=
  if t.contains (Text.byte '_') && !Integer.linesOk t then none
  else ofText? (t.filter (· ≠ Text.byte '_'))

end Binary64

end CqlWriter
