import CqlWriter.Number.Binary64

/-!
# Shortest decimals

A finite number is written with the fewest digits that are read back as that number; of the decimals
with that many digits the nearest is taken, and of two equally near ones the even one.
-/

namespace CqlWriter

namespace Binary64

/-- A positive decimal `digits * 10 ^ exponent`. -/
structure Digits where
  digits : Nat
  exponent : Int
  deriving DecidableEq, Repr

/-- The number of decimal digits of a natural number, one for zero. -/
def places (n : Nat) : Nat :=
  (Nat.toDigits 10 n).length

/-- The exponent of the leading decimal digit of a positive fraction. -/
def leading (num den : Nat) : Int :=
  if den ≤ num then (places (num / den) : Int) - 1
  else -(places ((den + num - 1) / num - 1) : Int)

/-- The fractions that are read back as `m * 2 ^ e` lie between these bounds, here multiplied by
four so that they are whole multiples of the unit `2 ^ e`. -/
def bounds (m : Nat) (e : Int) : Nat × Nat :=
  (if m = power 2 52 && e ≠ minExponent then 4 * m - 1 else 4 * m - 2, 4 * m + 2)

/-- Whether the decimal `c * 10 ^ p` is read back as `m * 2 ^ e`. -/
def readsBack (m : Nat) (e p : Int) (c : Nat) : Bool :=
  let (lower, upper) := bounds m e
  let (unit, part) := scaled 2 1 e
  let (up, down) := scaled 10 1 (-p)
  -- The decimal is compared with `bound / 4` units of `2 ^ e`.
  let side := 4 * c * part * down
  let edge (bound : Nat) : Nat := bound * unit * up
  if m % 2 = 0 then edge lower ≤ side && side ≤ edge upper
  else edge lower < side && side < edge upper

/-- Of the two decimals with last digit at `10 ^ p` around `m * 2 ^ e`, the one to write, if either
is read back as that number. -/
def around? (m : Nat) (e p : Int) : Option Digits :=
  let (n, d) := scaled 2 m e
  -- In units of `10 ^ p` the number is `num / den`.
  let (up, down) := scaled 10 1 (-p)
  let num := n * up
  let den := d * down
  let c := num / den
  match readsBack m e p c, readsBack m e p (c + 1) with
  | true, true => some ⟨roundHalfEven num den, p⟩
  | true, false => some ⟨c, p⟩
  | false, true => some ⟨c + 1, p⟩
  | false, false => none

/-- The first decimal that is read back as `m * 2 ^ e` when the last digit moves to the right from
`10 ^ p`, for at most `fuel` more digits. -/
def shortestFrom (m : Nat) (e : Int) : (fuel : Nat) → (p : Int) → Digits
  | 0, p => ⟨0, p⟩
  | fuel + 1, p => (around? m e p).getD (shortestFrom m e fuel (p - 1))

/-- The shortest decimal that is read back as `m * 2 ^ e`, which is not zero. Seventeen digits are
always enough. -/
def shortest (m : Nat) (e : Int) : Digits :=
  let (num, den) := scaled 2 m e
  shortestFrom m e 18 (leading num den)

end Binary64

end CqlWriter
