import CqlWriter.Number.Shortest

/-!
# The text of a number

A finite number is written with its shortest digits, either in positional notation or with an
exponent of at least two digits.
-/

namespace CqlWriter

namespace Binary64

/-- A number as it is written: its sign, its digits without zeros at the end, and the power of ten
that the first digit counts. Zero has no digits. -/
structure Written where
  negative : Bool
  digits : Text
  leading : Int
  deriving DecidableEq, Repr

/-- The sign and digits of a finite number. -/
def written (negative : Bool) (m : Nat) (e : Int) : Written :=
  if m = 0 then ⟨negative, [], -1⟩
  else
    let d := shortest m e
    let digits := Text.ofNat d.digits
    ⟨negative, (digits.reverse.dropWhile (· = 0x30)).reverse, d.exponent + digits.length - 1⟩

/-- So many zeros. -/
def zeros (n : Nat) : Text :=
  List.replicate n (Text.byte '0')

namespace Written

/-- A minus sign in front of a negative number. -/
def sign (w : Written) : Text :=
  if w.negative then "-" else ""

/-- The digits before the point, with zeros added up to it. -/
def wholeDigits (w : Written) : Text :=
  if w.leading < 0 then "0"
  else
    let n := w.leading.toNat + 1
    w.digits.take n ++ zeros (n - w.digits.length)

/-- The digits after the point, with zeros between it and the first of them. -/
def fractionDigits (w : Written) : Text :=
  if w.digits.isEmpty then []
  else if w.leading < 0 then zeros (-w.leading - 1).toNat ++ w.digits
  else w.digits.drop (w.leading.toNat + 1)

/-- Digits behind a point, and nothing at all without digits. -/
def pointed (digits : Text) : Text :=
  if digits.isEmpty then "" else "." ++ digits

/-- The number in positional notation. -/
def positional (w : Written) : Text :=
  w.sign ++ w.wholeDigits ++ pointed w.fractionDigits

/-- The number with an exponent, which has a sign and at least two digits. -/
def scientific (w : Written) : Text :=
  let exponent := Text.ofNat w.leading.natAbs
  w.sign ++ w.digits.take 1 ++ pointed (w.digits.drop 1) ++ "e"
    ++ (if w.leading < 0 then "-" else "+")
    ++ zeros (2 - exponent.length) ++ exponent

/-- The number in positional notation, or with an exponent when the first digit counts less than
`10 ^ -4` or at least `10 ^ 6`. -/
def general (w : Written) : Text :=
  if w.leading < -4 || 6 ≤ w.leading then w.scientific else w.positional

end Written

/-- The text of a number, where a finite one is written by `finite`. -/
def textBy (finite : Written → Text) : Binary64 → Text
  | .finite negative m e => finite (written negative m e)
  | .infinite false => "+Inf"
  | .infinite true => "-Inf"
  | .nan => "NaN"

/-- The text of a number in positional notation. -/
def positional : Binary64 → Text :=
  textBy Written.positional

/-- The text of a number in the shorter of the two notations. -/
def general : Binary64 → Text :=
  textBy Written.general

end Binary64

end CqlWriter
