import CqlWriter.Text.Basic

/-!
# Integer literals

An integer is written in decimal, or after `0x`, `0o` or `0b` in another base; a leading zero alone
makes it octal. A low line may stand between two digits, or between the mark of the base and a
digit.
-/

namespace CqlWriter

/-- The power of a natural number with exponent `n`. -/
def power (base n : Nat) : Nat :=
  Nat.pow base n

namespace Integer

/-- Whether a byte is a decimal digit. -/
def isDigit (b : UInt8) : Bool :=
  0x30 ≤ b && b ≤ 0x39

/-- A byte in lower case when it is an ASCII letter. -/
def lowerByte (b : UInt8) : UInt8 :=
  if 0x41 ≤ b && b ≤ 0x5a then b + 0x20 else b

/-- The value of a digit in the given base, at most thirty-six. -/
def digit? (base : Nat) (b : UInt8) : Option Nat :=
  let n := lowerByte b
  let value := if isDigit n then some (n.toNat - 0x30)
    else if 0x61 ≤ n && n ≤ 0x7a then some (n.toNat - 0x61 + 10) else none
  value.filter (· < base)

/-- The number whose digits continue those of `start`. -/
def digitsFrom? (base : Nat) : (start : Nat) → Text → Option Nat
  | n, [] => some n
  | n, b :: rest => do
    let d ← digit? base b
    digitsFrom? base (n * base + d) rest

/-- The text without a sign, and whether that sign was a minus. -/
def signed : Text → Bool × Text
  | 0x2d :: rest => (true, rest)
  | 0x2b :: rest => (false, rest)
  | t => (false, t)

/-- The base that a literal names, and the digits that follow. -/
def baseOf : Text → Nat × Text
  | 0x30 :: x :: d :: rest =>
    let x := lowerByte x
    if x = Text.byte 'b' then (2, d :: rest)
    else if x = Text.byte 'o' then (8, d :: rest)
    else if x = Text.byte 'x' then (16, d :: rest)
    else (8, x :: d :: rest)
  | 0x30 :: rest => (8, rest)
  | t => (10, t)

/-- What stood before a byte of a number: nothing yet, a digit, a low line, or something else. -/
inductive Before where
  | start
  | digit
  | line
  | other
  deriving DecidableEq

/-- Whether every low line stands between digits, after what `before` tells. -/
def linesOkFrom (hex : Bool) : Before → Text → Bool
  | before, [] => before != .line
  | before, b :: rest =>
    if isDigit b || (hex && Text.byte 'a' ≤ lowerByte b && lowerByte b ≤ Text.byte 'f') then
      linesOkFrom hex .digit rest
    else if b = Text.byte '_' then before == .digit && linesOkFrom hex .line rest
    else before != .line && linesOkFrom hex .other rest

/-- Whether every low line of a number stands between digits, where the mark of a base counts as
one. -/
def linesOk (t : Text) : Bool :=
  match (signed t).2 with
  | 0x30 :: x :: rest =>
    let x := lowerByte x
    if x = Text.byte 'b' || x = Text.byte 'o' || x = Text.byte 'x' then
      linesOkFrom (x = Text.byte 'x') .digit rest
    else linesOkFrom false .start (0x30 :: x :: rest)
  | t => linesOkFrom false .start t

/-- The number that a literal without a sign stands for. -/
def magnitude? (t : Text) : Option Nat :=
  if t.isEmpty then none
  else if t.contains (Text.byte '_') && !linesOk t then none
  else
    let (base, digits) := baseOf t
    digitsFrom? base 0 (digits.filter (· ≠ Text.byte '_'))

/-- The number that a literal without a sign stands for, if it is below `2 ^ 64`. -/
def word? (t : Text) : Option Nat :=
  (magnitude? t).filter (· < power 2 64)

/-- Attach a sign to a magnitude, if the result fits in sixty-four bits with a sign. -/
def attach? (negative : Bool) (n : Nat) : Option Int :=
  if negative then (if n ≤ power 2 63 then some (-n) else none)
  else if n < power 2 63 then some n else none

/-- The integer that a literal stands for, if it fits in sixty-four bits with a sign. -/
def ofText? (t : Text) : Option Int := do
  let (negative, rest) := signed t
  attach? negative (← magnitude? rest)

/-- Why a literal does not stand for an integer of sixty-four bits. -/
inductive Failure where
  | malformed
  /-- It is too great; the nearest integer that fits takes its place. -/
  | tooWide (nearest : Int)
  deriving DecidableEq, Repr

/-- The message about a failure. -/
def Failure.message : Failure → Text
  | malformed => "invalid syntax"
  | tooWide _ => "value out of range"

/-- Whether the leading digits of a literal without a sign already make it too great. -/
def overflows (t : Text) : Bool :=
  let (base, digits) := baseOf t
  let used := digits.takeWhile fun b => b = Text.byte '_' || (digit? base b).isSome
  ((digitsFrom? base 0 (used.filter (· ≠ Text.byte '_'))).getD 0) ≥ power 2 64

/-- Read a literal as an integer of sixty-four bits. -/
def read (t : Text) : Except Failure Int :=
  let (negative, rest) := signed t
  let wide : Failure := .tooWide (if negative then -power 2 63 else power 2 63 - 1)
  if overflows rest then .error wide
  else match magnitude? rest with
  | none => .error .malformed
  | some n =>
    match attach? negative n with
    | some k => .ok k
    | none => .error wide

/-- The integer with the given digits in a fixed base, after an optional sign. -/
def ofDigits? (base : Nat) (t : Text) : Option Int := do
  let (negative, rest) := signed t
  if rest.isEmpty then none
  attach? negative (← digitsFrom? base 0 rest)

end Integer

end CqlWriter
