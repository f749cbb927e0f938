import Mathlib
import CqlWriter.Proofs.IntegerSpellings
import CqlWriter.Proofs.Reading
import CqlWriter.Proofs.Rounding

/-!
# Integers of more than sixty-four bits

A decimal integer that is too wide for sixty-four bits is resolved to a number of double precision,
and its operand is made from its digits. This needs a finite number: an integer that is too great
for double precision is resolved to a text, and its operand is a string literal.
-/

namespace CqlWriter

open Yaml

namespace Integer

/-! ### The digits of a number -/

lemma digitsValue_concat (base : Nat) (digits : Text) (b : UInt8) :
    digitsValue base (digits ++ [b]) = digitsValue base digits * base + (digit? base b).getD 0 := by
  simp [digitsValue]

/-- A number is at least as great as its first digit with zeros behind it. -/
lemma mul_pow_le_foldl (base n : Nat) (digits : Text) :
    n * base ^ digits.length
      ≤ digits.foldl (fun n b => n * base + (digit? base b).getD 0) n := by
  induction digits generalizing n with
  | nil => simp
  | cons b rest ih =>
    calc n * base ^ (b :: rest).length = n * base * base ^ rest.length := by
          rw [List.length_cons, pow_succ]
          ring
      _ ≤ (n * base + (digit? base b).getD 0) * base ^ rest.length := by
          gcongr
          omega
      _ ≤ _ := ih _

/-- A decimal digit has a value, of which it is the decimal text. -/
lemma exists_digit {b : UInt8} (h : isDigit b) :
    ∃ d < 10, digit? 10 b = some d ∧ String.utf8EncodeChar d.digitChar = [b] := by
  revert b
  decide +kernel

/-- The digits of a number without a zero in front are the decimal text of the number. -/
lemma ofNat_digitsValue {digits : Text} (hdigits : ∀ b ∈ digits, isDigit b) (hne : digits ≠ [])
    (hzero : digits.head? ≠ some 0x30) : Text.ofNat (digitsValue 10 digits) = digits := by
  induction digits using List.reverseRecOn with
  | nil => exact absurd rfl hne
  | append_singleton front b ih =>
    obtain ⟨d, hd, hvalue, htext⟩ := exists_digit (hdigits b (by simp))
    rw [digitsValue_concat, hvalue, Option.getD_some]
    by_cases hfront : front = []
    · subst hfront
      simp [digitsValue, Text.ofNat_of_lt hd, htext]
    · rw [List.head?_append_of_ne_nil _ hfront] at hzero
      have hdecimal := ih (fun c hc => hdigits c (by simp [hc])) hfront hzero
      have hpos : digitsValue 10 front ≠ 0 := by
        intro heq
        rw [heq] at hdecimal
        rw [← hdecimal] at hzero
        exact hzero rfl
      rw [Text.ofNat_of_le (by omega), show (digitsValue 10 front * 10 + d) / 10
        = digitsValue 10 front by omega, show (digitsValue 10 front * 10 + d) % 10 = d by omega,
        hdecimal, htext]

/-- A number with so many digits and no zero in front is at least a power of ten. -/
lemma pow_le_digitsValue {digits : Text} (hdigits : ∀ b ∈ digits, isDigit b) (hne : digits ≠ [])
    (hzero : digits.head? ≠ some 0x30) : 10 ^ (digits.length - 1) ≤ digitsValue 10 digits := by
  cases digits with
  | nil => exact absurd rfl hne
  | cons b rest =>
    obtain ⟨d, -, hvalue, htext⟩ := exists_digit (hdigits b (by simp))
    have hpos : 1 ≤ d := by
      by_contra hd
      obtain rfl : d = 0 := by omega
      have hb : b = 0x30 := List.singleton_inj.mp (htext.symm.trans (by decide))
      exact hzero (by rw [hb, List.head?_cons])
    calc 10 ^ ((b :: rest).length - 1) = 1 * 10 ^ rest.length := by simp
      _ ≤ d * 10 ^ rest.length := by gcongr
      _ ≤ digitsValue 10 (b :: rest) := by
        simpa [digitsValue, hvalue] using mul_pow_le_foldl 10 d rest

end Integer

/-! ### Reading a whole number in double precision -/

namespace Binary64

/-- The least whole number that is too great for double precision. -/
def tooGreat : Nat :=
  2 ^ 1024 - 2 ^ 970

lemma cast_pow_sub_pow {j k : Nat} (h : j ≤ k) : ((2 ^ k - 2 ^ j : Nat) : ℚ) = 2 ^ k - 2 ^ j := by
  rw [Nat.cast_sub (Nat.pow_le_pow_right Nat.two_pos h)]
  push_cast
  rfl

lemma cast_tooGreat : (tooGreat : ℚ) = 2 ^ 1024 - 2 ^ 970 :=
  cast_pow_sub_pow (by decide)

/-- From the power of ten with four hundred zeros on, all numbers are too great. -/
lemma tooGreat_le_pow {k : Nat} (hk : 400 ≤ k) : tooGreat ≤ 10 ^ k := by
  calc tooGreat ≤ 2 ^ 1024 := by
        rw [tooGreat]
        apply Nat.sub_le
    _ ≤ 2 ^ (3 * k) := by
        gcongr
        · decide
        · omega
    _ = 8 ^ k := pow_mul 2 3 k
    _ ≤ 10 ^ k := by
        gcongr
        decide

section

variable {negative : Bool} {n places : Nat} {x : Binary64}

/-- A whole number is read as a fraction, unless it has too many digits. -/
lemma ofDecimal?_whole (hn : n ≠ 0) : ofDecimal? negative n places 0
    = if 400 < places then none else ofFraction? negative n 1 := by
  have hscaled : scaled 10 n 0 = (n, 1) := by simp [scaled, power_eq]
  rw [ofDecimal?, if_neg (by simp [hn]), hscaled]
  by_cases hmany : 400 < places
  · rw [if_pos hmany, if_pos (by omega)]
  · rw [if_neg hmany, if_neg (by omega)]

/-- A whole number has none near to it in double precision if it is too great, however many digits
it has. -/
lemma ofDecimal?_eq_none_iff (hplaces : 10 ^ (places - 1) ≤ n) :
    ofDecimal? negative n places 0 = none ↔ tooGreat ≤ n := by
  have hn : 0 < n := lt_of_lt_of_le (Nat.pow_pos (by decide)) hplaces
  rw [ofDecimal?_whole hn.ne']
  by_cases hmany : 400 < places
  · simp only [hmany, if_true, true_iff]
    exact (tooGreat_le_pow (by omega)).trans hplaces
  · obtain ⟨m, e, hread, hparts⟩ := exists_readAs hn Nat.one_pos negative
    rw [if_neg hmany, hparts, ofParts?_eq_none_iff, hread.maxExponent_lt_iff, ← cast_tooGreat,
      Nat.cast_one, div_one, Nat.cast_le]

/-- A number that is too wide for an integer is a float of at least two to the sixty-third. -/
lemma exists_of_ofDecimal? (hn : 2 ^ 63 ≤ n) (h : ofDecimal? negative n places 0 = some x) :
    ∃ m e, x = .finite negative m e ∧ x.atLeastPow2 63 := by
  have hpos : 0 < n := lt_of_lt_of_le (Nat.two_pow_pos 63) hn
  rw [ofDecimal?_whole hpos.ne'] at h
  split_ifs at h
  obtain ⟨m, e, hread, hparts⟩ := exists_readAs hpos Nat.one_pos negative
  rw [hparts] at h
  obtain rfl := eq_of_ofParts? h
  refine ⟨m, e, rfl, atLeastPow2_iff.mpr (hread.le_mul_zpow ?_)⟩
  rw [Nat.cast_one, div_one]
  exact_mod_cast hn

end

end Binary64

/-! ### Wide decimal spellings -/

namespace Integer.Spelling

variable {s : Spelling} {t : Text}

lemma natAbs_value : s.value.natAbs = s.magnitude := by
  rw [value]
  cases s.sign <;> simp [Sign.attach]

section

variable (hdecimal : s.radix = .decimal)
include hdecimal

lemma unsigned_of_decimal : s.unsigned = s.digits := by
  rw [unsigned, hdecimal, Radix.mark, List.nil_append]

lemma isDigit_of_decimal : ∀ b ∈ s.digits, isDigit b := by
  intro b hb
  have hsome := s.isSome_digit? b hb
  rw [hdecimal] at hsome
  exact isSome_digit?_ten_iff.mp hsome

lemma digits_ne_nil_of_decimal : s.digits ≠ [] :=
  s.digits_ne_nil (by simp [hdecimal])

lemma magnitude_of_decimal : s.magnitude = digitsValue 10 s.digits := by
  rw [magnitude, hdecimal, Radix.base]

/-- The digits are those of the magnitude, since there is no zero in front. -/
lemma ofNat_magnitude : Text.ofNat s.magnitude = s.digits := by
  rw [magnitude_of_decimal hdecimal]
  exact ofNat_digitsValue (isDigit_of_decimal hdecimal) (digits_ne_nil_of_decimal hdecimal)
    (s.head?_ne_zero hdecimal)

lemma pow_le_magnitude : 10 ^ (s.digits.length - 1) ≤ s.magnitude := by
  rw [magnitude_of_decimal hdecimal]
  exact pow_le_digitsValue (isDigit_of_decimal hdecimal) (digits_ne_nil_of_decimal hdecimal)
    (s.head?_ne_zero hdecimal)

/-- A decimal spelling is read in double precision with its own digits. -/
lemma binary64_text : Binary64.ofText? s.text
    = Binary64.ofDecimal? (decide (s.sign = .minus)) s.magnitude s.digits.length 0 := by
  have hdigits := isDigit_of_decimal hdecimal
  have hne := digits_ne_nil_of_decimal hdecimal
  have hzeros : s.digits.dropWhile (· = 0x30) = s.digits := by
    rw [List.dropWhile_eq_self_iff]
    intro hlength hzero
    apply s.head?_ne_zero hdecimal
    rw [List.head?_eq_getElem?, List.getElem?_eq_getElem hlength, of_decide_eq_true hzero]
  have hread : digitsFrom? 10 0 s.digits = some s.magnitude := by
    rw [magnitude_of_decimal hdecimal]
    exact digitsFrom?_eq (fun b hb => isSome_digit?_ten_iff.mpr (hdigits b hb)) 0
  have hparts : Binary64.decimal? s.text
      = some ⟨decide (s.sign = .minus), s.digits, [], 0⟩ := by
    have htake : s.digits.takeWhile isDigit = s.digits := List.takeWhile_eq_self_iff.mpr hdigits
    have hdrop : s.digits.dropWhile isDigit = [] := List.dropWhile_eq_nil_iff.mpr hdigits
    simp [Binary64.decimal?, signed_text, unsigned_of_decimal hdecimal, htake, hdrop, hne]
  simp [Binary64.ofText?, hparts, Binary64.Decimal.value?, hzeros, hread]

/-- The marks of a base start with a zero. -/
lemma dropStart?_text (start : Text) : Text.dropStart? (0x30 :: start) s.text = none ∧
    Text.dropStart? (0x2d :: 0x30 :: start) s.text = none := by
  obtain ⟨b, rest, hunsigned, hdigit, hzero⟩ := s.exists_unsigned_eq_cons
  have hminus : b ≠ 0x2d := by
    rintro rfl
    cases hdigit
  rw [text, hunsigned]
  cases s.sign with
  | absent =>
    constructor
    · apply Text.dropStart?_eq_none
      simpa [Sign.text] using hzero hdecimal
    · apply Text.dropStart?_eq_none
      simpa [Sign.text] using hminus
  | plus => exact ⟨rfl, rfl⟩
  | minus =>
    refine ⟨rfl, ?_⟩
    show Text.dropStart? (0x2d :: 0x30 :: start) (0x2d :: b :: rest) = none
    simp [Text.dropStart?, (hzero hdecimal).symm]

lemma markedInteger?_text : Scalar.markedInteger? s.text = none := by
  obtain ⟨hb, hminusb⟩ := dropStart?_text hdecimal "b"
  obtain ⟨ho, hminuso⟩ := dropStart?_text hdecimal "o"
  have hmarks : ("0b" : Text) = 0x30 :: ("b" : Text) ∧
      ("-0b" : Text) = 0x2d :: 0x30 :: ("b" : Text) ∧
      ("0o" : Text) = 0x30 :: ("o" : Text) ∧ ("-0o" : Text) = 0x2d :: 0x30 :: ("o" : Text) :=
    ⟨rfl, rfl, rfl, rfl⟩
  simp [Scalar.markedInteger?, hmarks, hb, ho, hminusb, hminuso]

lemma isDecimal_text : Document.isDecimal s.text := by
  simp [Document.isDecimal, signed_text, unsigned_of_decimal hdecimal,
    digits_ne_nil_of_decimal hdecimal, List.all_eq_true.mpr (isDigit_of_decimal hdecimal)]

/-- Without a plus sign a decimal spelling has a minus sign or digits only. -/
lemma getD_dropStart?_text : (Text.dropStart? "+" s.text).getD s.text
    = (if s.sign = .minus then "-" else "") ++ s.digits := by
  rw [text, unsigned_of_decimal hdecimal]
  cases s.sign with
  | absent =>
    obtain ⟨b, rest, hunsigned, hdigit, -⟩ := s.exists_unsigned_eq_cons
    have hdrop : Text.dropStart? "+" s.digits = none := by
      rw [← unsigned_of_decimal hdecimal, hunsigned]
      apply Text.dropStart?_eq_none
      rw [Text.startsWith_cons, decide_eq_true_eq]
      rintro rfl
      cases hdigit
    simp only [Sign.text, List.nil_append, hdrop]
    rfl
  | plus =>
    rw [Sign.text, Text.dropStart?_append]
    rfl
  | minus => rfl

/-- The decimal text of the integer has the digits of the spelling. -/
lemma ofInt_value (hvalue : s.value ≠ 0) :
    Text.ofInt s.value = (if s.sign = .minus then "-" else "") ++ s.digits := by
  have hpos : s.magnitude ≠ 0 := natAbs_value ▸ Int.natAbs_ne_zero.mpr hvalue
  rw [Text.ofInt, natAbs_value, ofNat_magnitude hdecimal, value]
  cases s.sign with
  | absent | plus =>
    rw [Sign.attach, if_neg (by omega)]
    rfl
  | minus =>
    rw [Sign.attach, if_pos (by omega)]
    rfl

end

/-- A wide integer is read in double precision. -/
lemma WrittenAs.number?_of_wide (h : s.WrittenAs t) (hdecimal : s.radix = .decimal)
    (hwide : s.value < -2 ^ 63 ∨ 2 ^ 64 ≤ s.value) : Scalar.number? t
      = (Binary64.ofDecimal? (decide (s.sign = .minus)) s.magnitude s.digits.length 0).map
        .float := by
  have hattach : ¬(-2 ^ 63 ≤ s.value ∧ s.value < 2 ^ 63) := by omega
  have hword : word? s.text = none := by
    rw [word?_text]
    split_ifs with hsign
    · have hvalue : s.value = s.magnitude := by rw [value, hsign, Sign.attach]
      have hgreat : ¬ s.magnitude < power 2 64 := by
        rw [power_eq]
        omega
      rw [Option.filter_some, if_neg (by simpa using hgreat)]
    · rfl
  rw [Scalar.number?, h.1, ofText?_text, attach?_eq, ← value, if_neg hattach, hword,
    binary64_text hdecimal, markedInteger?_text hdecimal]
  simp

end Integer.Spelling

/-! ### Operands -/

namespace Document

variable {entry line : Nat} {n : Node} {s : Integer.Spelling} {t : Text}

/-- A scalar that is resolved to a float gives its literal. -/
lemma operand_of_resolve_float {x : Binary64} (hn : n.resolved = plainScalar line t)
    (h : Scalar.resolve true t = .float x) :
    operand entry n = .ok (.const (floatLiteral t x)) := by
  apply operand_of_resolve h (.inr rfl) hn
  rw [numberLiteral?, ofTagged_of_resolve h (.inr rfl)]

/-- A scalar that looks like a number and is none gives a string. -/
lemma operand_of_resolve_text (hn : n.resolved = plainScalar line t)
    (hstart : Scalar.startsNumber t) (h : Scalar.resolve true t = .text t) :
    operand entry n = .ok (.string t) := by
  have hmerge : t ≠ "<<" := by
    rintro rfl
    cases hstart
  rw [operand_eq, Shape.of, hn, plainScalar_eq h hmerge]
  rfl

/-- A decimal integer that is too wide for sixty-four bits keeps all its digits unless it is too
great for double precision; then it is a string. -/
theorem operand_wide_integer (hdecimal : s.radix = .decimal) (h : s.WrittenAs t)
    (hwide : s.value < -2 ^ 63 ∨ 2 ^ 64 ≤ s.value) (hn : n.resolved = plainScalar line t)
    (entry : Nat) : Text.ofInt s.value = (if s.sign = .minus then "-" else "") ++ s.digits ∧
    operand entry n = .ok (if s.value.natAbs < Binary64.tooGreat then .const (Text.ofInt s.value)
      else .string t) := by
  have htext := Integer.Spelling.ofInt_value hdecimal (by omega)
  have hnone : Binary64.ofDecimal? (decide (s.sign = .minus)) s.magnitude s.digits.length 0 = none ↔
      Binary64.tooGreat ≤ s.magnitude :=
    Binary64.ofDecimal?_eq_none_iff (Integer.Spelling.pow_le_magnitude hdecimal)
  have hresolve := h.resolve true
  rw [h.number?_of_wide hdecimal hwide] at hresolve
  refine ⟨htext, ?_⟩
  rw [Integer.Spelling.natAbs_value]
  cases hread : Binary64.ofDecimal? (decide (s.sign = .minus)) s.magnitude s.digits.length 0 with
  | none =>
    rw [hread] at hresolve
    rw [if_neg (not_lt.mpr (hnone.mp hread))]
    exact operand_of_resolve_text hn h.startsNumber hresolve
  | some x =>
    rw [hread] at hresolve
    have hfinite : ¬ Binary64.tooGreat ≤ s.magnitude := by
      rw [← hnone, hread]
      simp
    have hgreat : 2 ^ 63 ≤ s.magnitude := by
      rw [← Integer.Spelling.natAbs_value]
      omega
    -- the digits are taken, since the number that is read is as great as the integer
    obtain ⟨m, e, rfl, hpow⟩ := Binary64.exists_of_ofDecimal? hgreat hread
    rw [if_pos (not_le.mp hfinite), operand_of_resolve_float hn hresolve, floatLiteral, h.1, hpow,
      Integer.Spelling.isDecimal_text hdecimal, Integer.Spelling.getD_dropStart?_text hdecimal,
      htext]
    rfl

/-- The least positive integer that is too wide, with a plus sign. -/
def leastWide : Integer.Spelling where
  sign := .plus
  radix := .decimal
  digits := "18446744073709551616"
  isSome_digit? := List.all_eq_true.mp rfl
  digits_ne_nil := by decide
  head?_ne_zero := by decide

theorem operand_wide_integer_least :
    operand 0 (plainScalar 1 "+1844_6744_0737_0955_1616")
      = .ok (.const "18446744073709551616") := by
  have hwritten : leastWide.WrittenAs "+1844_6744_0737_0955_1616" := by
    constructor
    · decide +kernel
    · decide
  have hwide : leastWide.value < -2 ^ 63 ∨ 2 ^ 64 ≤ leastWide.value := by
    right
    decide +kernel
  obtain ⟨htext, hleast⟩ := operand_wide_integer rfl hwritten hwide
    (rfl : (plainScalar 1 "+1844_6744_0737_0955_1616").resolved = _) 0
  rw [hleast, if_pos (by decide +kernel), htext]
  rfl

/-- A power of ten that is too great for double precision. -/
def greatPowerOfTen : Integer.Spelling where
  sign := .absent
  radix := .decimal
  digits := 0x31 :: List.replicate 309 0x30
  isSome_digit? := by
    rw [List.forall_mem_cons]
    refine ⟨rfl, fun b hb => ?_⟩
    rw [List.eq_of_mem_replicate hb]
    rfl
  digits_ne_nil _ := List.cons_ne_nil _ _
  head?_ne_zero _ := by
    rw [List.head?_cons]
    decide

theorem operand_wide_integer_string : greatPowerOfTen.WrittenAs greatPowerOfTen.text ∧
    2 ^ 64 ≤ greatPowerOfTen.value ∧
    operand 0 (plainScalar 1 greatPowerOfTen.text) = .ok (.string greatPowerOfTen.text) := by
  refine ⟨Integer.Spelling.writtenAs_text _, by decide +kernel, ?_⟩
  exact operand_of_resolve_text rfl rfl (by decide +kernel)

end Document

end CqlWriter
