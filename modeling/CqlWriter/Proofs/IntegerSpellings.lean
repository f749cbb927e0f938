import Mathlib
import CqlWriter.Proofs.OperandMaking
import CqlWriter.Proofs.Text

/-!
# Spellings of integers

An integer is written in decimal, after a leading zero in octal, or after a mark in one of three
bases, with an optional sign and with low lines in between. A plain scalar that spells an integer of
sixty-four bits is resolved to that integer, whatever its spelling, and its operand is the decimal
text of the integer, which is a spelling of it again.
-/

namespace CqlWriter

open Yaml

namespace Integer

/-! ### Spellings -/

/-- The sign in front of an integer. -/
inductive Sign where
  | absent
  | plus
  | minus
  deriving DecidableEq

def Sign.text : Sign → Text
  | absent => []
  | plus => "+"
  | minus => "-"

/-- The integer with a sign and a magnitude. -/
def Sign.attach : Sign → Nat → Int
  | absent, n | plus, n => n
  | minus, n => -n

/-- How the base of an integer is told. The letter of a mark may be in upper case. -/
inductive Radix where
  | decimal
  | leadingZero
  | binary (upper : Bool)
  | octal (upper : Bool)
  | hexadecimal (upper : Bool)
  deriving DecidableEq

namespace Radix

def base : Radix → Nat
  | decimal => 10
  | leadingZero | octal _ => 8
  | binary _ => 2
  | hexadecimal _ => 16

/-- What stands in front of the digits. -/
def mark : Radix → Text
  | decimal => []
  | leadingZero => "0"
  | binary upper => if upper then "0B" else "0b"
  | octal upper => if upper then "0O" else "0o"
  | hexadecimal upper => if upper then "0X" else "0x"

end Radix

/-- The number with the given digits, the most significant digit first. -/
def digitsValue (base : Nat) (digits : Text) : Nat :=
  digits.foldl (fun n b => n * base + (digit? base b).getD 0) 0

/-- An integer as it is written, without low lines. Only zero and what is in another base starts
with a zero. -/
structure Spelling where
  sign : Sign
  radix : Radix
  digits : Text
  isSome_digit? : ∀ b ∈ digits, (digit? radix.base b).isSome
  digits_ne_nil : radix ≠ .leadingZero → digits ≠ []
  head?_ne_zero : radix = .decimal → digits.head? ≠ some 0x30

namespace Spelling

variable (s : Spelling)

def unsigned : Text :=
  s.radix.mark ++ s.digits

def text : Text :=
  s.sign.text ++ s.unsigned

def magnitude : Nat :=
  digitsValue s.radix.base s.digits

def value : Int :=
  s.sign.attach s.magnitude

/-- The scalar is the spelling with low lines anywhere but in front. -/
def WrittenAs (t : Text) : Prop :=
  t.filter (· ≠ Text.byte '_') = s.text ∧ t.head? ≠ some (Text.byte '_')

end Spelling

/-! ### Digits -/

lemma filter_ne_of_not_mem {b : UInt8} {t : Text} (h : b ∉ t) : t.filter (· ≠ b) = t := by
  apply List.filter_eq_self.mpr
  intro c hc
  rw [decide_eq_true_eq]
  rintro rfl
  exact h hc

/-- Digits are read from the left, each one moving those before it up by one place. -/
lemma digitsFrom?_eq {base : Nat} {digits : Text} (h : ∀ b ∈ digits, (digit? base b).isSome)
    (n : Nat) : digitsFrom? base n digits
      = some (digits.foldl (fun n b => n * base + (digit? base b).getD 0) n) := by
  induction digits generalizing n with
  | nil => rfl
  | cons b rest ih =>
    obtain ⟨d, hd⟩ := Option.isSome_iff_exists.mp (h b (by simp))
    rw [digitsFrom?, hd, Option.bind_eq_bind, Option.bind_some, ih fun c hc => h c (by simp [hc])]
    simp [hd]

/-- A digit in any of the bases is a letter or a decimal digit. -/
lemma isSome_digit?_mono {base base' : Nat} (hbase : base ≤ base') {b : UInt8}
    (h : (digit? base b).isSome) : (digit? base' b).isSome := by
  obtain ⟨d, hd⟩ := Option.isSome_iff_exists.mp h
  simp only [digit?, Option.filter_eq_some_iff, decide_eq_true_eq] at hd
  simp only [digit?, hd.1, Option.isSome_filter, Option.any_some, decide_eq_true_eq]
  omega

lemma isSome_digit?_ten_iff {b : UInt8} : (digit? 10 b).isSome ↔ isDigit b := by
  revert b
  decide +kernel

lemma isDigit_of_isSome_digit? {base : Nat} (hbase : base ≤ 10) {b : UInt8}
    (h : (digit? base b).isSome) : isDigit b :=
  isSome_digit?_ten_iff.mp (isSome_digit?_mono hbase h)

namespace Spelling

variable {s : Spelling}

/-- The digits of a spelling are read as its magnitude. -/
lemma digitsFrom?_digits : digitsFrom? s.radix.base 0 s.digits = some s.magnitude :=
  digitsFrom?_eq s.isSome_digit? 0

lemma isSome_digit?_mark (r : Radix) : ∀ b ∈ r.mark, (digit? 36 b).isSome := by
  cases r with
  | decimal => simp [Radix.mark]
  | leadingZero => exact List.all_eq_true.mp rfl
  | binary upper => cases upper <;> exact List.all_eq_true.mp rfl
  | octal upper => cases upper <;> exact List.all_eq_true.mp rfl
  | hexadecimal upper => cases upper <;> exact List.all_eq_true.mp rfl

/-- A spelling without its sign has letters and digits only. -/
lemma isSome_digit?_unsigned : ∀ b ∈ s.unsigned, (digit? 36 b).isSome := by
  rw [unsigned, List.forall_mem_append]
  refine ⟨isSome_digit?_mark s.radix, fun b hb => ?_⟩
  refine isSome_digit?_mono ?_ (s.isSome_digit? b hb)
  cases s.radix <;> simp [Radix.base]

/-- What is neither a letter nor a digit does not occur in a spelling without its sign. -/
lemma not_mem_unsigned {b : UInt8} (hb : digit? 36 b = none) : b ∉ s.unsigned := by
  intro hmem
  have hsome := isSome_digit?_unsigned b hmem
  rw [hb] at hsome
  cases hsome

/-- A spelling without its sign starts with a decimal digit. -/
lemma exists_unsigned_eq_cons (s : Spelling) :
    ∃ b rest, s.unsigned = b :: rest ∧ isDigit b ∧ (s.radix = .decimal → b ≠ 0x30) := by
  obtain ⟨sign, radix, digits, hdigits, hne, hzero⟩ := s
  cases radix with
  | decimal =>
    cases digits with
    | nil => simp at hne
    | cons b rest =>
      refine ⟨b, rest, rfl, isSome_digit?_ten_iff.mp (hdigits b (by simp)), fun _ => ?_⟩
      simpa using hzero
  | leadingZero => exact ⟨0x30, digits, rfl, rfl, by simp⟩
  | binary upper => cases upper <;> exact ⟨0x30, _ :: digits, rfl, rfl, by simp⟩
  | octal upper => cases upper <;> exact ⟨0x30, _ :: digits, rfl, rfl, by simp⟩
  | hexadecimal upper => cases upper <;> exact ⟨0x30, _ :: digits, rfl, rfl, by simp⟩

/-! ### Reading a spelling -/

lemma signed_of_isDigit {b : UInt8} {rest : Text} (h : isDigit b) :
    signed (b :: rest) = (false, b :: rest) := by
  unfold signed
  split
  · next heq =>
    obtain ⟨rfl, -⟩ := List.cons.inj heq
    cases h
  · next heq =>
    obtain ⟨rfl, -⟩ := List.cons.inj heq
    cases h
  · rfl

/-- The sign is split off the text. -/
lemma signed_text : signed s.text = (decide (s.sign = .minus), s.unsigned) := by
  cases hsign : s.sign with
  | absent =>
    obtain ⟨b, rest, hunsigned, hdigit, -⟩ := s.exists_unsigned_eq_cons
    simp only [text, hsign, Sign.text, List.nil_append, hunsigned]
    exact signed_of_isDigit hdigit
  | plus =>
    rw [text, hsign]
    rfl
  | minus =>
    rw [text, hsign]
    rfl

lemma baseOf_of_ne {b : UInt8} {rest : Text} (h : b ≠ 0x30) :
    baseOf (b :: rest) = (10, b :: rest) := by
  unfold baseOf
  split
  · simp_all
  · simp_all
  · rfl

lemma baseOf_zero {b c : UInt8} {rest : Text} (h : isDigit b) :
    baseOf (0x30 :: b :: c :: rest) = (8, b :: c :: rest) := by
  have hlower : lowerByte b = b ∧ b ≠ Text.byte 'b' ∧ b ≠ Text.byte 'o' ∧ b ≠ Text.byte 'x' := by
    revert b
    decide +kernel
  simp [baseOf, hlower]

/-- What stands in front of the digits tells the base and is dropped. -/
lemma baseOf_unsigned : baseOf s.unsigned = (s.radix.base, s.digits) := by
  obtain ⟨sign, radix, digits, hdigits, hne, hzero⟩ := s
  cases radix with
  | decimal =>
    cases digits with
    | nil => simp at hne
    | cons b rest =>
      simp only [unsigned, Radix.mark, List.nil_append]
      exact baseOf_of_ne (by simpa using hzero)
  | leadingZero =>
    rcases digits with _ | ⟨b, _ | ⟨c, rest⟩⟩
    · rfl
    · rfl
    · exact baseOf_zero (isDigit_of_isSome_digit? (show 8 ≤ 10 by decide) (hdigits b (by simp)))
  | binary upper =>
    cases digits with
    | nil => simp at hne
    | cons b rest => cases upper <;> rfl
  | octal upper =>
    cases digits with
    | nil => simp at hne
    | cons b rest => cases upper <;> rfl
  | hexadecimal upper =>
    cases digits with
    | nil => simp at hne
    | cons b rest => cases upper <;> rfl

/-- Without its sign the spelling is read as its magnitude. -/
lemma magnitude?_unsigned : magnitude? s.unsigned = some s.magnitude := by
  obtain ⟨b, rest, hunsigned, -, -⟩ := s.exists_unsigned_eq_cons
  have hempty : ¬ s.unsigned.isEmpty := by simp [hunsigned]
  have hlines : Text.byte '_' ∉ s.unsigned := not_mem_unsigned rfl
  have hdigits : s.digits.filter (· ≠ Text.byte '_') = s.digits := by
    apply filter_ne_of_not_mem
    intro hmem
    exact hlines (List.mem_append_right _ hmem)
  rw [magnitude?, if_neg hempty, if_neg (by simp [hlines]), baseOf_unsigned]
  simp only [hdigits, digitsFrom?_digits]

/-- The text is read as the magnitude with the sign, if that fits in sixty-four bits. -/
lemma ofText?_text : ofText? s.text = attach? (decide (s.sign = .minus)) s.magnitude := by
  rw [ofText?, signed_text]
  simp [magnitude?_unsigned]

lemma magnitude?_of_sign {b : UInt8} (h : b = Text.byte '+' ∨ b = Text.byte '-') (rest : Text) :
    magnitude? (b :: rest) = none := by
  rcases h with rfl | rfl
  · simp only [magnitude?, ite_eq_left_iff]
    intro _ _
    rfl
  · simp only [magnitude?, ite_eq_left_iff]
    intro _ _
    rfl

/-- A number without a sign may use all sixty-four bits. -/
lemma word?_text : word? s.text
    = if s.sign = .absent then (some s.magnitude).filter (· < power 2 64) else none := by
  cases hsign : s.sign with
  | absent => simp [word?, text, hsign, Sign.text, magnitude?_unsigned]
  | plus =>
    rw [word?, text, hsign]
    exact congrArg _ (magnitude?_of_sign (.inl rfl) s.unsigned)
  | minus =>
    rw [word?, text, hsign]
    exact congrArg _ (magnitude?_of_sign (.inr rfl) s.unsigned)

/-! ### Scalars that are written as a spelling -/

/-- Only the sign in front of a spelling is neither a letter nor a digit. -/
lemma not_mem_tail_text {b : UInt8} (hb : digit? 36 b = none) : b ∉ s.text.tail := by
  cases hsign : s.sign with
  | absent =>
    simp only [text, hsign, Sign.text, List.nil_append]
    exact fun hmem => not_mem_unsigned hb (List.mem_of_mem_tail hmem)
  | plus =>
    rw [text, hsign]
    exact not_mem_unsigned hb
  | minus =>
    rw [text, hsign]
    exact not_mem_unsigned hb

/-- A spelling starts with a digit or a sign. -/
lemma exists_text_eq_cons (s : Spelling) :
    ∃ b rest, s.text = b :: rest ∧ (isDigit b ∨ b = Text.byte '+' ∨ b = Text.byte '-') := by
  obtain ⟨b, rest, hunsigned, hdigit, -⟩ := s.exists_unsigned_eq_cons
  cases hsign : s.sign with
  | absent => exact ⟨b, rest, by simp [text, hsign, Sign.text, hunsigned], .inl hdigit⟩
  | plus => exact ⟨_, s.unsigned, by rw [text, hsign]; rfl, .inr (.inl rfl)⟩
  | minus => exact ⟨_, s.unsigned, by rw [text, hsign]; rfl, .inr (.inr rfl)⟩

/-- A spelling need not have low lines. -/
lemma writtenAs_text (s : Spelling) : s.WrittenAs s.text := by
  obtain ⟨b, rest, htext, hb⟩ := s.exists_text_eq_cons
  have hne : b ≠ Text.byte '_' := by
    rcases hb with hb | rfl | rfl
    · rintro rfl
      cases hb
    · decide
    · decide
  have hrest : Text.byte '_' ∉ rest := by
    have htail : Text.byte '_' ∉ s.text.tail := not_mem_tail_text rfl
    rwa [htext] at htail
  constructor
  · apply filter_ne_of_not_mem
    simp [htext, hne.symm, hrest]
  · simpa [htext] using hne

namespace WrittenAs

variable {t : Text} (h : s.WrittenAs t)
include h

lemma exists_cons : ∃ b rest, t = b :: rest ∧ (isDigit b ∨ b = Text.byte '+' ∨ b = Text.byte '-') ∧
    rest.filter (· ≠ Text.byte '_') = s.text.tail := by
  obtain ⟨b, rest, htext, hb⟩ := s.exists_text_eq_cons
  obtain ⟨hfilter, hhead⟩ := h
  cases t with
  | nil => simp [htext] at hfilter
  | cons c t =>
    have hc : c ≠ Text.byte '_' := by simpa using hhead
    rw [List.filter_cons_of_pos (by simpa using hc), htext, List.cons.injEq] at hfilter
    obtain ⟨rfl, hrest⟩ := hfilter
    exact ⟨c, t, rfl, hb, by rw [hrest, htext, List.tail_cons]⟩

lemma startsNumber : Scalar.startsNumber t := by
  obtain ⟨b, rest, rfl, hb, -⟩ := h.exists_cons
  simpa [Scalar.startsNumber, or_assoc] using hb

/-- Low lines apart, only the sign in front is neither a letter nor a digit. -/
lemma not_mem_tail {b : UInt8} (hb : digit? 36 b = none) (hline : b ≠ Text.byte '_') :
    b ∉ t.tail := by
  obtain ⟨c, rest, rfl, -, hrest⟩ := h.exists_cons
  intro hmem
  have hmem' : b ∈ rest.filter (· ≠ Text.byte '_') :=
    List.mem_filter.mpr ⟨hmem, by simpa using hline⟩
  rw [hrest] at hmem'
  exact not_mem_tail_text hb hmem'

end WrittenAs

end Spelling

end Integer

/-! ### Resolution -/

namespace Timestamp

/-- A date has a hyphen behind the year. -/
lemma date?_eq_none {t : Text} (h : Text.byte '-' ∉ t.tail) : date? t = none := by
  have hexpect : expect? '-' (t.drop 4) = none := by
    cases hdrop : t.drop 4 with
    | nil => rfl
    | cons b rest =>
      have hmem : b ∈ t.tail := by
        rw [← List.drop_one]
        apply (List.drop_sublist_drop_left t (show 1 ≤ 4 by decide)).subset
        simp [hdrop]
      rw [expect?, if_neg]
      rintro rfl
      exact h hmem
  simp [date?, hexpect]

lemma ofText?_eq_none {t : Text} (h : Text.byte '-' ∉ t.tail) : ofText? t = none := by
  simp [ofText?, withZone?, withSpace?, dateOnly?, date?_eq_none h]

end Timestamp

namespace Yaml.Scalar

/-- The words that start like a number have a point in them. -/
lemma lookup_words_eq_none {t : Text} (hstart : startsNumber t) (hpoint : Text.byte '.' ∉ t.tail) :
    words.lookup t = none := by
  have hwords : ∀ p ∈ words, startsNumber p.1 → Text.byte '.' ∈ p.1.tail := by decide
  cases hlookup : words.lookup t with
  | none => rfl
  | some v =>
    obtain ⟨front, back, hsplit, -⟩ := List.lookup_eq_some_iff.mp hlookup
    exact absurd (hwords (t, v) (by simp [hsplit]) hstart) hpoint

/-- A text that starts like a number and is neither a word nor a date is read as a number. -/
lemma resolve_of_startsNumber {t : Text} (hstart : startsNumber t)
    (hpoint : Text.byte '.' ∉ t.tail) (hhyphen : Text.byte '-' ∉ t.tail) (dates : Bool) :
    resolve dates t = (number? t).getD (text t) := by
  simp [resolve, lookup_words_eq_none hstart hpoint, hstart, Timestamp.ofText?_eq_none hhyphen]

end Yaml.Scalar

namespace Integer

/-- A sign is attached if the integer has sixty-four bits with it. -/
lemma attach?_eq (sign : Sign) (n : Nat) : attach? (decide (sign = .minus)) n
    = if -2 ^ 63 ≤ sign.attach n ∧ sign.attach n < 2 ^ 63 then some (sign.attach n) else none := by
  have hnat : power 2 63 = 9223372036854775808 := rfl
  have hint : (2 : Int) ^ 63 = 9223372036854775808 := by norm_num
  cases sign with
  | absent | plus =>
    simp only [attach?, Sign.attach, reduceCtorEq, decide_false, Bool.false_eq_true, if_false,
      hnat, hint]
    by_cases hn : n < 9223372036854775808
    · rw [if_pos hn, if_pos (by omega)]
    · rw [if_neg hn, if_neg (by omega)]
  | minus =>
    simp only [attach?, Sign.attach, decide_true, if_true, hnat, hint]
    by_cases hn : n ≤ 9223372036854775808
    · rw [if_pos hn, if_pos (by omega)]
    · rw [if_neg hn, if_neg (by omega)]

namespace Spelling

variable {s : Spelling} {t : Text}

/-- A scalar that is written like an integer is no date and no word. -/
lemma WrittenAs.resolve (h : s.WrittenAs t) (dates : Bool) :
    Scalar.resolve dates t = (Scalar.number? t).getD (.text t) :=
  Scalar.resolve_of_startsNumber h.startsNumber (h.not_mem_tail rfl (by decide))
    (h.not_mem_tail rfl (by decide)) dates

/-- A spelling of an integer of sixty-four bits stands for that integer. A sign takes one of the
bits. -/
lemma WrittenAs.resolve_eq_int (h : s.WrittenAs t) (hlow : -2 ^ 63 ≤ s.value)
    (hhigh : s.value < 2 ^ 64) (hsign : s.sign = .absent ∨ s.value < 2 ^ 63) (dates : Bool) :
    Scalar.resolve dates t = .int s.value := by
  have hnumber : Scalar.number? t = some (.int s.value) := by
    rw [Scalar.number?, h.1, ofText?_text, attach?_eq, word?_text]
    by_cases hnarrow : s.value < 2 ^ 63
    · rw [if_pos ⟨hlow, hnarrow⟩]
      rfl
    · have habsent : s.sign = .absent := hsign.resolve_right hnarrow
      have hvalue : s.value = s.magnitude := by rw [value, habsent, Sign.attach]
      have hword : s.magnitude < power 2 64 := by
        rw [hvalue] at hhigh
        exact_mod_cast hhigh
      rw [if_neg fun hfits => hnarrow hfits.2, if_pos habsent, Option.filter_some,
        if_pos (decide_eq_true hword), hvalue]
      rfl
  rw [h.resolve, hnumber, Option.getD_some]

end Spelling

end Integer

/-! ### Decimal texts -/

namespace Text

lemma ofNat_ne_nil (n : Nat) : ofNat n ≠ [] := by
  by_cases h : n < 10
  · obtain ⟨b, hb, -⟩ := utf8EncodeChar_digitChar n h
    simp [ofNat_of_lt h, hb]
  · obtain ⟨b, hb, -⟩ := utf8EncodeChar_digitChar (n % 10) (by omega)
    simp [ofNat_of_le (show 10 ≤ n by omega), hb]

lemma head?_ofNat_ne_zero {n : Nat} (hn : n ≠ 0) : (ofNat n).head? ≠ some 0x30 := by
  induction n using Nat.strongRecOn with
  | ind n ih =>
    by_cases h : n < 10
    · obtain ⟨b, hb, -, hvalue⟩ := utf8EncodeChar_digitChar n h
      rw [ofNat_of_lt h, hb, List.head?_cons, Ne, Option.some.injEq]
      rintro rfl
      exact hn (Option.some.inj hvalue).symm
    · rw [ofNat_of_le (by omega), List.head?_append_of_ne_nil _ (ofNat_ne_nil _)]
      exact ih (n / 10) (by omega) (by omega)

end Text

namespace Integer

/-- The decimal digits of a number have this number for their value. -/
lemma digitsValue_ofNat (n : Nat) : digitsValue 10 (Text.ofNat n) = n := by
  have hdigits : ∀ b ∈ Text.ofNat n, (digit? 10 b).isSome :=
    fun b hb => isSome_digit?_ten_iff.mpr (Text.isDigit_of_mem_ofNat n b hb)
  have hread := digitsFrom?_ofNat n
  rw [digitsFrom?_eq hdigits] at hread
  exact Option.some.inj hread

namespace Spelling

/-- The decimal text of an integer as a spelling. -/
def ofInt (v : Int) : Spelling where
  sign := if v < 0 then .minus else .absent
  radix := if v = 0 then .leadingZero else .decimal
  digits := if v = 0 then [] else Text.ofNat v.natAbs
  isSome_digit? := by
    by_cases hv : v = 0
    · simp [hv]
    · simp only [hv, if_false]
      exact fun b hb => isSome_digit?_ten_iff.mpr (Text.isDigit_of_mem_ofNat _ b hb)
  digits_ne_nil := by
    by_cases hv : v = 0
    · simp [hv]
    · simpa [hv] using Text.ofNat_ne_nil v.natAbs
  head?_ne_zero := by
    by_cases hv : v = 0
    · simp [hv]
    · simpa [hv] using Text.head?_ofNat_ne_zero (show v.natAbs ≠ 0 by omega)

lemma text_ofInt (v : Int) : (ofInt v).text = Text.ofInt v := by
  by_cases hv : v = 0
  · subst hv
    rfl
  · by_cases hneg : v < 0
    · simp [text, unsigned, ofInt, hv, hneg, Sign.text, Radix.mark, Text.ofInt]
    · simp [text, unsigned, ofInt, hv, hneg, Sign.text, Radix.mark, Text.ofInt]

lemma value_ofInt (v : Int) : (ofInt v).value = v := by
  by_cases hv : v = 0
  · subst hv
    rfl
  · have hmagnitude : (ofInt v).magnitude = v.natAbs := by
      simp [magnitude, ofInt, hv, Radix.base, digitsValue_ofNat]
    rw [value, hmagnitude]
    by_cases hneg : v < 0
    · simp only [ofInt, hneg, if_true, Sign.attach]
      omega
    · simp only [ofInt, hneg, if_false, Sign.attach]
      omega

lemma writtenAs_ofInt (v : Int) : (ofInt v).WrittenAs (Text.ofInt v) :=
  text_ofInt v ▸ writtenAs_text (ofInt v)

/-- The decimal text of an integer of sixty-four bits stands for the integer. -/
lemma resolve_ofInt {v : Int} (hlow : -2 ^ 63 ≤ v) (hhigh : v < 2 ^ 64) (dates : Bool) :
    Scalar.resolve dates (Text.ofInt v) = .int v := by
  have hsign : (ofInt v).sign = .absent ∨ v < 2 ^ 63 := by
    by_cases hneg : v < 0
    · right
      omega
    · left
      simp [ofInt, hneg]
  have hvalue := value_ofInt v
  have hread := (writtenAs_ofInt v).resolve_eq_int (by rwa [hvalue]) (by rwa [hvalue])
    (by rwa [hvalue]) dates
  rwa [hvalue] at hread

end Spelling

end Integer

/-! ### Operands of numbers -/

namespace Document

section

variable {entry line : Nat} {n : Node} {tag : Tag} {t : Text}

/-- A node with the tag of a number gives an operand exactly when its text is a number. -/
lemma operand_number (hn : n.resolved = .scalar line tag t) (htag : tag = .int ∨ tag = .float)
    (o : Operand) :
    operand entry n = .ok o ↔ ∃ l, numberLiteral? tag t = some l ∧ o = .const l := by
  rw [operand_eq, Shape.of, hn]
  rcases htag with rfl | rfl
  · simp only [Shape.ofScalar]
    cases numberLiteral? .int t <;> simp [Shape.operand, eq_comm]
  · simp only [Shape.ofScalar]
    cases numberLiteral? .float t <;> simp [Shape.operand, eq_comm]

/-- A plain scalar without a tag, as it is composed. -/
def plainScalar (line : Nat) (t : Text) : Node :=
  .scalar line (Composer.scalarTag none t true) t

lemma plainScalar_eq {v : Scalar} (h : Scalar.resolve true t = v) (hmerge : t ≠ "<<") :
    plainScalar line t = .scalar line v.tag t := by
  simp [plainScalar, Composer.scalarTag, Scalar.plainTag, hmerge, h]

/-- Without its dates a text that stands for a number stands for the same number. -/
lemma resolve_false_of_resolve_true {v : Scalar} (h : Scalar.resolve true t = v)
    (hv : ∀ stamp, v ≠ .timestamp stamp) : Scalar.resolve false t = v := by
  subst h
  unfold Scalar.resolve at hv ⊢
  cases hlookup : Scalar.words.lookup t with
  | some v => rfl
  | none =>
    simp only [hlookup] at hv ⊢
    by_cases hstart : Scalar.startsNumber t
    · simp only [hstart, if_true] at hv ⊢
      cases hstamp : Timestamp.ofText? t with
      | none => simp
      | some stamp => simp [hstamp] at hv
    · simp [hstart]

section

variable {v : Scalar} (h : Scalar.resolve true t = v) (hv : v.tag = .int ∨ v.tag = .float)
include h hv

/-- A text that stands for a number has that number as its value under the tag of the number. -/
lemma ofTagged_of_resolve : Scalar.ofTagged v.tag t = .ok v := by
  have hfalse : Scalar.resolve false t = v := by
    apply resolve_false_of_resolve_true h
    rintro stamp rfl
    simp [Scalar.tag] at hv
  rcases hv with hv | hv
  · simp [hv, Scalar.ofTagged, hfalse]
  · simp [hv, Scalar.ofTagged, hfalse]

/-- A plain scalar that is resolved to a number gives its literal. -/
lemma operand_of_resolve (hn : n.resolved = plainScalar line t) {literal : Text}
    (hliteral : numberLiteral? v.tag t = some literal) :
    operand entry n = .ok (.const literal) := by
  have hmerge : t ≠ "<<" := by
    rintro rfl
    have htext : v = .text "<<" := h.symm.trans rfl
    simp [htext, Scalar.tag] at hv
  rw [plainScalar_eq h hmerge] at hn
  exact (operand_number hn hv _).mpr ⟨literal, hliteral, rfl⟩

end

/-- The operand of a plain scalar that stands for an integer is the decimal text of that integer. -/
lemma operand_of_resolve_int {v : Int} (hn : n.resolved = plainScalar line t)
    (h : Scalar.resolve true t = .int v) : operand entry n = .ok (.const (Text.ofInt v)) := by
  apply operand_of_resolve h (.inl rfl) hn
  rw [numberLiteral?, ofTagged_of_resolve h (.inl rfl)]

end

/-- Every integer of sixty-four bits keeps its value. Each of its spellings stands for it, where a
sign takes one of the bits; a plain scalar that stands for it gives its decimal text; and that text,
as a plain scalar, stands for it again and gives the same operand. -/
theorem operand_integer {v : Int} (hlow : -2 ^ 63 ≤ v) (hhigh : v < 2 ^ 64) :
    (∀ (s : Integer.Spelling) (t : Text), s.WrittenAs t → s.value = v →
      s.sign = .absent ∨ v < 2 ^ 63 → Scalar.resolve true t = .int v) ∧
    (∀ (entry line : Nat) (n : Node) (t : Text), n.resolved = plainScalar line t →
      Scalar.resolve true t = .int v → operand entry n = .ok (.const (Text.ofInt v))) ∧
    Scalar.resolve true (Text.ofInt v) = .int v ∧
    ∀ (entry line : Nat) (n : Node), n.resolved = plainScalar line (Text.ofInt v) →
      operand entry n = .ok (.const (Text.ofInt v)) := by
  have hagain : Scalar.resolve true (Text.ofInt v) = .int v :=
    Integer.Spelling.resolve_ofInt hlow hhigh true
  refine ⟨?_, ?_, hagain, ?_⟩
  · rintro s t hs rfl hsign
    exact hs.resolve_eq_int hlow hhigh hsign true
  · intro entry line n t hn ht
    exact operand_of_resolve_int hn ht
  · intro entry line n hn
    exact operand_of_resolve_int hn hagain

/-- The least integer of sixty-four bits in hexadecimal. -/
def leastSpelling : Integer.Spelling where
  sign := .minus
  radix := .hexadecimal false
  digits := "8000000000000000"
  isSome_digit? := List.all_eq_true.mp rfl
  digits_ne_nil := by decide
  head?_ne_zero := by decide

theorem operand_integer_least :
    operand 0 (plainScalar 1 "-0x8000_0000_0000_0000")
      = .ok (.const (Text.ofInt (-9223372036854775808))) := by
  have hleast := operand_integer (v := -9223372036854775808) (by norm_num) (by norm_num)
  apply hleast.2.1 0 1 _ "-0x8000_0000_0000_0000" rfl
  apply hleast.1 leastSpelling
  · constructor
    · decide
    · decide
  · decide
  · right
    norm_num

end Document

end CqlWriter
