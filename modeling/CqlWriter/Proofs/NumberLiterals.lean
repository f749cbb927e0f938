import Mathlib
import CqlWriter.Proofs.IntegerSpellings
import CqlWriter.Proofs.ShortestDigits
import CqlWriter.Proofs.UnquotedText

/-!
# Literals of numbers

The operand of a scalar that is tagged as a number is one of the three words for a number or a
numeral: digits with an optional sign, fraction and exponent. The numeral of a number of double
precision has a fraction or an exponent, unless it stands for a wide integer.
-/

namespace CqlWriter

open Yaml

/-! ### Numerals -/

namespace Numeral

open RegularExpression

def digit : RegularExpression UInt8 :=
  (("0123456789" : Text).map char).sum

def digits : RegularExpression UInt8 :=
  digit * digit.star

/-- What may be left out. -/
def optional (P : RegularExpression UInt8) : RegularExpression UInt8 :=
  1 + P

def minus : RegularExpression UInt8 :=
  char (Text.byte '-')

/-- Digits behind a point. -/
def fraction : RegularExpression UInt8 :=
  char (Text.byte '.') * digits

/-- Digits behind the mark of an exponent and a sign. -/
def exponent : RegularExpression UInt8 :=
  char (Text.byte 'e') * (char (Text.byte '+') + minus) * digits

/-- A number with an optional sign, an optional fraction and an optional exponent. -/
def numeral : RegularExpression UInt8 :=
  optional minus * digits * optional fraction * optional exponent

section

variable {P Q : RegularExpression UInt8} {s t : Text}

lemma append_mem (hs : s ∈ P.matches') (ht : t ∈ Q.matches') : s ++ t ∈ (P * Q).matches' :=
  Language.append_mem_mul hs ht

lemma nil_mem_optional : [] ∈ (optional P).matches' :=
  .inl Language.nil_mem_one

lemma mem_optional (h : t ∈ P.matches') : t ∈ (optional P).matches' :=
  .inr h

lemma singleton_mem_sum {b : UInt8} {bs : List UInt8} (h : b ∈ bs) :
    [b] ∈ (bs.map char).sum.matches' := by
  induction bs with
  | nil => cases h
  | cons c bs ih =>
    rw [List.map_cons, List.sum_cons]
    rcases List.mem_cons.mp h with rfl | h
    · exact .inl rfl
    · exact .inr (ih h)

lemma mem_digit {b : UInt8} (h : Integer.isDigit b) : [b] ∈ digit.matches' := by
  apply singleton_mem_sum
  revert b
  decide +kernel

/-- Digits are matched however many there are, but not none. -/
lemma mem_digits (hne : t ≠ []) (h : ∀ b ∈ t, Integer.isDigit b) : t ∈ digits.matches' := by
  cases t with
  | nil => exact absurd rfl hne
  | cons b rest =>
    obtain ⟨hb, hrest⟩ := List.forall_mem_cons.mp h
    apply append_mem (s := [b]) (mem_digit hb)
    rw [matches'_star, Language.mem_kstar]
    refine ⟨rest.map fun c => [c], ?_, ?_⟩
    · rw [← List.flatMap_def, List.flatMap_singleton']
    · intro t ht
      obtain ⟨c, hc, rfl⟩ := List.mem_map.mp ht
      exact mem_digit (hrest c hc)

end

lemma minus_mem : ("-" : Text) ∈ (optional minus).matches' :=
  mem_optional rfl

/-- A point and digits behind it are a fraction, and without digits there is none. -/
lemma pointed_mem {t : Text} (h : ∀ b ∈ t, Integer.isDigit b) :
    Binary64.Written.pointed t ∈ (optional fraction).matches' := by
  unfold Binary64.Written.pointed
  split_ifs with hempty
  · exact nil_mem_optional
  · apply mem_optional
    exact append_mem rfl (mem_digits (by simpa using hempty) h)

/-- An exponent has a mark, a sign and digits. -/
lemma exponent_mem {sign t : Text} (hsign : sign = "+" ∨ sign = "-") (hne : t ≠ [])
    (h : ∀ b ∈ t, Integer.isDigit b) : "e" ++ sign ++ t ∈ (optional exponent).matches' := by
  apply mem_optional
  refine append_mem (append_mem rfl ?_) (mem_digits hne h)
  rcases hsign with rfl | rfl
  · exact .inl rfl
  · exact .inr rfl

/-- A numeral is put together from its parts. -/
lemma numeral_mem {sign whole part power : Text} (hsign : sign ∈ (optional minus).matches')
    (hwhole : whole ∈ digits.matches') (hpart : part ∈ (optional fraction).matches')
    (hpower : power ∈ (optional exponent).matches') :
    sign ++ whole ++ part ++ power ∈ numeral.matches' :=
  append_mem (append_mem (append_mem hsign hwhole) hpart) hpower

/-- An integer is a numeral without a fraction and an exponent. -/
lemma integer_mem {sign t : Text} (hsign : sign ∈ (optional minus).matches') (hne : t ≠ [])
    (h : ∀ b ∈ t, Integer.isDigit b) : sign ++ t ∈ numeral.matches' := by
  have hparts := numeral_mem hsign (mem_digits hne h) nil_mem_optional nil_mem_optional
  rwa [List.append_nil, List.append_nil] at hparts

/-- The decimal text of an integer is a numeral. -/
lemma ofInt_mem (n : Int) : Text.ofInt n ∈ numeral.matches' := by
  have hne := Text.ofNat_ne_nil n.natAbs
  have hdigits := Text.isDigit_of_mem_ofNat n.natAbs
  unfold Text.ofInt
  split_ifs
  · exact integer_mem minus_mem hne hdigits
  · exact integer_mem nil_mem_optional hne hdigits

end Numeral

namespace Binary64

open Numeral

/-! ### Written numbers -/

/-- A positive number is written with at least one digit. -/
lemma digits_written_ne_nil {m : Nat} (hm : 0 < m) (hlt : m < 2 ^ 53) (negative : Bool) (e : Int) :
    (written negative m e).digits ≠ [] := by
  have hzero := Text.head?_ofNat_ne_zero (digits_shortest_ne_zero hm hlt e)
  have hne := Text.ofNat_ne_nil (shortest m e).digits
  rw [written, if_neg hm.ne', Ne, List.reverse_eq_nil_iff, List.dropWhile_eq_nil_iff]
  intro hzeros
  obtain ⟨b, rest, hcons⟩ := List.exists_cons_of_ne_nil hne
  have hb := hzeros b (by simp [hcons])
  rw [hcons, List.head?_cons, of_decide_eq_true hb] at hzero
  exact hzero rfl

namespace Written

variable {w : Written}

lemma sign_mem (w : Written) : w.sign ∈ (Numeral.optional minus).matches' := by
  unfold sign
  split_ifs
  · exact minus_mem
  · exact nil_mem_optional

/-- There is a digit in front of the point. -/
lemma wholeDigits_mem (h : ∀ b ∈ w.digits, Integer.isDigit b) :
    w.wholeDigits ∈ Numeral.digits.matches' := by
  unfold wholeDigits
  split_ifs with hneg
  · exact mem_digits (by decide) (List.all_eq_true.mp rfl)
  · apply mem_digits
    · apply List.ne_nil_of_length_pos
      rw [List.length_append, List.length_take, zeros, List.length_replicate]
      omega
    · rw [List.forall_mem_append]
      exact ⟨fun b hb => h b (List.mem_of_mem_take hb), isDigit_of_mem_zeros _⟩

lemma isDigit_of_mem_fractionDigits (h : ∀ b ∈ w.digits, Integer.isDigit b) :
    ∀ b ∈ w.fractionDigits, Integer.isDigit b := by
  unfold fractionDigits
  split_ifs
  · simp
  · exact List.forall_mem_append.mpr ⟨isDigit_of_mem_zeros _, h⟩
  · exact fun b hb => h b (List.mem_of_mem_drop hb)

/-- The positional notation is a numeral. -/
lemma positional_mem (h : ∀ b ∈ w.digits, Integer.isDigit b) : w.positional ∈ numeral.matches' := by
  have hparts := numeral_mem w.sign_mem (wholeDigits_mem h)
    (pointed_mem (isDigit_of_mem_fractionDigits h)) nil_mem_optional
  rwa [List.append_nil] at hparts

/-- The notation with an exponent is a numeral. -/
lemma scientific_mem (h : ∀ b ∈ w.digits, Integer.isDigit b) (hne : w.digits ≠ []) :
    w.scientific ∈ numeral.matches' := by
  have hfirst : w.digits.take 1 ∈ Numeral.digits.matches' := by
    apply mem_digits
    · simpa using hne
    · exact fun b hb => h b (List.mem_of_mem_take hb)
  have hfraction : pointed (w.digits.drop 1) ∈ (Numeral.optional fraction).matches' :=
    pointed_mem fun b hb => h b (List.mem_of_mem_drop hb)
  have hsign : Text.ofString (if w.leading < 0 then "-" else "+") = "+" ∨
      Text.ofString (if w.leading < 0 then "-" else "+") = "-" := by
    split_ifs
    · exact .inr rfl
    · exact .inl rfl
  have hexponent := exponent_mem hsign
    (List.append_ne_nil_of_right_ne_nil (zeros (2 - (Text.ofNat w.leading.natAbs).length))
      (Text.ofNat_ne_nil w.leading.natAbs))
    (List.forall_mem_append.mpr ⟨isDigit_of_mem_zeros _, Text.isDigit_of_mem_ofNat _⟩)
  have hparts := numeral_mem w.sign_mem hfirst hfraction hexponent
  simpa only [scientific, List.append_assoc] using hparts

/-- An exponent is written only with digits in front of it. -/
lemma general_mem (h : ∀ b ∈ w.digits, Integer.isDigit b)
    (hne : w.digits ≠ [] ∨ (-4 ≤ w.leading ∧ w.leading < 6)) : w.general ∈ numeral.matches' := by
  unfold general
  split_ifs with hfar
  · simp only [Bool.or_eq_true, decide_eq_true_eq] at hfar
    exact scientific_mem h (hne.resolve_right (by omega))
  · exact positional_mem h

lemma mem_scientific (w : Written) : Text.byte 'e' ∈ w.scientific := by
  have hmark : Text.byte 'e' ∈ ("e" : Text) := List.mem_cons_self
  simp [scientific, hmark]

lemma mem_positional (h : w.fractionDigits ≠ []) : Text.byte '.' ∈ w.positional := by
  have hmark : Text.byte '.' ∈ ("." : Text) := List.mem_cons_self
  simp [positional, pointed, h, hmark]

/-- Without a point and an exponent a number is written as an integer, and a point may follow. -/
lemma general_append_mem (h : ∀ b ∈ w.digits, Integer.isDigit b)
    (hpoint : Text.byte '.' ∉ w.general) (hexponent : Text.byte 'e' ∉ w.general) :
    w.general ++ ".0" ∈ numeral.matches' := by
  unfold general at hpoint hexponent ⊢
  split_ifs at hpoint hexponent ⊢
  · exact absurd w.mem_scientific hexponent
  · have hempty : w.fractionDigits = [] := by
      by_contra hne
      exact hpoint (mem_positional hne)
    have hzero : pointed "0" ∈ (Numeral.optional fraction).matches' :=
      pointed_mem (List.all_eq_true.mp rfl)
    have hparts := numeral_mem w.sign_mem (wholeDigits_mem h) hzero nil_mem_optional
    have hpositional : w.positional = w.sign ++ w.wholeDigits := by
      rw [positional, hempty]
      exact List.append_nil _
    rwa [List.append_nil, ← hpositional] at hparts

end Written

/-- A finite number is written as a numeral in either notation. -/
lemma written_mem {m : Nat} (hlt : m < 2 ^ 53) (negative : Bool) (e : Int) :
    (written negative m e).general ∈ numeral.matches' := by
  apply Written.general_mem (isDigit_of_mem_written negative m e)
  by_cases hm : m = 0
  · right
    simp [written, hm]
  · left
    exact digits_written_ne_nil (Nat.pos_of_ne_zero hm) hlt negative e

end Binary64

/-! ### Literals -/

namespace Document

open Numeral

lemma finiteLiteral_mem {m : Nat} (hlt : m < 2 ^ 53) (negative : Bool) (e : Int) :
    finiteLiteral negative m e ∈ numeral.matches' := by
  simp only [finiteLiteral]
  split_ifs with hmark
  · exact Binary64.written_mem hlt negative e
  · simp only [Bool.or_eq_true, List.contains_iff_mem, not_or] at hmark
    exact Binary64.Written.general_append_mem (Binary64.isDigit_of_mem_written negative m e)
      hmark.1 hmark.2

/-- The literal of a finite number does not look like an integer. -/
lemma mem_finiteLiteral (negative : Bool) (m : Nat) (e : Int) :
    Text.byte '.' ∈ finiteLiteral negative m e ∨ Text.byte 'e' ∈ finiteLiteral negative m e := by
  simp only [finiteLiteral]
  split_ifs with hmark
  · simpa [List.contains_iff_mem] using hmark
  · left
    exact List.mem_append_right _ List.mem_cons_self

/-- A sequence of digits with an optional sign is a numeral without its plus sign. -/
lemma decimal_mem {t : Text} (h : isDecimal t) :
    (Text.dropStart? "+" t).getD t ∈ numeral.matches' := by
  simp only [isDecimal, Bool.and_eq_true, Bool.not_eq_true', List.isEmpty_eq_false_iff,
    List.all_eq_true] at h
  unfold Integer.signed at h
  split at h
  · exact integer_mem minus_mem h.1 h.2
  · exact integer_mem nil_mem_optional h.1 h.2
  · have hdrop : Text.dropStart? "+" t = none := by
      apply Text.dropStart?_eq_none
      intro b hb
      rw [decide_eq_true_eq]
      rintro rfl
      cases h.2 _ (List.mem_of_head? hb)
    rw [hdrop]
    exact integer_mem nil_mem_optional h.1 h.2

/-- A number is written as one of three words or as a numeral. -/
lemma floatLiteral_mem {x : Binary64} (hx : x.Fits) (t : Text) :
    floatLiteral t x ∈ [("Infinity" : Text), "-Infinity", "NaN"] ∨
      floatLiteral t x ∈ numeral.matches' := by
  cases x with
  | infinite negative => cases negative <;> simp [floatLiteral]
  | nan => simp [floatLiteral]
  | finite negative m e =>
    right
    simp only [floatLiteral]
    split_ifs with hwide
    · exact decimal_mem (Bool.and_eq_true_iff.mp hwide).2
    · exact finiteLiteral_mem hx negative e

end Document

namespace Yaml.Scalar

variable {t : Text} {x : Binary64}

/-- The numbers among the words are not finite. -/
lemma fits_of_lookup_words (h : words.lookup t = some (.float x)) : x.Fits := by
  have hwords : ∀ p ∈ words, p.2 ∈ [null, bool true, bool false, float .nan,
      float (.infinite false), float (.infinite true)] := by
    decide
  obtain ⟨front, back, hsplit, -⟩ := List.lookup_eq_some_iff.mp h
  have hmem := hwords (t, .float x) (by simp [hsplit])
  simp only [List.mem_cons, reduceCtorEq, float.injEq, List.not_mem_nil, or_false, false_or] at hmem
  rcases hmem with rfl | rfl | rfl <;> trivial

/-- A number that is read fits in sixty-four bits. -/
lemma fits_of_number? (h : number? t = some (.float x)) : x.Fits := by
  simp only [number?, Option.or_eq_some_iff, Option.map_eq_some_iff, Option.or_eq_none_iff,
    reduceCtorEq, and_false, exists_false, or_false, false_or, float.injEq, exists_eq_right] at h
  exact Binary64.fits_of_ofText? h.2

lemma fits_of_resolve {dates : Bool} (h : resolve dates t = .float x) : x.Fits := by
  cases hlookup : words.lookup t with
  | some v =>
    simp only [resolve, hlookup] at h
    exact fits_of_lookup_words (h ▸ hlookup)
  | none =>
    simp only [resolve, hlookup] at h
    by_cases hstart : startsNumber t
    · rw [if_pos hstart] at h
      split at h
      · cases h
      · cases hnumber : number? t with
        | none => simp [hnumber] at h
        | some v =>
          rw [hnumber, Option.getD_some] at h
          exact fits_of_number? (h ▸ hnumber)
    · rw [if_neg hstart] at h
      split_ifs at h
      cases hspaced : Binary64.ofSpacedText? t with
      | none => simp [hspaced] at h
      | some y =>
        rw [hspaced, Option.map_some, Option.getD_some, float.injEq] at h
        exact Binary64.fits_of_ofSpacedText? (h ▸ hspaced)

/-- The significand of a number of double precision that a scalar stands for fits. -/
lemma fits_of_ofTagged {tag : Tag} (h : ofTagged tag t = .ok (.float x)) : x.Fits := by
  unfold ofTagged at h
  split at h
  case h_7 =>
    dsimp only at h
    split_ifs at h
    · exact fits_of_resolve (Except.ok.inj h)
    · split at h
      · split_ifs at h
        obtain rfl := float.inj (Except.ok.inj h)
        exact Binary64.fits_ofInt _
      · cases h
  all_goals cases h

end Yaml.Scalar

namespace Document

variable {line : Nat} {n : Node} {tag : Tag} {t : Text}

/-- The operand of a scalar that is tagged as a number is one of the words for a number or a
numeral, and it has a point or an exponent if the scalar stands for a finite number of double
precision below `2 ^ 63`. -/
theorem operand_numeral (hn : n.resolved = .scalar line tag t) (htag : tag = .int ∨ tag = .float)
    (entry : Nat) :
    (∀ o, operand entry n = .ok o → ∃ literal, o = .const literal ∧
      (literal ∈ [("Infinity" : Text), "-Infinity", "NaN"] ∨
        literal ∈ Numeral.numeral.matches')) ∧
    ∀ negative m e, Scalar.ofTagged tag t = .ok (.float (.finite negative m e)) →
      (m : ℚ) * 2 ^ e < 2 ^ 63 → ∃ literal, operand entry n = .ok (.const literal) ∧
        (Text.byte '.' ∈ literal ∨ Text.byte 'e' ∈ literal) := by
  constructor
  · intro o ho
    obtain ⟨literal, hliteral, rfl⟩ := (operand_number hn htag o).mp ho
    refine ⟨literal, rfl, ?_⟩
    unfold numberLiteral? at hliteral
    split at hliteral
    · next k _ =>
      obtain rfl := Option.some.inj hliteral
      exact .inr (Numeral.ofInt_mem k)
    · next x htagged =>
      obtain rfl := Option.some.inj hliteral
      exact floatLiteral_mem (Scalar.fits_of_ofTagged htagged) t
    · cases hliteral
  · intro negative m e htagged hsmall
    have hnarrow : ¬ (Binary64.finite negative m e).atLeastPow2 63 := by
      rw [Binary64.atLeastPow2_iff]
      exact not_le.mpr hsmall
    refine ⟨finiteLiteral negative m e, ?_, mem_finiteLiteral negative m e⟩
    apply (operand_number hn htag _).mpr
    exact ⟨_, by simp [numberLiteral?, htagged, floatLiteral, hnarrow], rfl⟩

theorem operand_numeral_million :
    ∃ literal, operand 0 (.scalar 1 .float "1_000_000") = .ok (.const literal) ∧
      (Text.byte '.' ∈ literal ∨ Text.byte 'e' ∈ literal) ∧
      (literal ∈ [("Infinity" : Text), "-Infinity", "NaN"] ∨
        literal ∈ Numeral.numeral.matches') := by
  have hn : (Node.scalar 1 .float "1_000_000").resolved = .scalar 1 .float "1_000_000" := rfl
  obtain ⟨hnumeral, hmark⟩ := operand_numeral hn (.inr rfl) 0
  have htagged : Scalar.ofTagged .float "1_000_000"
      = .ok (.float (.finite false (1000000 * 2 ^ 33) (-33))) := by
    decide +kernel
  obtain ⟨literal, hliteral, hpoint⟩ := hmark false _ (-33) htagged (by norm_num)
  obtain ⟨_, heq, hform⟩ := hnumeral _ hliteral
  obtain rfl := Operand.const.inj heq
  exact ⟨literal, hliteral, hpoint, hform⟩

end Document

end CqlWriter
