import Mathlib
import CqlWriter.Number.Shortest

/-!
# Rounding to double precision

A fraction is read as a number `m * 2 ^ e` of double precision exactly if it lies between the bounds
of that number, and it is too great from the middle between the greatest number and the next power
of two on.
-/

namespace CqlWriter

/-! ### Scaled numbers -/

-- not by `rfl`, since powers such as `2 ^ 53` must never be unfolded
lemma power_eq (base n : Nat) : power base n = base ^ n := by
  rw [power, Nat.pow_eq]

lemma scaled_snd_pos {base : Nat} (hbase : 0 < base) (n : Nat) (e : Int) :
    0 < (scaled base n e).2 := by
  unfold scaled
  split_ifs
  · exact pow_pos hbase _
  · exact Nat.one_pos

/-- The fraction is the scaled number. -/
lemma scaled_ratio {base : Nat} (hbase : 0 < base) (n : Nat) (e : Int) :
    ((scaled base n e).1 : ℚ) / (scaled base n e).2 = n * (base : ℚ) ^ e := by
  have hne : (base : ℚ) ≠ 0 := by positivity
  unfold scaled
  split_ifs with hneg
  · have he : e = -(e.natAbs : Int) := by omega
    rw [power_eq]
    conv_rhs => rw [he, zpow_neg, zpow_natCast]
    push_cast
    rfl
  · have he : e = (e.natAbs : Int) := by omega
    rw [power_eq]
    conv_rhs => rw [he, zpow_natCast]
    push_cast
    simp

lemma scaled_fst_pos {base n : Nat} (hbase : 0 < base) (hn : 0 < n) (e : Int) :
    0 < (scaled base n e).1 := by
  unfold scaled
  split_ifs
  · exact hn
  · exact Nat.mul_pos hn (pow_pos hbase _)

lemma cast_scaled_fst {base : Nat} (hbase : 0 < base) (n : Nat) (e : Int) :
    ((scaled base n e).1 : ℚ) = n * (base : ℚ) ^ e * (scaled base n e).2 := by
  have hpos : (0 : ℚ) < (scaled base n e).2 := by exact_mod_cast scaled_snd_pos hbase n e
  rw [← scaled_ratio hbase, div_mul_cancel₀ _ hpos.ne']

/-! ### Rounding to a whole number -/

/-- Rounding goes to one of the two neighbours. -/
lemma roundHalfEven_eq_or (num den : Nat) :
    roundHalfEven num den = num / den ∨ roundHalfEven num den = num / den + 1 := by
  simp only [roundHalfEven]
  split_ifs <;> simp

/-- The distance to the nearest whole number is at most one half, and less if that number is odd. -/
lemma roundHalfEven_near (num : Nat) {den : Nat} (hden : 0 < den) :
    2 * (roundHalfEven num den * den) ≤ 2 * num + den ∧
    2 * num ≤ 2 * (roundHalfEven num den * den) + den ∧
    (roundHalfEven num den % 2 = 1 →
      2 * (roundHalfEven num den * den) < 2 * num + den ∧
      2 * num < 2 * (roundHalfEven num den * den) + den) := by
  have hdiv : num / den * den + num % den = num := Nat.div_add_mod' num den
  have hmod : num % den < den := Nat.mod_lt num hden
  simp only [roundHalfEven, Bool.or_eq_true, Bool.and_eq_true, decide_eq_true_eq]
  split_ifs with h
  · omega
  · have hnext : (num / den + 1) * den = num / den * den + den := Nat.add_one_mul _ _
    rw [hnext]
    omega

/-- A rational number is at most a half from `m`, and less if `m` is odd. -/
structure IsNear (x : ℚ) (m : Nat) : Prop where
  lower : 2 * (m : ℚ) - 1 ≤ 2 * x
  upper : 2 * x ≤ 2 * (m : ℚ) + 1
  odd : m % 2 = 1 → 2 * (m : ℚ) - 1 < 2 * x ∧ 2 * x < 2 * (m : ℚ) + 1

/-- Rounding goes to the nearer neighbour, and to the even one between two. -/
lemma isNear_roundHalfEven {num den : Nat} (hden : 0 < den) {x : ℚ} (hx : x * den = num) :
    IsNear x (roundHalfEven num den) := by
  have hpos : (0 : ℚ) < den := by exact_mod_cast hden
  obtain ⟨hlower, hupper, hodd⟩ := roundHalfEven_near num hden
  constructor
  · have hcast : 2 * ((roundHalfEven num den : ℚ) * den) ≤ 2 * num + den := by exact_mod_cast hlower
    apply le_of_mul_le_mul_right _ hpos
    linarith
  · have hcast : (2 : ℚ) * num ≤ 2 * (roundHalfEven num den * den) + den := by exact_mod_cast hupper
    apply le_of_mul_le_mul_right _ hpos
    linarith
  · intro hm
    obtain ⟨hlower, hupper⟩ := hodd hm
    have hcast : 2 * ((roundHalfEven num den : ℚ) * den) < 2 * num + den := by exact_mod_cast hlower
    have hcast' : (2 : ℚ) * num < 2 * (roundHalfEven num den * den) + den := by
      exact_mod_cast hupper
    constructor
    · apply lt_of_mul_lt_mul_right _ hpos.le
      linarith
    · apply lt_of_mul_lt_mul_right _ hpos.le
      linarith

namespace Binary64

/-! ### The exponent of a fraction -/

/-- The exponent of the leading bit of a fraction, or one more. -/
def roughExponent (num den : Nat) : Int :=
  num.log2 - den.log2

lemma zpow_add_natCast (e : Int) (k : Nat) : (2 : ℚ) ^ (e + k) = 2 ^ k * 2 ^ e := by
  rw [zpow_add₀ two_ne_zero, zpow_natCast, mul_comm]

lemma zpow_log2_le {n : Nat} (hn : 0 < n) : (2 : ℚ) ^ (n.log2 : Int) ≤ n := by
  rw [zpow_natCast]
  exact_mod_cast Nat.log2_self_le hn.ne'

lemma lt_zpow_log2 (n : Nat) : (n : ℚ) < 2 ^ ((n.log2 : Int) + 1) := by
  rw [← Nat.cast_succ, zpow_natCast]
  exact_mod_cast Nat.lt_log2_self

/-- The rough exponent is one too great at most. -/
lemma zpow_roughExponent_le {num den : Nat} (hnum : 0 < num) (hden : 0 < den) :
    (2 : ℚ) ^ (roughExponent num den - 1) ≤ num / den := by
  rw [le_div_iff₀ (by exact_mod_cast hden)]
  calc (2 : ℚ) ^ (roughExponent num den - 1) * den
      ≤ 2 ^ (roughExponent num den - 1) * 2 ^ ((den.log2 : Int) + 1) := by
        gcongr
        exact (lt_zpow_log2 den).le
    _ = 2 ^ (num.log2 : Int) := by
        rw [← zpow_add₀ two_ne_zero, roughExponent]
        congr 1
        ring
    _ ≤ num := zpow_log2_le hnum

/-- The rough exponent is not too small. -/
lemma lt_zpow_roughExponent (num : Nat) {den : Nat} (hden : 0 < den) :
    (num : ℚ) / den < 2 ^ (roughExponent num den + 1) := by
  rw [div_lt_iff₀ (by exact_mod_cast hden)]
  calc (num : ℚ) < 2 ^ ((num.log2 : Int) + 1) := lt_zpow_log2 num
    _ = 2 ^ (roughExponent num den + 1) * 2 ^ (den.log2 : Int) := by
        rw [← zpow_add₀ two_ne_zero, roughExponent]
        congr 1
        ring
    _ ≤ 2 ^ (roughExponent num den + 1) * den := by
        gcongr
        exact zpow_log2_le hden

/-- The comparison by which a guess at the exponent is corrected. -/
lemma scaled_lt_iff (num : Nat) {den : Nat} (hden : 0 < den) (e : Int) :
    (scaled 2 num (-e)).1 < den * (scaled 2 num (-e)).2 * power 2 52 ↔
      (num : ℚ) / den < 2 ^ (e + 52) := by
  have hd : (0 : ℚ) < den := by exact_mod_cast hden
  have hs : (0 : ℚ) < (scaled 2 num (-e)).2 := by exact_mod_cast scaled_snd_pos Nat.two_pos num (-e)
  have hpow : (2 : ℚ) ^ (e + 52) = 2 ^ 52 * 2 ^ e := zpow_add_natCast e 52
  have hratio := scaled_ratio Nat.two_pos num (-e)
  rw [div_eq_iff hs.ne', zpow_neg] at hratio
  have he : (0 : ℚ) < 2 ^ e := by positivity
  rw [← Nat.cast_lt (α := ℚ), hratio, power_eq, div_lt_iff₀ hd, hpow]
  push_cast
  rw [mul_right_comm (den : ℚ), mul_lt_mul_iff_left₀ hs, mul_inv_lt_iff₀ he]
  ring_nf

/-- The exponent leaves fifty-three bits, unless it is the least one. -/
lemma exponentOf_eq {num den : Nat} (hden : 0 < den) : exponentOf num den
    = max (if (num : ℚ) / den < 2 ^ roughExponent num den then roughExponent num den - 53
      else roughExponent num den - 52) minExponent := by
  have htest := scaled_lt_iff num hden (roughExponent num den - 52)
  rw [show roughExponent num den - 52 + 52 = roughExponent num den by ring] at htest
  have hrough : (num.log2 : Int) - den.log2 = roughExponent num den := rfl
  simp only [exponentOf, hrough]
  congr 1
  by_cases hq : (num : ℚ) / den < 2 ^ roughExponent num den
  · rw [if_pos (htest.mpr hq), if_pos hq]
    ring
  · rw [if_neg fun h => hq (htest.mp h), if_neg hq]

/-- A positive fraction has fifty-three bits before the point at its exponent, or fewer if that is
the least one. -/
lemma exponentOf_bounds {num den : Nat} (hnum : 0 < num) (hden : 0 < den) :
    minExponent ≤ exponentOf num den ∧
    (num : ℚ) / den < 2 ^ 53 * 2 ^ exponentOf num den ∧
    (minExponent < exponentOf num den → 2 ^ 52 * 2 ^ exponentOf num den ≤ (num : ℚ) / den) := by
  have hlower := zpow_roughExponent_le hnum hden
  have hupper := lt_zpow_roughExponent num hden
  rw [exponentOf_eq hden]
  generalize (num : ℚ) / den = q at hlower hupper ⊢
  generalize roughExponent num den = r at hlower hupper ⊢
  -- at the exponent that is not cut off, the fraction has exactly fifty-three bits
  obtain ⟨e, he, hle, hlt⟩ : ∃ e, (if q < 2 ^ r then r - 53 else r - 52) = e ∧
      (2 : ℚ) ^ (e + 52) ≤ q ∧ q < 2 ^ (e + 53) := by
    by_cases hq : q < 2 ^ r
    · refine ⟨r - 53, if_pos hq, ?_, ?_⟩
      · rwa [show r - 53 + 52 = r - 1 by ring]
      · rwa [show r - 53 + 53 = r by ring]
    · refine ⟨r - 52, if_neg hq, ?_, ?_⟩
      · rw [show r - 52 + 52 = r by ring]
        exact not_lt.mp hq
      · rwa [show r - 52 + 53 = r + 1 by ring]
  rw [he, ← zpow_add_natCast, ← zpow_add_natCast]
  refine ⟨le_max_right _ _, ?_, ?_⟩
  · apply hlt.trans_le
    apply zpow_le_zpow_right₀ one_le_two
    exact add_le_add_left (le_max_left _ _) 53
  · intro hmin
    rw [max_eq_left (by omega)]
    exact hle

/-! ### Reading a fraction -/

lemma bounds_fst_of_eq {e : Int} (he : e ≠ minExponent) : (bounds (2 ^ 52) e).1 = 2 ^ 54 - 1 := by
  simp [bounds, power_eq, he]

lemma bounds_fst_of_ne {m : Nat} {e : Int} (h : m = 2 ^ 52 → e = minExponent) :
    (bounds m e).1 = 4 * m - 2 := by
  simp only [bounds, power_eq, Bool.and_eq_true, decide_eq_true_eq]
  rw [if_neg]
  rintro ⟨hm, he⟩
  exact he (h hm)

lemma bounds_snd (m : Nat) (e : Int) : (bounds m e).2 = 4 * m + 2 := rfl

/-- The rational number `x` lies between the bounds of `m * 2 ^ e`, and strictly between them if `m`
is odd. -/
structure InBounds (x : ℚ) (m : Nat) (e : Int) : Prop where
  lower : (bounds m e).1 * 2 ^ e ≤ 4 * x
  upper : 4 * x ≤ (bounds m e).2 * 2 ^ e
  strict : m % 2 = 1 → (bounds m e).1 * 2 ^ e < 4 * x ∧ 4 * x < (bounds m e).2 * 2 ^ e

/-- The rational number `x` is read as `m * 2 ^ e`: it lies between the bounds of that number, whose
significand has all its fifty-three bits unless the exponent is the least one. -/
structure ReadAs (x : ℚ) (m : Nat) (e : Int) : Prop extends InBounds x m e where
  minExponent_le : minExponent ≤ e
  significand_lt : m < 2 ^ 53
  le_significand : minExponent < e → 2 ^ 52 ≤ m

section

variable {x : ℚ} {m : Nat} {e : Int}

/-- Below a power of two the numbers are closer together, but what is rounded with fifty-three bits
is not below one. -/
lemma bounds_fst_le (h : IsNear x m) (hx : 0 ≤ x) (he : minExponent ≤ e)
    (hnormal : minExponent < e → 2 ^ 52 ≤ x) :
    ((bounds m e).1 : ℚ) ≤ 4 * x ∧ (m % 2 = 1 → ((bounds m e).1 : ℚ) < 4 * x) := by
  obtain ⟨hlower, -, hodd⟩ := h
  by_cases hpow : m = 2 ^ 52 → e = minExponent
  · rw [bounds_fst_of_ne hpow]
    cases m with
    | zero => simpa using hx
    | succ k =>
      rw [show 4 * (k + 1) - 2 = 4 * k + 2 by omega]
      push_cast at hlower hodd ⊢
      refine ⟨by linarith, fun hm => ?_⟩
      have hstrict := (hodd hm).1
      linarith
  · push Not at hpow
    obtain ⟨rfl, hne⟩ := hpow
    have hx' : (2 : ℚ) ^ 52 ≤ x := hnormal (lt_of_le_of_ne he hne.symm)
    rw [bounds_fst_of_eq hne]
    refine ⟨?_, by simp⟩
    norm_num at hx' ⊢
    linarith

lemma le_bounds_snd (h : IsNear x m) :
    4 * x ≤ ((bounds m e).2 : ℚ) ∧ (m % 2 = 1 → 4 * x < ((bounds m e).2 : ℚ)) := by
  obtain ⟨-, hupper, hodd⟩ := h
  rw [bounds_snd]
  push_cast
  refine ⟨by linarith, fun hm => ?_⟩
  have hstrict := (hodd hm).2
  linarith

/-- The nearest multiple of a power of two is what a number is read as. -/
lemma readAs_of_isNear (h : IsNear x m) (hm : m < 2 ^ 53) (hx : 0 ≤ x) (he : minExponent ≤ e)
    (hnormal : minExponent < e → 2 ^ 52 ≤ x) : ReadAs (x * 2 ^ e) m e := by
  have hpos : (0 : ℚ) < 2 ^ e := by positivity
  obtain ⟨hfirst, hfirst'⟩ := bounds_fst_le h hx he hnormal
  obtain ⟨hsecond, hsecond'⟩ := le_bounds_snd (e := e) h
  refine ⟨⟨?_, ?_, fun hodd => ⟨?_, ?_⟩⟩, he, hm, fun hmin => ?_⟩
  · rw [← mul_assoc]
    exact mul_le_mul_of_nonneg_right hfirst hpos.le
  · rw [← mul_assoc]
    exact mul_le_mul_of_nonneg_right hsecond hpos.le
  · rw [← mul_assoc]
    exact mul_lt_mul_of_pos_right (hfirst' hodd) hpos
  · rw [← mul_assoc]
    exact mul_lt_mul_of_pos_right (hsecond' hodd) hpos
  · have htwice : (2 : ℚ) * 2 ^ 52 ≤ 2 * m + 1 := by linarith [hnormal hmin, h.upper]
    have hnat : 2 * 2 ^ 52 ≤ 2 * m + 1 := by exact_mod_cast htwice
    omega

/-- What is rounded up to a power of two lies above the lower bound of that power, which is nearer
to it than the upper one. -/
lemma readAs_of_isNear_pow (h : IsNear x (2 ^ 53)) (hx : x < 2 ^ 53) (he : minExponent ≤ e) :
    ReadAs (x * 2 ^ e) (2 ^ 52) (e + 1) := by
  have hpos : (0 : ℚ) < 2 ^ e := by positivity
  have hnext : (2 : ℚ) ^ (e + 1) = 2 * 2 ^ e := by rw [zpow_add_one₀ two_ne_zero, mul_comm]
  have hlower : (2 : ℚ) ^ 54 - 1 ≤ 2 * x := by
    have hnear := h.lower
    push_cast at hnear
    linarith
  have heven : ¬ 2 ^ 52 % 2 = 1 := by norm_num
  refine ⟨⟨?_, ?_, fun hodd => absurd hodd heven⟩, by omega, by norm_num, fun _ => le_rfl⟩
  · have hfirst : (((2 ^ 54 - 1 : Nat)) : ℚ) ≤ 2 * x := by
      norm_num at hlower ⊢
      exact hlower
    rw [bounds_fst_of_eq (by omega), hnext]
    calc ((2 ^ 54 - 1 : Nat) : ℚ) * (2 * 2 ^ e) ≤ 2 * x * (2 * 2 ^ e) := by gcongr
      _ = 4 * (x * 2 ^ e) := by ring
  · have hsecond : 2 * x ≤ ((4 * 2 ^ 52 + 2 : Nat) : ℚ) := by
      norm_num at hx ⊢
      linarith
    rw [bounds_snd, hnext]
    calc 4 * (x * 2 ^ e) = 2 * x * (2 * 2 ^ e) := by ring
      _ ≤ ((4 * 2 ^ 52 + 2 : Nat) : ℚ) * (2 * 2 ^ e) := by gcongr

end

/-- The significand of a fraction is near to the fraction in units of `2 ^ e`. -/
lemma isNear_significandAt (num : Nat) {den : Nat} (hden : 0 < den) (e : Int) :
    IsNear ((num : ℚ) / den * 2 ^ (-e)) (significandAt num den e) := by
  have hscale := scaled_snd_pos Nat.two_pos num (-e)
  have hratio := scaled_ratio Nat.two_pos num (-e)
  have hd : (den : ℚ) ≠ 0 := by exact_mod_cast hden.ne'
  have hs : ((scaled 2 num (-e)).2 : ℚ) ≠ 0 := by exact_mod_cast hscale.ne'
  have hround : significandAt num den e
      = roundHalfEven (scaled 2 num (-e)).1 (den * (scaled 2 num (-e)).2) := rfl
  rw [div_eq_iff hs] at hratio
  rw [hround]
  apply isNear_roundHalfEven (Nat.mul_pos hden hscale)
  rw [hratio]
  push_cast
  field_simp

/-- A fraction is read as the number between whose bounds it lies, unless the exponent of that
number is too great. -/
lemma exists_readAs {num den : Nat} (hnum : 0 < num) (hden : 0 < den) (negative : Bool) :
    ∃ m e, ReadAs ((num : ℚ) / den) m e ∧ ofFraction? negative num den = ofParts? negative m e := by
  obtain ⟨hmin, hupper, hnormal⟩ := exponentOf_bounds hnum hden
  rw [ofFraction?, if_neg hnum.ne']
  dsimp only
  generalize exponentOf num den = e at hmin hupper hnormal ⊢
  have hpos : (0 : ℚ) < 2 ^ e := by positivity
  have hnear := isNear_significandAt num hden e
  generalize significandAt num den e = m at hnear ⊢
  -- the fraction in units of `2 ^ e`
  obtain ⟨x, hx⟩ : ∃ x : ℚ, (num : ℚ) / den * 2 ^ (-e) = x := ⟨_, rfl⟩
  have hxe : (num : ℚ) / den = x * 2 ^ e := by
    rw [← hx, mul_assoc, ← zpow_add₀ two_ne_zero, neg_add_cancel, zpow_zero, mul_one]
  have hx0 : 0 ≤ x := by
    rw [← hx]
    positivity
  rw [hx] at hnear
  rw [hxe, mul_lt_mul_iff_left₀ hpos] at hupper
  have hnormal' : minExponent < e → 2 ^ 52 ≤ x := by
    intro hlt
    have hle := hnormal hlt
    rwa [hxe, mul_le_mul_iff_left₀ hpos] at hle
  rw [hxe]
  by_cases hm : m = power 2 53
  · rw [if_pos hm, power_eq]
    rw [hm, power_eq] at hnear
    exact ⟨2 ^ 52, e + 1, readAs_of_isNear_pow hnear hupper hmin, rfl⟩
  · rw [if_neg hm]
    refine ⟨m, e, readAs_of_isNear hnear ?_ hx0 hmin hnormal', rfl⟩
    rw [power_eq] at hm
    have htwice : 2 * (m : ℚ) < 2 * 2 ^ 53 + 1 := by linarith [hnear.lower]
    have hnat : 2 * m < 2 * 2 ^ 53 + 1 := by exact_mod_cast htwice
    omega

/-! ### Numbers that are too great -/

/-- Only an exponent that is too great has no number. -/
lemma ofParts?_eq_none_iff {negative : Bool} {m : Nat} {e : Int} :
    ofParts? negative m e = none ↔ maxExponent < e := by
  simp [ofParts?]

lemma eq_of_ofParts? {negative : Bool} {m : Nat} {e : Int} {x : Binary64}
    (h : ofParts? negative m e = some x) : x = .finite negative m e := by
  rw [ofParts?] at h
  split_ifs at h
  exact (Option.some.inj h).symm

namespace ReadAs

variable {x : ℚ} {m : Nat} {e : Int} (h : ReadAs x m e)
include h

/-- What is read with an exponent of at most `k` is below the middle between the greatest number
with that exponent and the next power of two. -/
lemma lt_of_exponent_le {k : Nat} (he : e ≤ k) : 4 * x < (2 ^ 55 - 2) * 2 ^ k := by
  have hpow : (2 : ℚ) ^ e ≤ 2 ^ k := by
    rw [← zpow_natCast]
    exact zpow_le_zpow_right₀ one_le_two he
  have hpos : (0 : ℚ) < 2 ^ e := by positivity
  have hm := h.significand_lt
  have hlt : 4 * x < (2 ^ 55 - 2) * 2 ^ e := by
    by_cases hlast : m = 2 ^ 53 - 1
    · -- the last significand is odd, so its upper bound is not included
      have hstrict := (h.strict (by rw [hlast]; norm_num)).2
      rw [bounds_snd, hlast] at hstrict
      norm_num at hstrict ⊢
      exact hstrict
    · have hcast : (m : ℚ) ≤ 2 ^ 53 - 2 := by
        have hnat : m + 2 ≤ 2 ^ 53 := by omega
        have hcast : (m : ℚ) + 2 ≤ 2 ^ 53 := by exact_mod_cast hnat
        linarith
      have hupper := h.upper
      rw [bounds_snd] at hupper
      push_cast at hupper
      nlinarith
  calc 4 * x < (2 ^ 55 - 2) * 2 ^ e := hlt
    _ ≤ (2 ^ 55 - 2) * 2 ^ k := by
      apply mul_le_mul_of_nonneg_left hpow
      norm_num

/-- What is read with an exponent of at least `k` is not below the middle between the least number
with that exponent and the one in front of it. -/
lemma le_of_le_exponent {k : Nat} (he : k ≤ e) : (2 ^ 54 - 1) * 2 ^ k ≤ 4 * x := by
  have hpow : (2 : ℚ) ^ k ≤ 2 ^ e := by
    rw [← zpow_natCast]
    exact zpow_le_zpow_right₀ one_le_two he
  have hmin : minExponent < e := by
    have hneg : minExponent < 0 := by decide
    omega
  have hm := h.le_significand hmin
  have hfirst : (2 : ℚ) ^ 54 - 1 ≤ (bounds m e).1 := by
    by_cases hleast : m = 2 ^ 52
    · rw [hleast, bounds_fst_of_eq hmin.ne']
      norm_num
    · rw [bounds_fst_of_ne fun heq => absurd heq hleast]
      have hnat : 2 ^ 54 - 1 ≤ 4 * m - 2 := by omega
      have hcast : ((2 ^ 54 - 1 : Nat) : ℚ) ≤ (4 * m - 2 : Nat) := by exact_mod_cast hnat
      norm_num at hcast ⊢
      linarith
  calc (2 ^ 54 - 1) * 2 ^ k ≤ ((bounds m e).1 : ℚ) * 2 ^ e := by gcongr
    _ ≤ 4 * x := h.lower

/-- The exponent is too great exactly from the middle between the greatest number and the next power
of two on. -/
lemma maxExponent_lt_iff : maxExponent < e ↔ (2 ^ 1024 - 2 ^ 970 : ℚ) ≤ x := by
  have hmax : maxExponent = 971 := rfl
  -- all powers are multiples of `2 ^ 970`
  rw [show (2 : ℚ) ^ 1024 = 2 ^ 54 * 2 ^ 970 by rw [← pow_add]]
  constructor
  · intro hlt
    have hle := h.le_of_le_exponent (k := 972) (by omega)
    rw [show 972 = 2 + 970 by rfl, pow_add] at hle
    generalize (2 : ℚ) ^ 970 = p at hle ⊢
    linarith
  · intro hle
    by_contra hlt
    have hlt' := h.lt_of_exponent_le (k := 971) (by omega)
    rw [show 971 = 1 + 970 by rfl, pow_add] at hlt'
    generalize (2 : ℚ) ^ 970 = p at hle hlt'
    linarith

/-- A fraction that has sixty-four bits before the point keeps them. -/
lemma le_mul_zpow (hx : 2 ^ 63 ≤ x) : (2 : ℚ) ^ 63 ≤ m * 2 ^ e := by
  by_cases he : e ≤ (10 : Nat)
  · have hlt := h.lt_of_exponent_le he
    norm_num at hlt hx
    linarith
  · have hmin : minExponent < 0 := by decide
    have hm : (2 : ℚ) ^ 52 ≤ m := by exact_mod_cast h.le_significand (by omega)
    have hpow : (2 : ℚ) ^ 11 ≤ 2 ^ e := by
      rw [← zpow_natCast]
      apply zpow_le_zpow_right₀ one_le_two
      push_cast
      omega
    calc (2 : ℚ) ^ 63 = 2 ^ 52 * 2 ^ 11 := by norm_num
      _ ≤ (m : ℚ) * 2 ^ e := by gcongr

end ReadAs

/-! ### Sizes of numbers -/

lemma atLeastPow2_iff {negative : Bool} {m k : Nat} {e : Int} :
    (finite negative m e).atLeastPow2 k ↔ (2 : ℚ) ^ k ≤ m * 2 ^ e := by
  have hscale : (0 : ℚ) < (scaled 2 m e).2 := by exact_mod_cast scaled_snd_pos Nat.two_pos m e
  have hratio := scaled_ratio Nat.two_pos m e
  push_cast at hratio
  rw [← hratio, le_div_iff₀ hscale, atLeastPow2, decide_eq_true_iff, power_eq]
  exact_mod_cast Iff.rfl

def Fits : Binary64 → Prop
  | .finite _ m _ => m < 2 ^ 53
  | _ => True

/-- A fraction is rounded to fifty-three bits. -/
lemma fits_of_ofFraction? {negative : Bool} {num den : Nat} {x : Binary64} (hden : 0 < den)
    (h : ofFraction? negative num den = some x) : x.Fits := by
  by_cases hnum : num = 0
  · rw [ofFraction?, if_pos hnum, Option.some.injEq] at h
    subst h
    exact Nat.two_pow_pos 53
  · obtain ⟨m, e, hread, hparts⟩ := exists_readAs (Nat.pos_of_ne_zero hnum) hden negative
    rw [hparts] at h
    rw [eq_of_ofParts? h]
    exact hread.significand_lt

lemma fits_of_ofDecimal? {negative : Bool} {digits places : Nat} {exponent : Int} {x : Binary64}
    (h : ofDecimal? negative digits places exponent = some x) : x.Fits := by
  rw [ofDecimal?] at h
  split_ifs at h
  · obtain rfl := Option.some.inj h
    exact Nat.two_pow_pos 53
  · exact fits_of_ofFraction? (scaled_snd_pos (by decide) digits exponent) h

/-- What is read from a text fits. -/
lemma fits_of_ofText? {t : Text} {x : Binary64} (h : ofText? t = some x) : x.Fits := by
  simp only [ofText?, Decimal.value?, Option.bind_eq_bind, Option.bind_eq_some_iff] at h
  obtain ⟨d, -, n, -, hvalue⟩ := h
  exact fits_of_ofDecimal? hvalue

lemma fits_of_ofSpacedText? {t : Text} {x : Binary64} (h : ofSpacedText? t = some x) :
    x.Fits := by
  unfold ofSpacedText? at h
  split_ifs at h
  exact fits_of_ofText? h

lemma fits_ofInt (n : Int) : (ofInt n).Fits := by
  rw [ofInt]
  cases hfraction : ofFraction? (n < 0) n.natAbs 1 with
  | none => trivial
  | some x => exact fits_of_ofFraction? Nat.one_pos hfraction

end Binary64

end CqlWriter
