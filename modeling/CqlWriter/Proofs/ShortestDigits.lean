import Mathlib
import CqlWriter.Proofs.Rounding

/-!
# The shortest digits of a number

The shortest decimal of a positive number lies between the bounds of the number. It is looked for
with one digit more at a time, and the eighteenth digit is always close enough: there a step of the
decimal is less than a quarter of the unit `2 ^ e`.
-/

namespace CqlWriter.Binary64

/-! ### Decimal places -/

lemma places_of_lt {n : Nat} (h : n < 10) : places n = 1 := by
  simp [places, Nat.toDigits_of_lt_base h]

lemma places_of_le {n : Nat} (h : 10 ≤ n) : places n = places (n / 10) + 1 := by
  simp [places, Nat.toDigits_of_base_le (by decide) h]

/-- A number has no more digits than its places. -/
lemma lt_pow_places (n : Nat) : n < 10 ^ places n := by
  induction n using Nat.strongRecOn with
  | ind n ih =>
    by_cases h : n < 10
    · rw [places_of_lt h]
      exact h
    · have hless := ih (n / 10) (by omega)
      rw [places_of_le (by omega), pow_succ]
      omega

/-- A number has no fewer digits than its places. -/
lemma pow_places_le {n : Nat} (hn : 0 < n) : 10 ^ places n ≤ 10 * n := by
  induction n using Nat.strongRecOn with
  | ind n ih =>
    by_cases h : n < 10
    · rw [places_of_lt h]
      omega
    · have hless := ih (n / 10) (by omega) (by omega)
      rw [places_of_le (by omega), pow_succ]
      omega

/-- A fraction is at least the power of ten of its leading digit. -/
lemma zpow_leading_le {num den : Nat} (hnum : 0 < num) (hden : 0 < den) :
    (10 : ℚ) ^ leading num den ≤ num / den := by
  have hd : (0 : ℚ) < den := by exact_mod_cast hden
  unfold leading
  split_ifs with hle
  · have hplaces : (10 : ℚ) ^ places (num / den) ≤ 10 * (num / den : Nat) := by
      exact_mod_cast pow_places_le (Nat.div_pos hle hden)
    calc (10 : ℚ) ^ ((places (num / den) : Int) - 1) = 10 ^ places (num / den) / 10 := by
          rw [zpow_sub_one₀ (by norm_num), zpow_natCast, div_eq_mul_inv]
      _ ≤ (num / den : Nat) := by linarith
      _ ≤ num / den := Nat.cast_div_le
  · -- the denominator is at most so many times the numerator, and so is the rounded up quotient
    set above := (den + num - 1) / num with habove
    have hceil : den ≤ num * above := by
      have hlt := Nat.lt_mul_div_succ (den + num - 1) hnum
      rw [← habove, Nat.mul_add_one] at hlt
      omega
    have hplaces : above ≤ 10 ^ places (above - 1) := by
      have hlt := lt_pow_places (above - 1)
      omega
    have hpow : (0 : ℚ) < 10 ^ places (above - 1) := by positivity
    rw [zpow_neg, zpow_natCast, le_div_iff₀ hd, inv_mul_le_iff₀ hpow]
    calc (den : ℚ) ≤ num * above := by exact_mod_cast hceil
      _ ≤ num * 10 ^ places (above - 1) := by
          gcongr
          exact_mod_cast hplaces
      _ = 10 ^ places (above - 1) * num := mul_comm _ _

/-! ### Reading back a decimal -/

section

variable {m : Nat} {e p : Int} {c : Nat}

/-- Both sides of the comparisons of `readsBack` have a common factor. -/
lemma exists_readsBack_factor (e p : Int) : ∃ k : ℚ, 0 < k ∧
    (∀ bound : Nat, ((bound * (scaled 2 1 e).1 * (scaled 10 1 (-p)).1 : Nat) : ℚ)
      = bound * 2 ^ e * k) ∧
    ∀ c : Nat, ((4 * c * (scaled 2 1 e).2 * (scaled 10 1 (-p)).2 : Nat) : ℚ)
      = 4 * (c * 10 ^ p) * k := by
  have hpart : (0 : ℚ) < (scaled 2 1 e).2 := by exact_mod_cast scaled_snd_pos Nat.two_pos 1 e
  have hup : (0 : ℚ) < (scaled 10 1 (-p)).1 := by
    exact_mod_cast scaled_fst_pos (by decide) Nat.one_pos (-p)
  have hunit := cast_scaled_fst Nat.two_pos 1 e
  have hdown : ((scaled 10 1 (-p)).2 : ℚ) = 10 ^ p * (scaled 10 1 (-p)).1 := by
    have hten : (10 : ℚ) ^ p ≠ 0 := by positivity
    rw [cast_scaled_fst (by decide) 1 (-p), zpow_neg]
    push_cast
    field_simp
  refine ⟨(scaled 2 1 e).2 * (scaled 10 1 (-p)).1, mul_pos hpart hup, ?_, ?_⟩
  · intro bound
    push_cast [hunit]
    ring
  · intro c
    push_cast [hdown]
    ring

/-- A decimal reads back if it lies between the bounds. -/
lemma readsBack_iff : readsBack m e p c ↔ InBounds (c * 10 ^ p) m e := by
  obtain ⟨k, hk, hedge, hside⟩ := exists_readsBack_factor e p
  have hle : ∀ bound : Nat, bound * (scaled 2 1 e).1 * (scaled 10 1 (-p)).1
        ≤ 4 * c * (scaled 2 1 e).2 * (scaled 10 1 (-p)).2 ↔
      bound * 2 ^ e ≤ 4 * (c * (10 : ℚ) ^ p) := by
    intro bound
    rw [← Nat.cast_le (α := ℚ), hedge, hside, mul_le_mul_iff_of_pos_right hk]
  have hge : ∀ bound : Nat, 4 * c * (scaled 2 1 e).2 * (scaled 10 1 (-p)).2
        ≤ bound * (scaled 2 1 e).1 * (scaled 10 1 (-p)).1 ↔
      4 * (c * (10 : ℚ) ^ p) ≤ bound * 2 ^ e := by
    intro bound
    rw [← Nat.cast_le (α := ℚ), hedge, hside, mul_le_mul_iff_of_pos_right hk]
  by_cases heven : m % 2 = 0
  · simp only [readsBack, heven, if_true, Bool.and_eq_true, decide_eq_true_eq, hle, hge]
    constructor
    · rintro ⟨hlower, hupper⟩
      exact ⟨hlower, hupper, fun hodd => absurd hodd (by omega)⟩
    · intro h
      exact ⟨h.lower, h.upper⟩
  · simp only [readsBack, heven, if_false, Bool.and_eq_true, decide_eq_true_eq, ← not_le, hle, hge]
    simp only [not_le]
    constructor
    · rintro ⟨hlower, hupper⟩
      exact ⟨hlower.le, hupper.le, fun _ => ⟨hlower, hupper⟩⟩
    · intro h
      exact h.strict (by omega)

/-- The greatest decimal with last digit at `10 ^ p` that is not above `m * 2 ^ e`. -/
def below (m : Nat) (e p : Int) : Nat :=
  (scaled 2 m e).1 * (scaled 10 1 (-p)).1 / ((scaled 2 m e).2 * (scaled 10 1 (-p)).2)

/-- The number lies between two neighbouring decimals. -/
lemma below_bounds (m : Nat) (e p : Int) : (below m e p : ℚ) * 10 ^ p ≤ m * 2 ^ e ∧
    m * 2 ^ e < ((below m e p : ℚ) + 1) * 10 ^ p := by
  have hden : 0 < (scaled 2 m e).2 * (scaled 10 1 (-p)).2 :=
    Nat.mul_pos (scaled_snd_pos Nat.two_pos m e) (scaled_snd_pos (by decide) 1 (-p))
  have hd : (0 : ℚ) < ((scaled 2 m e).2 * (scaled 10 1 (-p)).2 : Nat) := by exact_mod_cast hden
  have hten : (0 : ℚ) < 10 ^ p := by positivity
  have hnum : (((scaled 2 m e).1 * (scaled 10 1 (-p)).1 : Nat) : ℚ) * 10 ^ p
      = m * 2 ^ e * ((scaled 2 m e).2 * (scaled 10 1 (-p)).2 : Nat) := by
    push_cast [cast_scaled_fst Nat.two_pos m e, cast_scaled_fst (show 0 < 10 by decide) 1 (-p),
      zpow_neg]
    field_simp
  have hlow : (below m e p : ℚ) * ((scaled 2 m e).2 * (scaled 10 1 (-p)).2 : Nat)
      ≤ ((scaled 2 m e).1 * (scaled 10 1 (-p)).1 : Nat) := by
    exact_mod_cast Nat.div_mul_le_self _ _
  have hhigh : (((scaled 2 m e).1 * (scaled 10 1 (-p)).1 : Nat) : ℚ)
      < (below m e p + 1) * ((scaled 2 m e).2 * (scaled 10 1 (-p)).2 : Nat) := by
    rw [mul_comm ((below m e p : ℚ) + 1)]
    exact_mod_cast Nat.lt_mul_div_succ _ hden
  constructor
  · apply le_of_mul_le_mul_right _ hd
    rw [← hnum, mul_right_comm]
    exact mul_le_mul_of_nonneg_right hlow hten.le
  · apply lt_of_mul_lt_mul_right _ hd.le
    rw [← hnum, mul_right_comm]
    exact mul_lt_mul_of_pos_right hhigh hten

lemma bounds_fst_lt (hm : 0 < m) (e : Int) : (bounds m e).1 < 4 * m := by
  simp only [bounds]
  split_ifs <;> omega

lemma bounds_fst_pos (hm : 0 < m) (e : Int) : 0 < (bounds m e).1 := by
  simp only [bounds]
  split_ifs <;> omega

/-- The decimal that is found is read back as the number. -/
lemma inBounds_of_around? {d : Digits} (h : around? m e p = some d) :
    InBounds (d.digits * 10 ^ d.exponent) m e := by
  suffices hback : readsBack m e d.exponent d.digits from readsBack_iff.mp hback
  simp only [around?] at h
  split at h
  · next hfirst hsecond =>
    obtain rfl := Option.some.inj h
    rcases roundHalfEven_eq_or ((scaled 2 m e).1 * (scaled 10 1 (-p)).1)
      ((scaled 2 m e).2 * (scaled 10 1 (-p)).2) with hround | hround
    · rwa [hround]
    · rwa [hround]
  · next hfirst _ =>
    obtain rfl := Option.some.inj h
    exact hfirst
  · next _ hsecond =>
    obtain rfl := Option.some.inj h
    exact hsecond
  · cases h

/-- On a grid that is fine enough, the decimal just below the number is read back as the number. -/
lemma isSome_around? (hm : 0 < m) (hfine : 4 * (10 : ℚ) ^ p ≤ 2 ^ e) : (around? m e p).isSome := by
  have hback : readsBack m e p (below m e p) := by
    obtain ⟨hlow, hhigh⟩ := below_bounds m e p
    have hpos : (0 : ℚ) < 2 ^ e := by positivity
    have hlower : (bounds m e).1 * 2 ^ e < 4 * ((below m e p : ℚ) * 10 ^ p) := by
      have hfirst : ((bounds m e).1 : ℚ) + 1 ≤ 4 * m := by exact_mod_cast bounds_fst_lt hm e
      calc ((bounds m e).1 : ℚ) * 2 ^ e = ((bounds m e).1 + 1) * 2 ^ e - 2 ^ e := by ring
        _ ≤ 4 * m * 2 ^ e - 4 * 10 ^ p := by gcongr
        _ < 4 * ((below m e p : ℚ) * 10 ^ p) := by linarith
    have hupper : 4 * ((below m e p : ℚ) * 10 ^ p) < (bounds m e).2 * 2 ^ e := by
      rw [bounds_snd]
      push_cast
      linarith
    exact readsBack_iff.mpr ⟨hlower.le, hupper.le, fun _ => ⟨hlower, hupper⟩⟩
  rw [below] at hback
  simp only [around?, hback]
  split <;> simp_all

end

/-! ### The search -/

variable {m : Nat} {e : Int}

/-- If a decimal is found within the fuel, then what the search gives is read back as the number. -/
lemma inBounds_shortestFrom {fuel k : Nat} {p : Int} (hk : k < fuel)
    (h : (around? m e (p - k)).isSome) :
    InBounds ((shortestFrom m e fuel p).digits * 10 ^ (shortestFrom m e fuel p).exponent) m e := by
  induction fuel generalizing p k with
  | zero => omega
  | succ fuel ih =>
    rw [shortestFrom]
    cases haround : around? m e p with
    | some d => exact inBounds_of_around? haround
    | none =>
      cases k with
      | zero => simp [haround] at h
      | succ k =>
        apply ih (k := k) (by omega)
        rwa [show p - 1 - (k : Int) = p - (k + 1 : Nat) by push_cast; ring]

/-- The shortest decimal of a positive number is read back as the number. -/
lemma inBounds_shortest (hm : 0 < m) (hlt : m < 2 ^ 53) (e : Int) :
    InBounds ((shortest m e).digits * 10 ^ (shortest m e).exponent) m e := by
  have hleading := zpow_leading_le (scaled_fst_pos Nat.two_pos hm e)
    (scaled_snd_pos Nat.two_pos m e)
  rw [scaled_ratio Nat.two_pos] at hleading
  rw [shortest]
  refine inBounds_shortestFrom (k := 17) (by decide) (isSome_around? hm ?_)
  have hbits : (m : ℚ) ≤ 2 ^ 53 := by exact_mod_cast hlt.le
  calc 4 * (10 : ℚ) ^ (leading (scaled 2 m e).1 (scaled 2 m e).2 - (17 : Nat))
      = 4 / 10 ^ 17 * 10 ^ leading (scaled 2 m e).1 (scaled 2 m e).2 := by
        rw [zpow_sub₀ (by norm_num), zpow_natCast]
        ring
    _ ≤ 4 / 10 ^ 17 * (m * 2 ^ e) := by
        gcongr
        exact hleading
    _ ≤ 4 / 10 ^ 17 * (2 ^ 53 * 2 ^ e) := by gcongr
    _ ≤ 2 ^ e := by
        rw [← mul_assoc]
        exact mul_le_of_le_one_left (by positivity) (by norm_num)

lemma digits_shortest_ne_zero (hm : 0 < m) (hlt : m < 2 ^ 53) (e : Int) :
    (shortest m e).digits ≠ 0 := by
  intro hzero
  have hlower := (inBounds_shortest hm hlt e).lower
  have hpos : (0 : ℚ) < (bounds m e).1 * 2 ^ e := by
    have hfirst : 0 < (bounds m e).1 := bounds_fst_pos hm e
    positivity
  rw [hzero] at hlower
  simp only [Nat.cast_zero, zero_mul, mul_zero] at hlower
  exact absurd hpos (not_lt.mpr hlower)

end CqlWriter.Binary64
