import Mathlib
import CqlWriter.Proofs.Text
import CqlWriter.Statement.Identifier

/-!
# Texts in lower case

The lower case of a text is read and written character by character, where a character may take
more than one byte. Still it has no capital letters, and the ASCII characters before the letters in
lower case are no more frequent than in the text itself. So it is neither the word `NULL` nor the
string literal of the text.
-/

namespace CqlWriter

namespace Text

/-! ### Bytes of ASCII characters -/

lemma toNat_byte {x : Char} (hx : x.toNat < 0x80) : (byte x).toNat = x.toNat := by
  simp only [byte, Nat.toUInt8, UInt8.toNat_ofNat']
  omega

lemma byte_inj {x y : Char} (hx : x.toNat < 0x80) (hy : y.toNat < 0x80) :
    byte x = byte y ↔ x = y := by
  rw [← UInt8.toNat_inj, toNat_byte hx, toNat_byte hy, Char.toNat_inj]

lemma ofChars_singleton {c : Char} (hc : c.toNat < 0x80) : ofChars [c] = [byte c] := by
  have hval : c.val.toNat ≤ 127 := Nat.le_of_lt_succ hc
  simp only [ofChars, List.flatMap_cons, List.flatMap_nil, String.utf8EncodeChar, hval, if_true]
  rfl

/-- In UTF-8, the byte of an ASCII character stands for that character only. -/
lemma count_utf8EncodeChar {x : Char} (hx : x.toNat < 0x80) (c : Char) :
    (String.utf8EncodeChar c).count (byte x) = if c = x then 1 else 0 := by
  by_cases hc : c.toNat < 0x80
  · have hsingle : String.utf8EncodeChar c = [byte c] := by
      have hval : c.val.toNat ≤ 127 := Nat.le_of_lt_succ hc
      simp only [String.utf8EncodeChar, hval, if_true]
      rfl
    rw [hsingle, List.count_singleton]
    simp only [beq_iff_eq, byte_inj hc hx]
  · have hlong : ∀ b ∈ String.utf8EncodeChar c, 0x80 ≤ b.toNat := by
      have hval : ¬ c.val.toNat ≤ 127 := fun h => hc (Nat.lt_succ_of_le h)
      simp only [String.utf8EncodeChar, hval, if_false]
      split_ifs <;> simp <;> omega
    have hne : c ≠ x := by
      rintro rfl
      exact hc hx
    rw [if_neg hne]
    refine List.count_eq_zero.mpr fun hmem => ?_
    have hle := hlong _ hmem
    rw [toNat_byte hx] at hle
    omega

/-- An ASCII character is as frequent in the bytes as among the characters. -/
lemma count_ofChars {x : Char} (hx : x.toNat < 0x80) (cs : List Char) :
    (ofChars cs).count (byte x) = cs.count x := by
  induction cs with
  | nil => rfl
  | cons c cs ih =>
    have hsplit : ofChars (c :: cs) = String.utf8EncodeChar c ++ ofChars cs := rfl
    rw [hsplit, List.count_append, ih, count_utf8EncodeChar hx, List.count_cons, Nat.add_comm]
    simp only [beq_iff_eq]

end Text

/-! ### Characters in lower case -/

/-- A character before the letter `a` is the lower case of itself at most, and a capital is not even
that. -/
lemma eq_of_lowerChar_eq {c x : Char} (hpos : 0 < x.toNat) (hx : x.toNat ≤ 0x60)
    (h : lowerChar c = x) : c = x ∧ x.isUpper = false := by
  have hascii : ∀ n < 0x80, 0x60 < (Char.ofNat n).toLower.toNat ∨
      (Char.ofNat n).toLower = Char.ofNat n ∧ (Char.ofNat n).isUpper = false := by decide
  -- two letters outside ASCII have an ASCII letter as lower case, but none has anything before `a`
  have hruns : ∀ r ∈ letterRuns, 0x60 < (r.first : Int) + r.shift := by decide +kernel
  unfold lowerChar at h
  split_ifs at h with hc
  · have hlower := hascii c.toNat hc
    rw [Char.ofNat_toNat, h] at hlower
    rcases hlower with hlt | ⟨heq, hupper⟩
    · omega
    · rw [heq]
      exact ⟨rfl, hupper⟩
  · exfalso
    split at h
    · rename_i r hfind
      have hfirst := hruns r (List.mem_of_find?_eq_some hfind)
      have hcovers := List.find?_some hfind
      simp only [LetterRun.covers, Bool.and_eq_true, decide_eq_true_eq] at hcovers
      rw [← h, Char.toNat_ofNat] at hpos hx
      split_ifs at hpos hx <;> omega
    · subst h
      omega

namespace Glyph

lemma le_of_code?_eq {least n : Nat} {c : Char} (h : code? least n = some c) :
    least ≤ c.toNat := by
  unfold code? at h
  split_ifs at h with hlt hvalid
  cases h
  have hcode : (Char.ofNatAux n hvalid).toNat = n := by
    simp [Char.ofNatAux, Char.toNat, UInt32.toNat]
  omega

/-- A character of one byte is read from that byte. -/
lemma eq_byte_of_lead?_eq {b : UInt8} {rest : Text} {c : Char} {n : Nat}
    (h : lead? b rest = some (c, n)) (hc : c.toNat < 0x80) : b = Text.byte c := by
  unfold lead? at h
  dsimp only at h
  split_ifs at h
  · cases h
    rw [← UInt8.toNat_inj, Text.toNat_byte hc, Char.toNat_ofNat, if_pos (by left; omega)]
  -- a character of more bytes is refused unless its code needs that many
  all_goals
    exfalso
    split at h
    · simp only [Option.bind_eq_bind, Option.bind_eq_some_iff] at h
      grind [→ le_of_code?_eq]
    · cases h

/-- An ASCII character is read no more often than its byte occurs. -/
lemma count_readFrom {x : Char} (hx : x.toNat < 0x80) (skip : Nat) (t : Text) :
    (readFrom skip t).count (.char x) ≤ t.count (Text.byte x) := by
  -- bytes that are passed over, and stray ones, only add to the right side
  fun_induction readFrom skip t with
  | case1 => simp
  | case2 b rest c n hlead ih =>
    rw [List.count_cons, List.count_cons]
    refine Nat.add_le_add ih ?_
    by_cases hchar : c = x
    · subst hchar
      rw [eq_byte_of_lead?_eq hlead hx]
      simp
    · simp [hchar]
  | case3 b rest hlead ih =>
    rw [List.count_cons_of_ne (by simp)]
    exact ih.trans List.count_le_count_cons
  | case4 n b rest ih => exact ih.trans List.count_le_count_cons

end Glyph

namespace Text

/-! ### Counting -/

/-- A character below the small letters is as frequent in the lower case as the glyphs that are
lowered to it. -/
lemma count_lower (x : Char) (hpos : 0 < x.toNat) (hx : x.toNat ≤ 0x60) (t : Text) :
    t.lower.count (byte x) = t.glyphs.countP fun g => lowerChar g.shown = x := by
  rw [lower, count_ofChars (by omega), List.count, List.countP_map]
  rfl

/-- Lower case has no capitals. -/
lemma count_lower_of_isUpper {x : Char} (hpos : 0 < x.toNat) (hx : x.toNat ≤ 0x60)
    (hupper : x.isUpper) (t : Text) : t.lower.count (byte x) = 0 := by
  rw [count_lower x hpos hx, List.countP_eq_zero]
  intro g _ hg
  obtain ⟨-, hlower⟩ := eq_of_lowerChar_eq hpos hx (of_decide_eq_true hg)
  rw [hupper] at hlower
  cases hlower

/-- A character before the letter `a` is no more often in the lower case of a text than in the
text. -/
lemma count_lower_le {x : Char} (hpos : 0 < x.toNat) (hx : x.toNat ≤ 0x60) (t : Text) :
    t.lower.count (byte x) ≤ t.count (byte x) := by
  have hglyph : ∀ g ∈ t.glyphs, decide (lowerChar g.shown = x) → g == .char x := by
    intro g _ hg
    obtain ⟨hshown, -⟩ := eq_of_lowerChar_eq hpos hx (of_decide_eq_true hg)
    cases g with
    | char c => simpa [Glyph.shown] using hshown
    | stray b =>
      subst hshown
      exact absurd hx (by decide : ¬ Glyph.replacement.toNat ≤ 0x60)
  calc t.lower.count (byte x)
      = t.glyphs.countP fun g => lowerChar g.shown = x := count_lower x hpos hx t
    _ ≤ t.glyphs.count (.char x) := List.countP_mono_left hglyph
    _ ≤ t.count (byte x) := Glyph.count_readFrom (by omega) 0 t

lemma count_doubled (q : UInt8) (t : Text) : (doubled q t).count q = 2 * t.count q := by
  induction t with
  | nil => rfl
  | cons b t ih =>
    by_cases hb : b = q
    · subst hb
      rw [doubled_cons_self, List.count_cons_self, List.count_cons_self, List.count_cons_self, ih]
      omega
    · rw [doubled_cons_of_ne hb, List.count_cons_of_ne hb, List.count_cons_of_ne hb, ih]

lemma count_quoteLiteral (t : Text) :
    (quoteLiteral t).count (byte '\'') = 2 * t.count (byte '\'') + 2 := by
  have hquotes : quoteLiteral t = byte '\'' :: (doubled (byte '\'') t ++ [byte '\'']) := rfl
  rw [hquotes, List.count_cons_self, List.count_append, count_doubled, List.count_singleton_self]

/-- The lower case of a text is never its string literal. -/
lemma lower_ne_quoteLiteral (t : Text) : t.lower ≠ quoteLiteral t := by
  intro h
  have hle := count_lower_le (x := '\'') (by decide) (by decide) t
  rw [h, count_quoteLiteral] at hle
  omega

/-- The word in capitals is no lower case of anything. -/
lemma lower_ne_null (t : Text) : t.lower ≠ "NULL" := by
  intro h
  have hcount := count_lower_of_isUpper (x := 'N') (by decide) (by decide) rfl t
  rw [h] at hcount
  exact absurd hcount (by decide)

end Text

end CqlWriter
