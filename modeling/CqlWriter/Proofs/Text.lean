import Mathlib
import CqlWriter.Number.Integer

/-!
# Joined texts, doubled bytes and decimal digits

What the other proofs need to know about the three ways in which texts are put together: texts
with a separator between neighbours, texts in which one byte is doubled, and the decimal digits of
a natural number.
-/

namespace CqlWriter

namespace Text

/-! ### Joining -/

@[simp] lemma join_nil (sep : Text) : join sep [] = [] := rfl

@[simp] lemma join_singleton (sep t : Text) : join sep [t] = t := by
  simp [join, List.intercalate]

/-- The separator stands in front of every text but the first. -/
lemma join_cons (sep t : Text) (ts : List Text) :
    join sep (t :: ts) = t ++ ts.flatMap (sep ++ ·) := by
  induction ts generalizing t with
  | nil => simp
  | cons u us ih =>
    rw [join, List.intercalate_cons_cons, ← join, ih u]
    simp

/-- A part is no longer than the whole. -/
lemma length_le_length_join {sep t : Text} {ts : List Text} (h : t ∈ ts) :
    t.length ≤ (join sep ts).length := by
  obtain ⟨us, vs, rfl⟩ := List.append_of_mem h
  cases us with
  | nil =>
    rw [List.nil_append, join_cons, List.length_append]
    omega
  | cons u us =>
    rw [List.cons_append, join_cons, List.flatMap_append, List.flatMap_cons]
    simp only [List.length_append]
    omega

/-- With a separator that is not empty, a joined text is at least as long as its first part and the
number of the others. -/
lemma add_length_le_length_join (b : UInt8) (sep t : Text) (ts : List Text) :
    t.length + ts.length ≤ (join (b :: sep) (t :: ts)).length := by
  rw [join_cons, List.length_append]
  induction ts with
  | nil => simp
  | cons u us ih =>
    simp only [List.flatMap_cons, List.length_append, List.length_cons] at ih ⊢
    omega

/-! ### Doubling -/

/-- The text with every occurrence of the byte `q` written twice. -/
def doubled (q : UInt8) (t : Text) : Text :=
  replaceByte q [q, q] t

@[simp] lemma doubled_nil (q : UInt8) : doubled q [] = [] := rfl

@[simp] lemma doubled_cons_self (q : UInt8) (t : Text) :
    doubled q (q :: t) = q :: q :: doubled q t := by
  simp [doubled, replaceByte]

lemma doubled_cons_of_ne {q b : UInt8} (h : b ≠ q) (t : Text) :
    doubled q (b :: t) = b :: doubled q t := by
  simp [doubled, replaceByte, h]

/-! ### Decimal digits -/

lemma ofChars_append (cs ds : List Char) : ofChars (cs ++ ds) = ofChars cs ++ ofChars ds := by
  simp [ofChars]

/-- A digit character is encoded by one byte, which is a digit of the same value. -/
lemma utf8EncodeChar_digitChar :
    ∀ d < 10, ∃ b, String.utf8EncodeChar d.digitChar = [b] ∧ Integer.isDigit b ∧
      Integer.digit? 10 b = some d := by
  decide

lemma ofNat_of_lt {n : Nat} (h : n < 10) : ofNat n = String.utf8EncodeChar n.digitChar := by
  simp [ofNat, Nat.toDigits_of_lt_base h, ofChars]

lemma ofNat_of_le {n : Nat} (h : 10 ≤ n) :
    ofNat n = ofNat (n / 10) ++ String.utf8EncodeChar (n % 10).digitChar := by
  rw [ofNat, Nat.toDigits_of_base_le (by omega) h, ofChars_append, ofNat]
  simp [ofChars]

/-- The decimal text of a number is made of digits. -/
lemma isDigit_of_mem_ofNat (n : Nat) : ∀ b ∈ ofNat n, Integer.isDigit b := by
  induction n using Nat.strongRecOn with
  | ind n ih =>
    intro b hb
    rcases Nat.lt_or_ge n 10 with h | h
    · obtain ⟨d, hd, hdigit, -⟩ := utf8EncodeChar_digitChar n h
      rw [ofNat_of_lt h, hd, List.mem_singleton] at hb
      exact hb ▸ hdigit
    · obtain ⟨d, hd, hdigit, -⟩ := utf8EncodeChar_digitChar (n % 10) (by omega)
      rw [ofNat_of_le h, hd, List.mem_append, List.mem_singleton] at hb
      rcases hb with hb | rfl
      · exact ih (n / 10) (by omega) b hb
      · exact hdigit

end Text

namespace Integer

lemma digitsFrom?_append (base n : Nat) (s t : Text) :
    digitsFrom? base n (s ++ t) = (digitsFrom? base n s).bind fun m => digitsFrom? base m t := by
  induction s generalizing n with
  | nil => rfl
  | cons b s ih =>
    simp only [List.cons_append, digitsFrom?, ih]
    cases digit? base b <;> rfl

/-- Reading the digits of a number gives the number. -/
lemma digitsFrom?_ofNat (n : Nat) : digitsFrom? 10 0 (Text.ofNat n) = some n := by
  induction n using Nat.strongRecOn with
  | ind n ih =>
    rcases Nat.lt_or_ge n 10 with h | h
    · obtain ⟨b, hb, -, hvalue⟩ := Text.utf8EncodeChar_digitChar n h
      simp [Text.ofNat_of_lt h, hb, digitsFrom?, hvalue]
    · obtain ⟨b, hb, -, hvalue⟩ := Text.utf8EncodeChar_digitChar (n % 10) (by omega)
      rw [Text.ofNat_of_le h, digitsFrom?_append, ih (n / 10) (by omega)]
      simp only [hb, digitsFrom?, hvalue, Option.bind_eq_bind, Option.bind_some,
        Option.some.injEq]
      omega

end Integer

end CqlWriter
