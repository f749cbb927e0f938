import Mathlib
import CqlWriter.Statement.Identifier

/-!
# The order of identifiers

Texts are ordered byte by byte, and identifiers by the name they stand for and then by whether they
are quoted. Both are lexicographic comparisons, so the laws of a total order come from the library.
Two identifiers compare as equal exactly when they have the same normalized spelling.
-/

namespace CqlWriter

lemma Text.order_eq_compare (s t : Text) : Text.order s t = compare s t := by
  induction s generalizing t with
  | nil => cases t <;> rfl
  | cons a s ih =>
    cases t with
    | nil => rfl
    | cons b t =>
      rw [Text.order, List.compare_cons_cons, ih]
      by_cases hlt : a < b
      · simp [hlt, compare, compareOfLessAndEq]
      · by_cases heq : a = b
        · subst heq
          simp
        · have hgt : b < a := UInt8.lt_of_le_of_ne (UInt8.not_lt.mp hlt) (Ne.symm heq)
          simp [hlt, heq, hgt, compare, compareOfLessAndEq]

namespace Identifier

/-- Identifiers are compared by their keys, and unquoted ones come before quoted ones. -/
lemma compare_eq_compareLex :
    Identifier.compare = compareLex (compareOn Identifier.key) (compareOn Identifier.quoted) := by
  funext i j
  rw [Identifier.compare, compareLex, compareOn, compareOn, Text.order_eq_compare]
  cases Ord.compare i.key j.key <;> cases i.quoted <;> cases j.quoted <;> rfl

instance : Std.TransCmp Identifier.compare := by
  rw [compare_eq_compareLex]
  infer_instance

lemma compare_swap (i j : Identifier) : j.compare i = (i.compare j).swap :=
  Std.OrientedCmp.eq_swap

/-- Identifiers compare as equal exactly when their normalized spellings are the same. -/
lemma compare_eq_eq_iff {i j : Identifier} :
    i.compare j = .eq ↔ i.normalized = j.normalized := by
  rw [compare_eq_compareLex, compareLex_eq_eq]
  simp [compareOn, normalized, Std.LawfulEqCmp.compare_eq_iff_eq]

/-- Two identifiers name the same column if they do so once normalized. -/
@[simp] lemma same_iff {i j : Identifier} : i.same j = true ↔ i.normalized = j.normalized := by
  rw [same, beq_iff_eq, compare_eq_eq_iff]

end Identifier

end CqlWriter
