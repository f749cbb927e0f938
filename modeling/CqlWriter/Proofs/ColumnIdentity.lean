import Mathlib
import CqlWriter.Proofs.ValueLookup

/-!
# When two columns are the same

The columns of an insertion are told apart three times: the index knows them by their normalized
spellings, sorting compares them, and a search compares them again while it halves the entries. The
comparison is a total order whose ties are the equal normalized spellings. So the three never
disagree, and a search in the sorted entries ends at the very entry to which the index leads.
-/

namespace CqlWriter

namespace Identifier

lemma equivalence_same : Equivalence fun a b : Identifier => a.same b = true := by
  simp only [same_iff]
  exact ⟨fun _ => rfl, Eq.symm, Eq.trans⟩

end Identifier

namespace ValueMap

variable {pairs : List (Identifier × Operand)}

/-! ### Sorting -/

/-- Sorting may leave two entries in either order exactly if they have the same column. -/
lemma inOrder_both_iff {x y : ColumnValue} :
    inOrder x y = true ∧ inOrder y x = true ↔ x.column.normalized = y.column.normalized := by
  rw [inOrder_iff, inOrder_iff, Identifier.compare_swap x.column, ← Identifier.compare_eq_eq_iff]
  cases x.column.compare y.column <;> decide

/-! ### The index -/

namespace Assigned

def indexed? (s : Assigned) (column : Identifier) : Option ColumnValue :=
  (s.index.lookup column.normalized).bind (s.entries[·]?)

lemma Holds.indexed?_eq_some_iff {s : Assigned} (h : s.Holds pairs) {column : Identifier}
    {e : ColumnValue} :
    s.indexed? column = some e ↔ e ∈ s.entries ∧ e.column.normalized = column.normalized := by
  rw [indexed?, Option.bind_eq_some_iff]
  constructor
  · rintro ⟨n, hn, he⟩
    have hcolumn := (h.index column.normalized n).mp hn
    rw [he, Option.map_some, Option.some.injEq] at hcolumn
    exact ⟨List.mem_of_getElem? he, hcolumn⟩
  · rintro ⟨he, hsame⟩
    obtain ⟨n, hn⟩ := List.mem_iff_getElem?.mp he
    exact ⟨n, (h.index column.normalized n).mpr (by rw [hn, Option.map_some, hsame]), hn⟩

end Assigned

/-! ### Searching -/

/-- A search in the sorted entries ends at the entry to which the index leads. -/
lemma found?_ofAssignments (pairs : List (Identifier × Operand)) (column : Identifier) :
    (ofAssignments pairs).found? column = (assignAll pairs).indexed? column := by
  ext e
  rw [found?_eq_some_iff (strictlySorted_ofAssignments pairs),
    (assignAll_holds pairs).indexed?_eq_some_iff, ofAssignments, List.mem_mergeSort]

/-- No entry is found for a column exactly when no assignment names it. -/
lemma found?_ofAssignments_eq_none_iff {column : Identifier} :
    (ofAssignments pairs).found? column = none ↔
      ∀ p ∈ pairs, p.1.normalized ≠ column.normalized := by
  have hget : (ofAssignments pairs).found? column = none ↔
      (ofAssignments pairs).get? column = none := by
    rw [get?_eq_map_found?, Option.map_eq_none_iff]
  rw [hget, get?_ofAssignments, lastValue?_eq_none_iff]

/-- Two searches in a sorted map end alike exactly if the columns are the same or both are
missing. -/
lemma found?_eq_found?_iff {m : ValueMap} (hs : StrictlySorted m.entries) {a b : Identifier} :
    m.found? a = m.found? b ↔
      a.normalized = b.normalized ∨ m.found? a = none ∧ m.found? b = none := by
  constructor
  · intro h
    cases ha : m.found? a with
    | none => exact .inr ⟨rfl, h.symm.trans ha⟩
    | some e =>
      have hea := (found?_eq_some_iff hs).mp ha
      have heb := (found?_eq_some_iff hs).mp (h.symm.trans ha)
      exact .inl (hea.2.symm.trans heb.2)
  · rintro (h | ⟨ha, hb⟩)
    · ext e
      rw [found?_eq_some_iff hs, found?_eq_some_iff hs, h]
    · rw [ha, hb]

end ValueMap

/-! ### The columns of an insertion -/

namespace Identifier

open ValueMap

/-- Comparing identifiers is a total order: exchanging them turns the result around, and what is not
above something that is not above a third is not above the third. They compare as equal exactly if
they have the same normalized spelling, which is when they are the same, so being the same is an
equivalence. The value map of an insertion takes two columns for one by this spelling alone: sorting
has no preference between two entries exactly if their columns share it, a search ends at the entry
to which the index leads under it, fails exactly if no column of the insertion has it, and otherwise
ends at the same entry for exactly those columns that share it. -/
theorem compare_total_order (a b c : Identifier) (i : Insert) :
    b.compare a = (a.compare b).swap ∧
    ((a.compare b).isLE → (b.compare c).isLE → (a.compare c).isLE) ∧
    (a.compare b = .eq ↔ a.normalized = b.normalized) ∧
    (a.same b = true ↔ a.normalized = b.normalized) ∧
    Equivalence (fun d e : Identifier => d.same e = true) ∧
    (∀ v w, inOrder ⟨a, v⟩ ⟨b, w⟩ = true ∧ inOrder ⟨b, w⟩ ⟨a, v⟩ = true ↔
      a.normalized = b.normalized) ∧
    i.valueMap.found? = (assignAll i.assignments).indexed? ∧
    (i.valueMap.found? a = none ↔ ∀ p ∈ i.assignments, p.1.normalized ≠ a.normalized) ∧
    (i.valueMap.found? a = i.valueMap.found? b ↔
      a.normalized = b.normalized ∨ i.valueMap.found? a = none ∧ i.valueMap.found? b = none) := by
  refine ⟨compare_swap a b, Std.TransCmp.isLE_trans, compare_eq_eq_iff, same_iff,
    equivalence_same, fun v w => inOrder_both_iff, ?_, ?_, ?_⟩
  · funext column
    rw [i.valueMap_eq_ofAssignments]
    exact found?_ofAssignments i.assignments column
  · rw [i.valueMap_eq_ofAssignments]
    exact found?_ofAssignments_eq_none_iff
  · exact found?_eq_found?_iff i.strictlySorted_valueMap

/-- A row that names one column by the Kelvin sign, whose lower case is the letter `k`, and again
by `K`. -/
def intoKelvin : Insert where
  table := .simple "t"
  columns := [⟨"É", false⟩, ⟨"k", true⟩, ⟨"\u212a", false⟩, ⟨"K", false⟩]
  values := .operands [.const "1", .const "2", .const "3", .null]

/-- Unquoted names compare across cases and a quoted one stands behind its unquoted twin. -/
theorem compare_total_order_kelvin :
    (compare ⟨"K", false⟩ ⟨"k", true⟩).isLE ∧ (compare ⟨"k", true⟩ ⟨"É", false⟩).isLE ∧
      (compare ⟨"K", false⟩ ⟨"É", false⟩).isLE ∧
      intoKelvin.valueMap.found? ⟨"k", false⟩ = some ⟨⟨"\u212a", false⟩, .null⟩ := by
  have horder := compare_total_order ⟨"K", false⟩ ⟨"k", true⟩ ⟨"É", false⟩ intoKelvin
  refine ⟨by decide, by decide, horder.2.1 (by decide) (by decide), ?_⟩
  rw [horder.2.2.2.2.2.2.1]
  rfl

end Identifier

end CqlWriter
