import Mathlib
import CqlWriter.Proofs.ValueEntries

/-!
# The order of the assignments

The value map of an insertion does not depend on the order in which the columns are listed, as long
as the assignments to one column keep their order: the assignments to a column decide alone about
its entry, and sorting has one result.
-/

namespace CqlWriter

namespace ValueMap

variable {before after : List (Identifier × Operand)}

/-- The assignments to the column with the given normalized spelling, in order. -/
def assignmentsTo (key : Identifier) (pairs : List (Identifier × Operand)) :
    List (Identifier × Operand) :=
  pairs.filter fun p => p.1.normalized = key

/-- The column is named first in the first assignment to it. -/
lemma firstColumn?_map_fst (pairs : List (Identifier × Operand)) (key : Identifier) :
    firstColumn? (pairs.map Prod.fst) key = (assignmentsTo key pairs).head?.map Prod.fst := by
  rw [firstColumn?, List.find?_map, assignmentsTo, List.head?_filter]
  rfl

/-- The value is that of the last assignment. -/
lemma lastValue?_eq_getLast? (pairs : List (Identifier × Operand)) (key : Identifier) :
    lastValue? pairs key = (assignmentsTo key pairs).getLast?.map Prod.snd := by
  rw [lastValue?, assignmentsTo, List.getLast?_eq_head?_reverse, ← List.filter_reverse,
    List.head?_filter]

/-- The assignments to each column alone decide about the map. -/
lemma ofAssignments_congr (h : ∀ key, assignmentsTo key after = assignmentsTo key before) :
    (ofAssignments after).entries = (ofAssignments before).entries := by
  have hmem : ∀ e, e ∈ (ofAssignments after).entries ↔ e ∈ (ofAssignments before).entries := by
    intro e
    simp only [mem_entries_ofAssignments, firstColumn?_map_fst, lastValue?_eq_getLast?, h]
  have hnodup : ∀ pairs, (ofAssignments pairs).entries.Nodup := by
    intro pairs
    apply (strictlySorted_ofAssignments pairs).imp
    rintro a b hlt rfl
    simp [Std.ReflCmp.compare_self] at hlt
  have hperm : (ofAssignments after).entries.Perm (ofAssignments before).entries :=
    (List.perm_ext_iff_of_nodup (hnodup after) (hnodup before)).mpr hmem
  apply List.Perm.eq_of_pairwise ?_ (strictlySorted_ofAssignments after)
    (strictlySorted_ofAssignments before) hperm
  intro a b _ _ hab hba
  rw [Identifier.compare_swap a.column, hab] at hba
  cases hba

/-! ### Rearranging -/

/-- A rearrangement of the assignments `before`: the assignment at each place of the new list stood
at a place of the old one, and assignments to the same column are still in order. -/
structure Rearrangement (before after : List (Identifier × Operand)) where
  place : Fin after.length ≃ Fin before.length
  get_place : ∀ k, before.get (place k) = after.get k
  keeps_order : ∀ k l, k < l → (after.get k).1.same (after.get l).1 = true → place k < place l

def placesOf (key : Identifier) (pairs : List (Identifier × Operand)) : List (Fin pairs.length) :=
  (List.finRange pairs.length).filter fun k => (pairs.get k).1.normalized = key

lemma mem_placesOf {key : Identifier} {pairs : List (Identifier × Operand)}
    {k : Fin pairs.length} : k ∈ placesOf key pairs ↔ (pairs.get k).1.normalized = key := by
  simp [placesOf]

lemma pairwise_placesOf (key : Identifier) (pairs : List (Identifier × Operand)) :
    (placesOf key pairs).Pairwise (· < ·) :=
  (List.pairwise_lt_finRange _).filter _

/-- The places of a column hold the assignments to it. -/
lemma map_get_placesOf (key : Identifier) (pairs : List (Identifier × Operand)) :
    (placesOf key pairs).map pairs.get = assignmentsTo key pairs := by
  conv_rhs => rw [assignmentsTo, ← List.map_get_finRange pairs, List.filter_map]
  rfl

namespace Rearrangement

variable (r : Rearrangement before after) (key : Identifier)

/-- A rearrangement takes the places of a column to its old places, in order. -/
lemma map_placesOf : (placesOf key after).map r.place = placesOf key before := by
  have hmem : ∀ k, k ∈ (placesOf key after).map r.place ↔ k ∈ placesOf key before := by
    intro k
    rw [List.mem_map, mem_placesOf]
    constructor
    · rintro ⟨l, hl, rfl⟩
      rw [r.get_place]
      exact mem_placesOf.mp hl
    · intro hk
      refine ⟨r.place.symm k, ?_, r.place.apply_symm_apply k⟩
      rwa [mem_placesOf, ← r.get_place, r.place.apply_symm_apply]
  have hsorted : ((placesOf key after).map r.place).Pairwise (· < ·) := by
    rw [List.pairwise_map]
    apply (pairwise_placesOf key after).imp_of_mem
    intro k l hk hl hlt
    apply r.keeps_order k l hlt
    rw [Identifier.same_iff, mem_placesOf.mp hk, mem_placesOf.mp hl]
  -- both lists are increasing and have the same members
  apply List.Perm.eq_of_pairwise ?_ hsorted (pairwise_placesOf key before)
  · apply (List.perm_ext_iff_of_nodup ?_ ?_).mpr hmem
    · exact hsorted.imp ne_of_lt
    · exact (pairwise_placesOf key before).imp ne_of_lt
  · intro k l _ _ hkl hlk
    exact absurd hkl hlk.asymm

include r in
/-- A rearrangement keeps the assignments to each column. -/
lemma assignmentsTo_eq : assignmentsTo key after = assignmentsTo key before := by
  rw [← map_get_placesOf, ← map_get_placesOf, ← r.map_placesOf key, List.map_map]
  apply List.map_congr_left
  intro k _
  exact (r.get_place k).symm

end Rearrangement

/-- Where all columns are different, a column has at most one assignment. -/
lemma assignmentsTo_eq_of_perm (hperm : after.Perm before)
    (hdistinct : before.Pairwise fun p q => p.1.same q.1 = false) (key : Identifier) :
    assignmentsTo key after = assignmentsTo key before := by
  have hto : (assignmentsTo key after).Perm (assignmentsTo key before) := hperm.filter _
  have hkey : ∀ p ∈ assignmentsTo key before, p.1.normalized = key := by
    intro p hp
    simpa using List.of_mem_filter hp
  have hpairs : (assignmentsTo key before).Pairwise fun p q => p.1.same q.1 = false :=
    hdistinct.filter _
  rcases hbefore : assignmentsTo key before with _ | ⟨p, _ | ⟨q, rest⟩⟩
  · rw [hbefore] at hto
    exact hto.eq_nil
  · rw [hbefore] at hto
    exact List.perm_singleton.mp hto
  · -- a second assignment would be to the same column
    rw [hbefore] at hkey hpairs
    have hsame : p.1.same q.1 = true := by
      rw [Identifier.same_iff, hkey p (by simp), hkey q (by simp)]
    simp [hsame] at hpairs

end ValueMap

/-! ### The value map of a rearranged insertion -/

namespace Insert

open ValueMap

/-- The value map does not depend on the order of the columns. Two insertions with as many operands
as columns have the same entries if the assignments of one are a rearrangement of those of the other
that keeps the order of assignments to the same column, and if all columns are different, any
rearrangement will do. -/
theorem entries_valueMap_rearranged {i j : Insert} {values operands : List Operand}
    (hi : i.values = .operands values) (hilength : values.length = i.columns.length)
    (hj : j.values = .operands operands) (hjlength : operands.length = j.columns.length) :
    (Rearrangement (i.columns.zip values) (j.columns.zip operands) →
      j.valueMap.entries = i.valueMap.entries) ∧
    ((i.columns.Pairwise fun c d => c.same d = false) →
      (j.columns.zip operands).Perm (i.columns.zip values) →
        j.valueMap.entries = i.valueMap.entries) := by
  rw [valueMap_of_length_eq hi hilength, valueMap_of_length_eq hj hjlength]
  constructor
  · intro r
    exact ofAssignments_congr r.assignmentsTo_eq
  · intro hdistinct hperm
    apply ofAssignments_congr
    apply assignmentsTo_eq_of_perm hperm
    rwa [← List.map_fst_zip hilength.ge, List.pairwise_map] at hdistinct

/-- A row that names one column twice, once in another case. -/
def twiceNamed : Insert where
  table := .simple "t"
  columns := [⟨"c", false⟩, ⟨"Ab", false⟩, ⟨"ab", true⟩, ⟨"aB", false⟩]
  values := .operands [.const "1", .const "2", .const "3", .null]

def twiceNamedMoved : Insert where
  table := .simple "t"
  columns := [⟨"ab", true⟩, ⟨"Ab", false⟩, ⟨"c", false⟩, ⟨"aB", false⟩]
  values := .operands [.const "3", .const "2", .const "1", .null]

/-- Between the two rows, the first and the third assignment change places. -/
def twiceNamedMove : Rearrangement
    (twiceNamed.columns.zip [.const "1", .const "2", .const "3", .null])
    (twiceNamedMoved.columns.zip [.const "3", .const "2", .const "1", .null]) where
  place := (Equiv.swap 0 2 : Fin 4 ≃ Fin 4)
  get_place k := by fin_cases k <;> rfl
  keeps_order := by decide

theorem entries_valueMap_rearranged_twiceNamed :
    twiceNamedMoved.valueMap.entries = twiceNamed.valueMap.entries :=
  (entries_valueMap_rearranged rfl rfl rfl rfl).1 twiceNamedMove

end Insert

end CqlWriter
