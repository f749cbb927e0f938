import Mathlib
import CqlWriter.Proofs.Names
import CqlWriter.Proofs.ValueLookup

/-!
# Quoted names that print alike

The text of a quoted name shows the part of the name in front of its first zero byte, and this part
can be read back from the text. So names without a zero byte never print alike. A name with a zero
byte prints like the shorter name without it, also where a value map keeps the two columns apart.
-/

namespace CqlWriter

namespace Text

/-- The part of a text in front of its first zero byte. -/
def beforeZero (t : Text) : Text :=
  t.takeWhile (· ≠ 0)

lemma zero_notMem_beforeZero (t : Text) : 0 ∉ t.beforeZero := by
  intro h
  simpa using List.mem_takeWhile_imp h

/-- A text has no zero byte exactly when nothing is cut off. -/
lemma beforeZero_eq_self_iff {t : Text} : t.beforeZero = t ↔ 0 ∉ t := by
  constructor
  · intro h
    rw [← h]
    exact zero_notMem_beforeZero t
  · intro h
    rw [beforeZero, List.takeWhile_eq_self_iff]
    intro b hb
    simpa using ne_of_mem_of_not_mem hb h

end Text

open Text

lemma quoteName_beforeZero (name : Text) : quoteName name.beforeZero = quoteName name := by
  have hagain := beforeZero_eq_self_iff.mpr (zero_notMem_beforeZero name)
  rw [beforeZero] at hagain
  rw [quoteName, hagain]
  rfl

namespace Identifier

/-- What is read from the text of a quoted name is the part that the text shows. -/
lemma ofText_cql_quoted (name : Text) :
    ofText (⟨name, true⟩ : Identifier).cql = ⟨name.beforeZero, true⟩ := by
  rw [cql_quoted, ← quoteName_beforeZero, ofText_quoteName (zero_notMem_beforeZero name)]

/-- Two quoted names print alike exactly if they agree in front of their first zero bytes. -/
lemma cql_eq_iff_of_quoted {i j : Identifier} (hi : i.quoted = true) (hj : j.quoted = true) :
    i.cql = j.cql ↔ i.name.beforeZero = j.name.beforeZero := by
  obtain ⟨m, _⟩ := i
  obtain ⟨n, _⟩ := j
  subst hi hj
  constructor
  · intro h
    have hread := congrArg ofText h
    rw [ofText_cql_quoted, ofText_cql_quoted] at hread
    exact congrArg name hread
  · intro h
    rw [cql_quoted, cql_quoted, ← quoteName_beforeZero, h, quoteName_beforeZero]

end Identifier

namespace Insert

open ValueMap

/-- The quoted columns that the value map of an insertion keeps apart. -/
def quotedColumns (i : Insert) : List Identifier :=
  i.valueMap.columns.filter (·.quoted)

lemma quoted_of_mem_quotedColumns {i : Insert} {c : Identifier} (h : c ∈ i.quotedColumns) :
    c.quoted = true :=
  (List.mem_filter.mp h).2

/-- The value map keeps equal columns together, so no quoted column is left twice. -/
lemma nodup_quotedColumns (i : Insert) : i.quotedColumns.Nodup := by
  have hcolumns : i.valueMap.columns.Pairwise fun a b => a.compare b = .lt :=
    List.pairwise_map.mpr i.strictlySorted_valueMap
  apply List.Nodup.filter
  apply hcolumns.imp
  rintro a _ hlt rfl
  rw [Identifier.compare_eq_eq_iff.mpr rfl] at hlt
  cases hlt

lemma nodup_cql_quotedColumns {i : Insert} (h : ∀ c ∈ i.quotedColumns, 0 ∉ c.name) :
    (i.quotedColumns.map Identifier.cql).Nodup := by
  apply List.Nodup.map_on _ i.nodup_quotedColumns
  intro a ha b hb hab
  have hquoted := quoted_of_mem_quotedColumns ha
  have hquoted' := quoted_of_mem_quotedColumns hb
  rw [Identifier.cql_eq_iff_of_quoted hquoted hquoted', beforeZero_eq_self_iff.mpr (h a ha),
    beforeZero_eq_self_iff.mpr (h b hb)] at hab
  obtain ⟨m, _⟩ := a
  obtain ⟨n, _⟩ := b
  subst hquoted hquoted' hab
  rfl

lemma nodup_cql_quotedColumns_iff (i : Insert) :
    (i.quotedColumns.map Identifier.cql).Nodup ↔
      (i.quotedColumns.map (·.name.beforeZero)).Nodup := by
  simp only [List.Nodup, List.pairwise_map]
  apply List.Pairwise.iff_of_mem
  intro a b ha hb
  exact (Identifier.cql_eq_iff_of_quoted (quoted_of_mem_quotedColumns ha)
    (quoted_of_mem_quotedColumns hb)).not

end Insert

namespace Identifier

/-- Two quoted names print alike exactly if they agree in front of their first zero bytes. A quoted
name is read back from its text exactly if it has no zero byte, and exactly then no other name
without one prints like it. The quoted columns that a value map keeps apart never print alike if
their names have no zero bytes; in general they do not exactly if their names differ in front of
them. -/
theorem cql_quoted_faithful (m n : Text) (i : Insert) :
    ((⟨m, true⟩ : Identifier).cql = (⟨n, true⟩ : Identifier).cql ↔ m.beforeZero = n.beforeZero) ∧
    (ofText (⟨n, true⟩ : Identifier).cql = ⟨n, true⟩ ↔ 0 ∉ n) ∧
    ((∀ k, 0 ∉ k → (⟨k, true⟩ : Identifier).cql = (⟨n, true⟩ : Identifier).cql → k = n) ↔ 0 ∉ n) ∧
    i.quotedColumns.Nodup ∧
    ((∀ c ∈ i.quotedColumns, 0 ∉ c.name) → (i.quotedColumns.map cql).Nodup) ∧
    ((i.quotedColumns.map cql).Nodup ↔ (i.quotedColumns.map (·.name.beforeZero)).Nodup) := by
  refine ⟨cql_eq_iff_of_quoted rfl rfl, ?_, ⟨?_, ?_⟩, i.nodup_quotedColumns,
    Insert.nodup_cql_quotedColumns, i.nodup_cql_quotedColumns_iff⟩
  · rw [ofText_cql_quoted, mk.injEq, ← beforeZero_eq_self_iff]
    simp
  · intro h
    -- the part that the text shows is a name without a zero byte that prints alike
    have hshown : n.beforeZero.beforeZero = n.beforeZero :=
      beforeZero_eq_self_iff.mpr (zero_notMem_beforeZero n)
    exact beforeZero_eq_self_iff.mp
      (h n.beforeZero (zero_notMem_beforeZero n) ((cql_eq_iff_of_quoted rfl rfl).mpr hshown))
  · intro hn k hk h
    rw [cql_eq_iff_of_quoted rfl rfl] at h
    exact (beforeZero_eq_self_iff.mpr hk).symm.trans (h.trans (beforeZero_eq_self_iff.mpr hn))

def intoQuoted (first second : Text) : Insert where
  table := .simple "t"
  columns := [⟨first, true⟩, ⟨second, true⟩]
  values := .operands [.const "1", .const "2"]

lemma quotedColumns_intoQuoted {first second : Text}
    (h : compare ⟨first, true⟩ ⟨second, true⟩ = .lt) :
    (intoQuoted first second).quotedColumns = [⟨first, true⟩, ⟨second, true⟩] := by
  have hnew : List.lookup (⟨second, true⟩ : Identifier) [(⟨first, true⟩, 0)] = none := by
    rw [List.lookup_eq_none_iff]
    rintro p hp
    rw [List.mem_singleton.mp hp, bne_iff_ne]
    intro heq
    rw [heq, compare_eq_eq_iff.mpr rfl] at h
    cases h
  have hsorted : List.mergeSort
      [(⟨⟨first, true⟩, .const "1"⟩ : ColumnValue), ⟨⟨second, true⟩, .const "2"⟩] ValueMap.inOrder
        = [⟨⟨first, true⟩, .const "1"⟩, ⟨⟨second, true⟩, .const "2"⟩] :=
    List.mergeSort_of_pairwise (by simp [ValueMap.inOrder, h])
  simp [Insert.quotedColumns, Insert.valueMap, intoQuoted, ValueMap.ofAssignments,
    ValueMap.columns, ValueMap.assignAll, ValueMap.Assigned.assign, normalized, key, hnew, hsorted]

/-- A run of quotes and an empty name. -/
theorem cql_quoted_faithful_quotes :
    (ofText (⟨"\"\"", true⟩ : Identifier).cql = ⟨"\"\"", true⟩) ∧
      ((intoQuoted "" "\"\"").quotedColumns.map cql).Nodup := by
  have hfaithful := cql_quoted_faithful "" "\"\"" (intoQuoted "" "\"\"")
  refine ⟨hfaithful.2.1.mpr (by decide), hfaithful.2.2.2.2.1 ?_⟩
  rw [quotedColumns_intoQuoted (by decide)]
  decide

/-- Two columns with different names of which the text shows the same part. -/
theorem cql_quoted_zero :
    (⟨"a\x00b", true⟩ : Identifier).cql = (⟨"a\x00c", true⟩ : Identifier).cql ∧
      ofText (⟨"a\x00b", true⟩ : Identifier).cql ≠ ⟨"a\x00b", true⟩ ∧
      (intoQuoted "a\x00b" "a\x00c").quotedColumns = [⟨"a\x00b", true⟩, ⟨"a\x00c", true⟩] ∧
      ¬ ((intoQuoted "a\x00b" "a\x00c").quotedColumns.map cql).Nodup := by
  rw [quotedColumns_intoQuoted (by decide)]
  decide

end Identifier

end CqlWriter
