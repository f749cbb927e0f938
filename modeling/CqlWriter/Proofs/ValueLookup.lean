import Mathlib
import CqlWriter.Statement.ValueMap
import CqlWriter.Proofs.IdentifierOrder

/-!
# Looking up an inserted value

The columns of an insertion are told apart by an index under their normalized spellings, sorted by
comparison and found again by halving. All three agree on which columns are the same, so a look-up
finds the operand that was assigned last to the column.
-/

namespace CqlWriter

namespace ValueMap

/-! ### The last assignment -/

/-- The operand that is assigned last to a column with the given normalized spelling. -/
def lastValue? (pairs : List (Identifier × Operand)) (key : Identifier) : Option Operand :=
  (pairs.reverse.find? fun p => p.1.normalized = key).map (·.2)

@[simp] lemma lastValue?_nil (key : Identifier) : lastValue? [] key = none := rfl

lemma lastValue?_concat (pairs : List (Identifier × Operand)) (c : Identifier) (v : Operand)
    (key : Identifier) :
    lastValue? (pairs ++ [(c, v)]) key
      = if c.normalized = key then some v else lastValue? pairs key := by
  unfold lastValue?
  rw [List.reverse_concat, List.find?_cons]
  by_cases h : c.normalized = key <;> simp [h]

/-- A column has no value exactly when it is never assigned to. -/
lemma lastValue?_eq_none_iff {pairs : List (Identifier × Operand)} {key : Identifier} :
    lastValue? pairs key = none ↔ ∀ p ∈ pairs, p.1.normalized ≠ key := by
  simp [lastValue?]

/-- The last assignment to a column stands at the greatest place at which the column is named. -/
lemma lastValue?_eq_some_iff {pairs : List (Identifier × Operand)} {key : Identifier}
    {v : Operand} :
    lastValue? pairs key = some v ↔
      ∃ (n : Nat) (c : Identifier), pairs[n]? = some (c, v) ∧ c.normalized = key ∧
        ∀ (m : Nat) (p : Identifier × Operand),
          pairs[m]? = some p → p.1.normalized = key → m ≤ n := by
  induction pairs using List.reverseRecOn with
  | nil => simp
  | append_singleton pairs p ih =>
    obtain ⟨c, w⟩ := p
    rw [lastValue?_concat]
    by_cases hc : c.normalized = key
    · rw [if_pos hc]
      constructor
      · rintro ⟨rfl⟩
        refine ⟨pairs.length, c, by simp, hc, ?_⟩
        intro m p hp _
        have hm := (List.getElem?_eq_some_iff.mp hp).1
        simp only [List.length_append, List.length_singleton] at hm
        omega
      · rintro ⟨n, d, hn, -, hmax⟩
        have hle : pairs.length ≤ n := hmax pairs.length (c, w) (by simp) hc
        have hlt := (List.getElem?_eq_some_iff.mp hn).1
        simp only [List.length_append, List.length_singleton] at hlt
        obtain rfl : n = pairs.length := by omega
        simp only [List.getElem?_concat_length, Option.some.injEq, Prod.mk.injEq] at hn
        rw [hn.2]
    · have hget : ∀ (n : Nat) (p : Identifier × Operand), p.1.normalized = key →
          ((pairs ++ [(c, w)])[n]? = some p ↔ pairs[n]? = some p) := by
        intro n p hp
        rcases Nat.lt_trichotomy n pairs.length with hn | rfl | hn
        · rw [List.getElem?_append_left hn]
        · have hne : (c, w) ≠ p := by
            rintro rfl
            exact hc hp
          simp [hne]
        · rw [List.getElem?_eq_none (by simpa using hn), List.getElem?_eq_none (by omega)]
      rw [if_neg hc, ih]
      constructor
      · rintro ⟨n, d, hn, hd, hmax⟩
        exact ⟨n, d, (hget n (d, v) hd).mpr hn, hd,
          fun m p hp hkey => hmax m p ((hget m p hkey).mp hp) hkey⟩
      · rintro ⟨n, d, hn, hd, hmax⟩
        exact ⟨n, d, (hget n (d, v) hd).mp hn, hd,
          fun m p hp hkey => hmax m p ((hget m p hkey).mpr hp) hkey⟩

/-! ### Assigning under the index -/

/-- The index gives the place of every entry and of nothing else, and the entries hold the last
assignment to each column of `pairs`. -/
structure Assigned.Holds (s : Assigned) (pairs : List (Identifier × Operand)) : Prop where
  index : ∀ key n, s.index.lookup key = some n ↔
    s.entries[n]?.map (·.column.normalized) = some key
  value : ∀ e ∈ s.entries, lastValue? pairs e.column.normalized = some e.value
  complete : ∀ p ∈ pairs, ∃ e ∈ s.entries, e.column.normalized = p.1.normalized

namespace Assigned

/-- The place of an entry is determined by the normalized spelling of its column. -/
lemma Holds.place_unique {s : Assigned} {pairs : List (Identifier × Operand)} (h : s.Holds pairs)
    {m n : Nat} {a b : ColumnValue} (hm : s.entries[m]? = some a) (hn : s.entries[n]? = some b)
    (hab : a.column.normalized = b.column.normalized) : m = n := by
  have hm' := (h.index a.column.normalized m).mpr (by simp [hm])
  have hn' := (h.index a.column.normalized n).mpr (by simp [hn, hab])
  exact Option.some.inj (hm'.symm.trans hn')

lemma holds_nil : ({} : Assigned).Holds [] :=
  ⟨by simp, by simp, by simp⟩

/-- Assigning to a column that was named before replaces the operand in its entry. -/
lemma Holds.assign_of_some {s : Assigned} {pairs : List (Identifier × Operand)}
    (h : s.Holds pairs) {c : Identifier} {n : Nat} (v : Operand)
    (hn : s.index.lookup c.normalized = some n) :
    (s.assign c v).Holds (pairs ++ [(c, v)]) := by
  obtain ⟨old, hold, hcolumn⟩ := Option.map_eq_some_iff.mp ((h.index c.normalized n).mp hn)
  have hassign : s.assign c v
      = { s with entries := s.entries.modify n fun e => ⟨e.column, v⟩ } := by
    rw [assign, hn]
  -- a place that is not `n` keeps its entry, and no entry changes its column
  have hplace : ∀ (m : Nat) (e : ColumnValue), (s.assign c v).entries[m]? = some e ↔
      ∃ d, s.entries[m]? = some d ∧ (if n = m then ⟨d.column, v⟩ else d) = e := by
    intro m e
    simp only [hassign, List.getElem?_modify, Option.map_eq_map, Option.map_eq_some_iff]
  refine ⟨?_, ?_, ?_⟩
  · intro key m
    have hindex : (s.assign c v).index = s.index := by rw [hassign]
    have hcolumns : (s.assign c v).entries[m]?.map (·.column.normalized)
        = s.entries[m]?.map (·.column.normalized) := by
      simp only [hassign, List.getElem?_modify, Option.map_eq_map, Option.map_map]
      congr 1
      funext e
      by_cases hnm : n = m <;> simp [hnm]
    rw [hindex, hcolumns]
    exact h.index key m
  · intro e he
    obtain ⟨m, hm⟩ := List.mem_iff_getElem?.mp he
    obtain ⟨d, hd, rfl⟩ := (hplace m e).mp hm
    rw [lastValue?_concat]
    by_cases hnm : n = m
    · subst hnm
      have hdold : d = old := Option.some.inj (hd.symm.trans hold)
      simp [hdold, hcolumn]
    · have hne : c.normalized ≠ d.column.normalized := by
        intro heq
        exact hnm (h.place_unique hold hd (hcolumn.trans heq))
      simpa [hnm, hne] using h.value d (List.mem_of_getElem? hd)
  · intro p hp
    -- every entry is still there under the same column
    have hkeep : ∀ d ∈ s.entries, ∃ e ∈ (s.assign c v).entries,
        e.column.normalized = d.column.normalized := by
      intro d hd
      obtain ⟨m, hm⟩ := List.mem_iff_getElem?.mp hd
      refine ⟨_, List.mem_of_getElem? ((hplace m _).mpr ⟨d, hm, rfl⟩), ?_⟩
      split_ifs <;> rfl
    rcases List.mem_append.mp hp with hp | hp
    · obtain ⟨d, hd, hdp⟩ := h.complete p hp
      obtain ⟨e, he, hed⟩ := hkeep d hd
      exact ⟨e, he, hed.trans hdp⟩
    · obtain rfl := List.mem_singleton.mp hp
      obtain ⟨e, he, hed⟩ := hkeep old (List.mem_of_getElem? hold)
      exact ⟨e, he, hed.trans hcolumn⟩

/-- Assigning to a column that was not named before adds an entry at the end. -/
lemma Holds.assign_of_none {s : Assigned} {pairs : List (Identifier × Operand)}
    (h : s.Holds pairs) {c : Identifier} (v : Operand)
    (hc : s.index.lookup c.normalized = none) :
    (s.assign c v).Holds (pairs ++ [(c, v)]) := by
  have hassign : s.assign c v
      = ⟨(c.normalized, s.entries.length) :: s.index, s.entries ++ [⟨c, v⟩]⟩ := by
    rw [assign, hc]
  have hnew : ∀ e ∈ s.entries, c.normalized ≠ e.column.normalized := by
    intro e he heq
    obtain ⟨m, hm⟩ := List.mem_iff_getElem?.mp he
    have := (h.index c.normalized m).mpr (by simp [hm, heq])
    rw [hc] at this
    cases this
  rw [hassign]
  refine ⟨?_, ?_, ?_⟩
  · intro key n
    rw [List.lookup_cons, List.getElem?_append]
    by_cases hkey : key = c.normalized
    · subst hkey
      simp only [beq_self_eq_true, Option.some.injEq]
      split_ifs with hn
      · have hentry : s.entries[n]?.map (·.column.normalized) ≠ some c.normalized := by
          intro hmap
          have := (h.index c.normalized n).mpr hmap
          rw [hc] at this
          cases this
        simp only [hentry, iff_false]
        omega
      · rw [List.getElem?_singleton]
        split_ifs with hzero
        · simp only [Option.map_some, iff_true]
          omega
        · simp only [Option.map_none, reduceCtorEq, iff_false]
          omega
    · rw [show (key == c.normalized) = false by simpa using hkey]
      simp only [h.index key n]
      split_ifs with hn
      · rfl
      · rw [List.getElem?_eq_none (by omega), List.getElem?_singleton]
        split_ifs with hzero
        · simp [Ne.symm hkey]
        · rfl
  · intro e he
    rw [lastValue?_concat]
    rcases List.mem_append.mp he with he | he
    · rw [if_neg (hnew e he)]
      exact h.value e he
    · obtain rfl := List.mem_singleton.mp he
      simp
  · intro p hp
    rcases List.mem_append.mp hp with hp | hp
    · obtain ⟨e, he, hep⟩ := h.complete p hp
      exact ⟨e, by simp [he], hep⟩
    · obtain rfl := List.mem_singleton.mp hp
      exact ⟨⟨c, v⟩, by simp, rfl⟩

lemma Holds.assign {s : Assigned} {pairs : List (Identifier × Operand)} (h : s.Holds pairs)
    (c : Identifier) (v : Operand) : (s.assign c v).Holds (pairs ++ [(c, v)]) := by
  cases hc : s.index.lookup c.normalized with
  | none => exact h.assign_of_none v hc
  | some n => exact h.assign_of_some v hc

end Assigned

/-- The entries hold the last assignments after any number of them. -/
lemma assignAll_holds (pairs : List (Identifier × Operand)) : (assignAll pairs).Holds pairs := by
  induction pairs using List.reverseRecOn with
  | nil => exact Assigned.holds_nil
  | append_singleton pairs p ih =>
    rw [assignAll, List.foldl_concat]
    exact ih.assign p.1 p.2

/-! ### Sorting -/

def StrictlySorted (entries : List ColumnValue) : Prop :=
  entries.Pairwise fun a b => a.column.compare b.column = .lt

lemma inOrder_iff {a b : ColumnValue} :
    inOrder a b = true ↔ (a.column.compare b.column).isLE = true := by
  unfold inOrder
  cases a.column.compare b.column <;> decide

/-- Sorting puts the entries in order. -/
lemma pairwise_inOrder_mergeSort (entries : List ColumnValue) :
    (entries.mergeSort inOrder).Pairwise fun a b => inOrder a b = true := by
  apply List.pairwise_mergeSort
  · intro a b c hab hbc
    rw [inOrder_iff] at hab hbc ⊢
    exact Std.TransCmp.isLE_trans hab hbc
  · intro a b
    rw [Bool.or_eq_true, inOrder_iff, inOrder_iff, Identifier.compare_swap a.column]
    cases a.column.compare b.column <;> decide

/-- The entries of a map are strictly sorted, since no two have the same column. -/
lemma strictlySorted_ofAssignments (pairs : List (Identifier × Operand)) :
    StrictlySorted (ofAssignments pairs).entries := by
  have hdistinct : (assignAll pairs).entries.Pairwise
      fun a b => a.column.normalized ≠ b.column.normalized := by
    rw [List.pairwise_iff_getElem]
    intro m n hm hn hmn heq
    have hplace := (assignAll_holds pairs).place_unique (List.getElem?_eq_getElem hm)
      (List.getElem?_eq_getElem hn) heq
    omega
  have hsorted : (ofAssignments pairs).entries.Pairwise
      fun a b => a.column.normalized ≠ b.column.normalized :=
    ((List.mergeSort_perm _ _).pairwise_iff fun h => Ne.symm h).mpr hdistinct
  refine (hsorted.and (pairwise_inOrder_mergeSort _)).imp ?_
  rintro a b ⟨hne, hle⟩
  rw [inOrder_iff] at hle
  cases hab : a.column.compare b.column with
  | lt => rfl
  | eq => exact absurd (Identifier.compare_eq_eq_iff.mp hab) hne
  | gt => simp [hab] at hle

/-! ### Searching by halving -/

/-- The entries in front of `low` are below a column and those from `high` on are not. -/
def Bracketed (entries : List ColumnValue) (column : Identifier) (low high : Nat) : Prop :=
  ∀ (i : Nat) (e : ColumnValue), entries[i]? = some e →
    (i < low → e.column.compare column = .lt) ∧ (high ≤ i → e.column.compare column ≠ .lt)

/-- What stands in front of an entry below a column is below it too. -/
lemma StrictlySorted.lt_of_le {entries : List ColumnValue} (hs : StrictlySorted entries)
    {column : Identifier} {i j : Nat} {a b : ColumnValue} (hi : entries[i]? = some a)
    (hj : entries[j]? = some b) (hij : i ≤ j) (hb : b.column.compare column = .lt) :
    a.column.compare column = .lt := by
  rcases Nat.lt_or_eq_of_le hij with hlt | rfl
  · obtain ⟨hilen, rfl⟩ := List.getElem?_eq_some_iff.mp hi
    obtain ⟨hjlen, rfl⟩ := List.getElem?_eq_some_iff.mp hj
    exact Std.TransCmp.lt_trans (List.pairwise_iff_getElem.mp hs i j hilen hjlen hlt) hb
  · obtain rfl := Option.some.inj (hi.symm.trans hj)
    exact hb

/-- Halving narrows a bracket down to one place. -/
lemma bracketed_lowerBound {entries : List ColumnValue} (hs : StrictlySorted entries)
    {column : Identifier} {low high : Nat} (hle : low ≤ high) (hhigh : high ≤ entries.length)
    (h : Bracketed entries column low high) :
    Bracketed entries column (lowerBound entries column low high)
      (lowerBound entries column low high) := by
  fun_induction lowerBound entries column low high with
  | case1 low high hlt middle hbelow ih =>
    -- the entry in the middle is below the column, and so is all that stands in front of it
    have hmiddle : middle = (low + high) / 2 := rfl
    have he := List.getElem?_eq_getElem (show middle < entries.length by omega)
    rw [he, Option.any_some, beq_iff_eq] at hbelow
    refine ih (by omega) hhigh ?_
    intro i a hi
    exact ⟨fun hlow => hs.lt_of_le hi he (by omega) hbelow, (h i a hi).2⟩
  | case2 low high hlt middle hbelow ih =>
    -- the entry in the middle is not below the column, and neither is what follows it
    have hmiddle : middle = (low + high) / 2 := rfl
    refine ih (by omega) (by omega) ?_
    intro i a hi
    refine ⟨(h i a hi).1, fun hge hcompare => hbelow ?_⟩
    have he := List.getElem?_eq_getElem (show middle < entries.length by omega)
    rw [he, Option.any_some, beq_iff_eq]
    exact hs.lt_of_le he hi hge hcompare
  | case3 low high hge =>
    obtain rfl : low = high := by omega
    exact h

/-- The entry at which the search for a column ends, if it is one for this column. -/
def found? (m : ValueMap) (column : Identifier) : Option ColumnValue :=
  m.entries[lowerBound m.entries column 0 m.size]?.filter (·.column.same column)

lemma get?_eq_map_found? (m : ValueMap) (column : Identifier) :
    m.get? column = (m.found? column).map (·.value) := rfl

/-- In a strictly sorted map, a search finds exactly the entry with the same column. -/
lemma found?_eq_some_iff {m : ValueMap} (hs : StrictlySorted m.entries) {column : Identifier}
    {e : ColumnValue} :
    m.found? column = some e ↔ e ∈ m.entries ∧ e.column.normalized = column.normalized := by
  have hbracket : Bracketed m.entries column (lowerBound m.entries column 0 m.size)
      (lowerBound m.entries column 0 m.size) := by
    refine bracketed_lowerBound hs (Nat.zero_le _) (Nat.le_refl _) ?_
    intro i e hi
    have hlen := (List.getElem?_eq_some_iff.mp hi).1
    exact ⟨fun hlow => absurd hlow (by omega), fun hhigh => absurd hhigh (by
      unfold size
      omega)⟩
  unfold found?
  generalize lowerBound m.entries column 0 m.size = n at hbracket ⊢
  simp only [Option.filter_eq_some_iff, Identifier.same_iff]
  constructor
  · rintro ⟨he, hsame⟩
    exact ⟨List.mem_of_getElem? he, hsame⟩
  · rintro ⟨he, hsame⟩
    obtain ⟨i, hi⟩ := List.mem_iff_getElem?.mp he
    have heq : e.column.compare column = .eq := Identifier.compare_eq_eq_iff.mpr hsame
    -- the entry is not below the column, so it stands at `n` or behind it
    have hni : n ≤ i := by
      by_contra hlt
      have := (hbracket i e hi).1 (by omega)
      rw [heq] at this
      cases this
    rcases Nat.lt_or_eq_of_le hni with hlt | rfl
    · -- an entry at `n` in front of it would be below the column
      obtain ⟨hlen, rfl⟩ := List.getElem?_eq_some_iff.mp hi
      have hn := List.getElem?_eq_getElem (show n < m.entries.length by omega)
      have hless := List.pairwise_iff_getElem.mp hs n i (by omega) hlen hlt
      exact absurd (Std.TransCmp.lt_of_lt_of_eq hless heq)
        ((hbracket n _ hn).2 (Nat.le_refl n))
    · exact ⟨hi, hsame⟩

lemma get?_eq_some_iff {m : ValueMap} (hs : StrictlySorted m.entries) {column : Identifier}
    {v : Operand} :
    m.get? column = some v ↔
      ∃ e ∈ m.entries, e.column.normalized = column.normalized ∧ e.value = v := by
  rw [get?_eq_map_found?, Option.map_eq_some_iff]
  simp only [found?_eq_some_iff hs, and_assoc]

/-- A look-up finds the operand that was assigned last. -/
lemma get?_ofAssignments (pairs : List (Identifier × Operand)) (column : Identifier) :
    (ofAssignments pairs).get? column = lastValue? pairs column.normalized := by
  have hholds := assignAll_holds pairs
  have hmem : ∀ e, e ∈ (ofAssignments pairs).entries ↔ e ∈ (assignAll pairs).entries :=
    fun e => List.mem_mergeSort
  ext v
  rw [get?_eq_some_iff (strictlySorted_ofAssignments pairs)]
  constructor
  · rintro ⟨e, he, hsame, rfl⟩
    rw [← hsame]
    exact hholds.value e ((hmem e).mp he)
  · intro hlast
    obtain ⟨n, c, hn, hc, -⟩ := lastValue?_eq_some_iff.mp hlast
    obtain ⟨e, he, hsame⟩ := hholds.complete (c, v) (List.mem_of_getElem? hn)
    have hkey : e.column.normalized = column.normalized := hsame.trans hc
    refine ⟨e, (hmem e).mpr he, hkey, ?_⟩
    have hvalue := hholds.value e he
    rw [hkey, hlast] at hvalue
    exact (Option.some.inj hvalue).symm

end ValueMap

/-! ### The values of an insertion -/

namespace Insert

open ValueMap

lemma valueMap_of_length_eq {i : Insert} {values : List Operand}
    (hvalues : i.values = .operands values) (hlength : values.length = i.columns.length) :
    i.valueMap = ofAssignments (i.columns.zip values) := by
  rw [valueMap, hvalues]
  exact if_pos hlength

lemma valueMap_of_length_ne {i : Insert}
    (h : ∀ values, i.values = .operands values → values.length ≠ i.columns.length) :
    i.valueMap = {} := by
  cases hvalues : i.values with
  | hole => rw [valueMap, hvalues]
  | json text => rw [valueMap, hvalues]
  | operands values =>
    rw [valueMap, hvalues]
    exact if_neg (h values hvalues)

/-- The assignments of an insertion. A JSON row, and a row with more or fewer operands than columns,
makes none. -/
def assignments (i : Insert) : List (Identifier × Operand) :=
  match i.values with
  | .operands values => if values.length = i.columns.length then i.columns.zip values else []
  | _ => []

lemma valueMap_eq_ofAssignments (i : Insert) : i.valueMap = ofAssignments i.assignments := by
  have hnone : ofAssignments [] = {} := by simp [ofAssignments, assignAll]
  rw [valueMap, assignments]
  cases i.values with
  | hole => exact hnone.symm
  | json text => exact hnone.symm
  | operands values =>
    dsimp only
    split_ifs
    · rfl
    · exact hnone.symm

/-- The entries of a value map are strictly sorted, whatever the row is. -/
lemma strictlySorted_valueMap (i : Insert) : StrictlySorted i.valueMap.entries := by
  rw [valueMap_eq_ofAssignments]
  exact strictlySorted_ofAssignments i.assignments

section

variable {columns : List Identifier} {values : List Operand} {c : Identifier}
  (hlength : values.length = columns.length)
include hlength

lemma lastValue?_zip_eq_some_iff {v : Operand} :
    lastValue? (columns.zip values) c.normalized = some v ↔
      ∃ n, IsGreatest {n : Nat | ∃ col, columns[n]? = some col ∧ col.same c = true} n ∧
        values[n]? = some v := by
  rw [lastValue?_eq_some_iff]
  simp only [List.getElem?_zip_eq_some]
  constructor
  · rintro ⟨n, col, ⟨hcol, hv⟩, hsame, hmax⟩
    refine ⟨n, ⟨⟨col, hcol, Identifier.same_iff.mpr hsame⟩, ?_⟩, hv⟩
    rintro m ⟨d, hd, hdsame⟩
    have hm := (List.getElem?_eq_some_iff.mp hd).1
    exact hmax m (d, values[m]) ⟨hd, List.getElem?_eq_getElem (by omega)⟩
      (Identifier.same_iff.mp hdsame)
  · rintro ⟨n, ⟨⟨col, hcol, hsame⟩, hmax⟩, hv⟩
    refine ⟨n, col, ⟨hcol, hv⟩, Identifier.same_iff.mp hsame, ?_⟩
    rintro m ⟨d, w⟩ ⟨hd, -⟩ hkey
    exact hmax ⟨d, hd, Identifier.same_iff.mpr hkey⟩

lemma lastValue?_zip_eq_none_iff :
    lastValue? (columns.zip values) c.normalized = none ↔ ∀ col ∈ columns, col.same c = false := by
  rw [lastValue?_eq_none_iff]
  constructor
  · intro hnone col hcol
    rw [← List.map_fst_zip (Nat.le_of_eq hlength.symm)] at hcol
    obtain ⟨p, hp, rfl⟩ := List.mem_map.mp hcol
    rw [Bool.eq_false_iff, Ne, Identifier.same_iff]
    exact hnone p hp
  · intro hnone p hp hsame
    have hfalse := hnone p.1 (List.of_mem_zip hp).1
    rw [Identifier.same_iff.mpr hsame] at hfalse
    cases hfalse

end

/-- With as many operands as columns, a look-up gives the operand at the greatest place whose column
is the same as the wanted one, and nothing when there is no such column. Otherwise, and for a JSON
row, it gives nothing. -/
theorem get?_valueMap (i : Insert) (c : Identifier) :
    (∀ values, i.values = .operands values → values.length = i.columns.length →
      (∀ v, i.valueMap.get? c = some v ↔
        ∃ n, IsGreatest {n : Nat | ∃ col, i.columns[n]? = some col ∧ col.same c = true} n ∧
          values[n]? = some v) ∧
      (i.valueMap.get? c = none ↔ ∀ col ∈ i.columns, col.same c = false)) ∧
    ((∀ values, i.values = .operands values → values.length ≠ i.columns.length) →
      i.valueMap.get? c = none) := by
  refine ⟨fun values hvalues hlength => ?_, fun h => ?_⟩
  · rw [valueMap_of_length_eq hvalues hlength, get?_ofAssignments]
    exact ⟨fun v => lastValue?_zip_eq_some_iff hlength, lastValue?_zip_eq_none_iff hlength⟩
  · rw [valueMap_of_length_ne h]
    rfl

/-- Of two spellings of an unquoted column the later one counts, and a quoted one is another
column. -/
theorem get?_valueMap_repeated_column :
    (Insert.valueMap { table := .simple "t"
                       columns := [⟨"Ab", false⟩, ⟨"ab", true⟩, ⟨"aB", false⟩, ⟨"c", false⟩]
                       values := .operands [.const "1", .const "2", .const "3", .null] }).get?
      ⟨"AB", false⟩ = some (.const "3") := by
  refine (((get?_valueMap _ _).1 _ rfl rfl).1 _).mpr ⟨2, ⟨⟨_, rfl, by decide⟩, ?_⟩, rfl⟩
  rintro n ⟨col, hcol, hsame⟩
  by_contra hn
  have hlen := (List.getElem?_eq_some_iff.mp hcol).1
  simp only [List.length_cons, List.length_nil] at hlen
  obtain rfl : n = 3 := by omega
  cases hcol
  exact absurd hsame (by decide)

end Insert

end CqlWriter
