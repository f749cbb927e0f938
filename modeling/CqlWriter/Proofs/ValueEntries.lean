import Mathlib
import CqlWriter.Proofs.ValueLookup

/-!
# The entries of a value map

The entries of a value map are a canonical form of the insertion: one entry for each column, with
the spelling that came first and the operand that came last, in strictly increasing order. No way of
sorting gives another list, since no two entries have the same column.
-/

namespace CqlWriter

namespace ValueMap

variable {pairs : List (Identifier × Operand)}

/-! ### The first spelling -/

/-- The first of the columns with the given normalized spelling. -/
def firstColumn? (columns : List Identifier) (key : Identifier) : Option Identifier :=
  columns.find? fun c => c.normalized = key

lemma firstColumn?_concat (columns : List Identifier) (c key : Identifier) :
    firstColumn? (columns ++ [c]) key
      = (firstColumn? columns key).or (if c.normalized = key then some c else none) := by
  simp only [firstColumn?, List.find?_append, List.find?_singleton, decide_eq_true_eq]

lemma firstColumn?_eq_none_iff {columns : List Identifier} {key : Identifier} :
    firstColumn? columns key = none ↔ ∀ c ∈ columns, c.normalized ≠ key := by
  simp [firstColumn?]

namespace Assigned

/-- Every entry has the spelling under which its column was named first. -/
def Spells (s : Assigned) (pairs : List (Identifier × Operand)) : Prop :=
  ∀ e ∈ s.entries, firstColumn? (pairs.map Prod.fst) e.column.normalized = some e.column

variable {s : Assigned}

/-- Assigning to a column that is known leaves its spelling. -/
lemma Spells.assign_of_some (hs : s.Spells pairs) {c : Identifier} {n : Nat} (v : Operand)
    (hn : s.index.lookup c.normalized = some n) : (s.assign c v).Spells (pairs ++ [(c, v)]) := by
  intro e he
  rw [assign, hn] at he
  obtain ⟨m, hm⟩ := List.mem_iff_getElem?.mp he
  simp only [List.getElem?_modify, Option.map_eq_map, Option.map_eq_some_iff] at hm
  obtain ⟨d, hd, rfl⟩ := hm
  have hfirst := hs d (List.mem_of_getElem? hd)
  -- only the operand of an entry changes
  have hcolumn : (if n = m then ⟨d.column, v⟩ else d : ColumnValue).column = d.column := by
    split_ifs <;> rfl
  simp [hcolumn, firstColumn?_concat, hfirst]

/-- A new column gets the spelling under which it is named now. -/
lemma Spells.assign_of_none (h : s.Holds pairs) (hs : s.Spells pairs) {c : Identifier} (v : Operand)
    (hc : s.index.lookup c.normalized = none) : (s.assign c v).Spells (pairs ++ [(c, v)]) := by
  intro e he
  rw [assign, hc] at he
  rcases List.mem_append.mp he with he | he
  · simp [firstColumn?_concat, hs e he]
  · obtain rfl := List.mem_singleton.mp he
    have hnew : firstColumn? (pairs.map Prod.fst) c.normalized = none := by
      rw [firstColumn?_eq_none_iff]
      intro d hd hsame
      obtain ⟨p, hp, rfl⟩ := List.mem_map.mp hd
      obtain ⟨e, he, hep⟩ := h.complete p hp
      obtain ⟨m, hm⟩ := List.mem_iff_getElem?.mp he
      have := (h.index c.normalized m).mpr (by simp [hm, hep, hsame])
      simp [hc] at this
    simp [firstColumn?_concat, hnew]

lemma Spells.assign (h : s.Holds pairs) (hs : s.Spells pairs) (c : Identifier) (v : Operand) :
    (s.assign c v).Spells (pairs ++ [(c, v)]) := by
  cases hc : s.index.lookup c.normalized with
  | none => exact hs.assign_of_none h v hc
  | some n => exact hs.assign_of_some v hc

end Assigned

/-- The invariant holds after any number of assignments. -/
lemma assignAll_spells (pairs : List (Identifier × Operand)) : (assignAll pairs).Spells pairs := by
  induction pairs using List.reverseRecOn with
  | nil => simp [Assigned.Spells, assignAll]
  | append_singleton pairs p ih =>
    rw [assignAll, List.foldl_concat]
    exact ih.assign (assignAll_holds pairs) p.1 p.2

/-! ### What the entries are -/

/-- The entries are exactly the columns in their first spelling, each with its last operand. -/
lemma mem_entries_ofAssignments {e : ColumnValue} :
    e ∈ (ofAssignments pairs).entries ↔
      firstColumn? (pairs.map Prod.fst) e.column.normalized = some e.column ∧
        lastValue? pairs e.column.normalized = some e.value := by
  have hholds := assignAll_holds pairs
  rw [ofAssignments, List.mem_mergeSort]
  constructor
  · intro he
    exact ⟨assignAll_spells pairs e he, hholds.value e he⟩
  · rintro ⟨hfirst, hlast⟩
    obtain ⟨p, hp, hcolumn⟩ := List.mem_map.mp (List.mem_of_find?_eq_some hfirst)
    obtain ⟨d, hd, hsame⟩ := hholds.complete p hp
    rw [hcolumn] at hsame
    -- the entry for this column has the same spelling and the same operand
    have hspelling := assignAll_spells pairs d hd
    have hvalue := hholds.value d hd
    rw [hsame, hfirst] at hspelling
    rw [hsame, hlast] at hvalue
    have hde : d = e := by
      cases d
      cases e
      simp_all
    rwa [← hde]

/-- There is one entry for each normalized spelling. -/
lemma eq_of_mem_of_normalized_eq {a b : ColumnValue} (ha : a ∈ (ofAssignments pairs).entries)
    (hb : b ∈ (ofAssignments pairs).entries) (h : a.column.normalized = b.column.normalized) :
    a = b := by
  obtain ⟨hacolumn, havalue⟩ := mem_entries_ofAssignments.mp ha
  obtain ⟨hbcolumn, hbvalue⟩ := mem_entries_ofAssignments.mp hb
  cases a
  cases b
  simp_all

/-- However the assignments are sorted, the result is the same list. -/
lemma eq_entries_of_perm {sorted : List ColumnValue} (hperm : sorted.Perm (assignAll pairs).entries)
    (hsorted : sorted.Pairwise fun a b => a.column.compare b.column ≠ .gt) :
    sorted = (ofAssignments pairs).entries := by
  have hperm' : sorted.Perm (ofAssignments pairs).entries :=
    hperm.trans (List.mergeSort_perm _ _).symm
  refine List.Perm.eq_of_pairwise ?_ hsorted
    ((strictlySorted_ofAssignments pairs).imp fun h => by simp [h]) hperm'
  intro a b ha hb hab hba
  apply eq_of_mem_of_normalized_eq (hperm'.mem_iff.mp ha) hb
  rw [Identifier.compare_swap a.column] at hba
  rw [← Identifier.compare_eq_eq_iff]
  cases hcompare : a.column.compare b.column with
  | eq => rfl
  | lt => simp [hcompare] at hba
  | gt => exact absurd hcompare hab

/-! ### Visiting the entries -/

/-- The last of the entries is one on which `more` answers false, if `n` entries came before
them. -/
def StopsFrom (more : Nat → ColumnValue → Bool) (n : Nat) (es : List ColumnValue) : Prop :=
  ∃ front e, es = front ++ [e] ∧ more (n + front.length) e = false

variable {more : Nat → ColumnValue → Bool}

lemma stopsFrom_cons {n : Nat} {e : ColumnValue} {es : List ColumnValue} :
    StopsFrom more n (e :: es) ↔ es = [] ∧ more n e = false ∨ StopsFrom more (n + 1) es := by
  constructor
  · rintro ⟨front, last, hes, hmore⟩
    cases front with
    | nil =>
      simp only [List.nil_append, List.cons.injEq] at hes
      obtain ⟨rfl, rfl⟩ := hes
      exact .inl ⟨rfl, hmore⟩
    | cons d front =>
      simp only [List.cons_append, List.cons.injEq] at hes
      obtain ⟨rfl, rfl⟩ := hes
      refine .inr ⟨front, last, rfl, ?_⟩
      rwa [List.length_cons, Nat.add_comm front.length, ← Nat.add_assoc] at hmore
  · rintro (⟨rfl, hmore⟩ | ⟨front, last, rfl, hmore⟩)
    · exact ⟨[], e, rfl, hmore⟩
    · refine ⟨e :: front, last, rfl, ?_⟩
      rwa [List.length_cons, Nat.add_comm front.length, ← Nat.add_assoc]

/-- The visited entries are a shortest part of the entries that ends in a stop. -/
def IsVisit (more : Nat → ColumnValue → Bool) (n : Nat) (es visited : List ColumnValue) : Prop :=
  (visited <+: es ∧ StopsFrom more n visited ∧ ∀ p, p <+: es → StopsFrom more n p → visited <+: p) ∨
    visited = es ∧ ∀ p, p <+: es → ¬ StopsFrom more n p

lemma isVisit_rangeFrom (n : Nat) (es : List ColumnValue) :
    IsVisit more n es (rangeFrom more n es) := by
  induction es generalizing n with
  | nil =>
    refine .inr ⟨rfl, ?_⟩
    rintro p hp ⟨front, e, rfl, -⟩
    simp at hp
  | cons e es ih =>
    rw [rangeFrom]
    cases hmore : more n e with
    | false =>
      refine .inl ⟨by simp, stopsFrom_cons.mpr (.inl ⟨rfl, hmore⟩), ?_⟩
      intro p hp hstops
      cases p with
      | nil => simp [StopsFrom] at hstops
      | cons d p =>
        obtain ⟨rfl, -⟩ := List.cons_prefix_cons.mp hp
        simp
    | true =>
      -- a part that stops has `e` in front of a part of the rest that stops
      have hrest : ∀ p, p <+: e :: es → StopsFrom more n p →
          ∃ q, p = e :: q ∧ q <+: es ∧ StopsFrom more (n + 1) q := by
        intro p hp hstops
        cases p with
        | nil => simp [StopsFrom] at hstops
        | cons d q =>
          obtain ⟨rfl, hq⟩ := List.cons_prefix_cons.mp hp
          rcases stopsFrom_cons.mp hstops with ⟨-, hfalse⟩ | hq'
          · simp [hmore] at hfalse
          · exact ⟨q, rfl, hq, hq'⟩
      rw [if_pos rfl]
      rcases ih (n + 1) with ⟨hstart, hstops, hleast⟩ | ⟨hall, hnone⟩
      · refine .inl ⟨List.cons_prefix_cons.mpr ⟨rfl, hstart⟩, stopsFrom_cons.mpr (.inr hstops), ?_⟩
        intro p hp hp'
        obtain ⟨q, rfl, hq, hq'⟩ := hrest p hp hp'
        exact List.cons_prefix_cons.mpr ⟨rfl, hleast q hq hq'⟩
      · refine .inr ⟨by rw [hall], ?_⟩
        intro p hp hp'
        obtain ⟨q, rfl, hq, hq'⟩ := hrest p hp hp'
        exact hnone q hq hq'

end ValueMap

/-! ### The canonical form of an insertion -/

namespace Insert

open ValueMap

/-- The places at which a column is named. -/
def places (i : Insert) (c : Identifier) : Set Nat :=
  {n | ∃ col, i.columns[n]? = some col ∧ col.same c = true}

variable {i : Insert} {values : List Operand}

/-- The first spelling is that at the least of the places. -/
lemma firstColumn?_eq_some_iff {c col : Identifier} :
    firstColumn? i.columns c.normalized = some col ↔
      ∃ n, IsLeast (i.places c) n ∧ i.columns[n]? = some col := by
  rw [firstColumn?, List.find?_eq_some_iff_getElem]
  simp only [decide_eq_true_eq, Bool.not_eq_true', decide_eq_false_iff_not]
  constructor
  · rintro ⟨hsame, n, hn, rfl, hleast⟩
    have hget := List.getElem?_eq_getElem hn
    refine ⟨n, ⟨⟨_, hget, Identifier.same_iff.mpr hsame⟩, ?_⟩, hget⟩
    rintro m ⟨d, hd, hdsame⟩
    obtain ⟨hm, rfl⟩ := List.getElem?_eq_some_iff.mp hd
    by_contra hlt
    exact hleast m (by omega) (Identifier.same_iff.mp hdsame)
  · rintro ⟨n, ⟨⟨d, hd, hdsame⟩, hleast⟩, hcol⟩
    obtain rfl := Option.some.inj (hd.symm.trans hcol)
    obtain ⟨hn, rfl⟩ := List.getElem?_eq_some_iff.mp hcol
    refine ⟨Identifier.same_iff.mp hdsame, n, hn, rfl, ?_⟩
    intro m hm hsame
    have := hleast ⟨_, List.getElem?_eq_getElem (by omega), Identifier.same_iff.mpr hsame⟩
    omega

/-- A column has one entry, if there are as many operands as columns. -/
lemma existsUnique_entry (hvalues : i.values = .operands values)
    (hlength : values.length = i.columns.length) {col : Identifier} (hcol : col ∈ i.columns) :
    ∃! e, e ∈ i.valueMap.entries ∧ e.column.same col = true := by
  have hcolumns : (i.columns.zip values).map Prod.fst = i.columns :=
    List.map_fst_zip hlength.ge
  rw [← hcolumns] at hcol
  obtain ⟨p, hp, rfl⟩ := List.mem_map.mp hcol
  obtain ⟨e, he, hsame⟩ := (assignAll_holds (i.columns.zip values)).complete p hp
  have he' : e ∈ (ofAssignments (i.columns.zip values)).entries := List.mem_mergeSort.mpr he
  rw [valueMap_of_length_eq hvalues hlength]
  refine ⟨e, ⟨he', Identifier.same_iff.mpr hsame⟩, ?_⟩
  rintro d ⟨hd, hdsame⟩
  exact eq_of_mem_of_normalized_eq hd he' ((Identifier.same_iff.mp hdsame).trans hsame.symm)

/-- With as many operands as columns, the entries of the value map are a canonical form. They are
strictly increasing, there is exactly one for each column, and an entry is one exactly if it has the
spelling of the first and the operand of the last place of its column. No other list is an ordered
arrangement of the assignments. The columns, the size and the visits of the map are those of the
entries, and a visit goes on to the first entry that stops it, or to the end. -/
theorem valueMap_canonical (hvalues : i.values = .operands values)
    (hlength : values.length = i.columns.length) :
    StrictlySorted i.valueMap.entries ∧
    (∀ col ∈ i.columns, ∃! e, e ∈ i.valueMap.entries ∧ e.column.same col = true) ∧
    (∀ e, e ∈ i.valueMap.entries ↔
      (∃ n, IsLeast (i.places e.column) n ∧ i.columns[n]? = some e.column) ∧
        ∃ n, IsGreatest (i.places e.column) n ∧ values[n]? = some e.value) ∧
    (∀ sorted : List ColumnValue, sorted.Perm (assignAll (i.columns.zip values)).entries →
      (sorted.Pairwise fun a b => a.column.compare b.column ≠ .gt) →
        sorted = i.valueMap.entries) ∧
    i.valueMap.columns = i.valueMap.entries.map (·.column) ∧
    i.valueMap.size = i.valueMap.entries.length ∧
    ∀ more, IsVisit more 0 i.valueMap.entries (i.valueMap.range more) := by
  have hmap : i.valueMap = ofAssignments (i.columns.zip values) :=
    valueMap_of_length_eq hvalues hlength
  have hcolumns : (i.columns.zip values).map Prod.fst = i.columns :=
    List.map_fst_zip hlength.ge
  have hmem : ∀ e, e ∈ i.valueMap.entries ↔
      (∃ n, IsLeast (i.places e.column) n ∧ i.columns[n]? = some e.column) ∧
        ∃ n, IsGreatest (i.places e.column) n ∧ values[n]? = some e.value := by
    intro e
    rw [hmap, mem_entries_ofAssignments, hcolumns, firstColumn?_eq_some_iff,
      lastValue?_zip_eq_some_iff hlength]
    rfl
  refine ⟨?_, fun col hcol => existsUnique_entry hvalues hlength hcol, hmem, ?_, rfl, rfl,
    fun more => isVisit_rangeFrom 0 _⟩
  · rw [hmap]
    exact strictlySorted_ofAssignments _
  · intro sorted hperm hsorted
    rw [hmap]
    exact eq_entries_of_perm hperm hsorted

/-- Two spellings of an unquoted column make one entry, and a quoted one is another column. -/
theorem valueMap_canonical_repeated_column :
    (Insert.valueMap { table := .simple "t"
                       columns := [⟨"c", false⟩, ⟨"Ab", false⟩, ⟨"ab", true⟩, ⟨"aB", false⟩]
                       values := .operands [.const "1", .const "2", .const "3", .null] }).entries
      = [⟨⟨"Ab", false⟩, .null⟩, ⟨⟨"ab", true⟩, .const "3"⟩, ⟨⟨"c", false⟩, .const "1"⟩] := by
  refine ((valueMap_canonical rfl rfl).2.2.2.1 _ ?_ ?_).symm
  · exact List.perm_append_singleton (ColumnValue.mk ⟨"c", false⟩ (.const "1")) [_, _]
  · simp only [List.pairwise_cons]
    decide

end Insert

end CqlWriter
