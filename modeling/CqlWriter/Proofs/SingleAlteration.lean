import Mathlib
import CqlWriter.Proofs.MissingNames

/-!
# One alteration for each entry

An ALTER TABLE entry has a field for each kind of alteration, and so has each of its table options
for each kind of option. Exactly one of the fields is to be set. What an entry says is told field by
field; the statement that is built is what the one field says, and every other entry is refused for
something that is left out.
-/

namespace CqlWriter

/-- The values that a list of kinds gives are a single one exactly if exactly one kind gives a value
and this is the one. -/
lemma filterMap_eq_singleton_iff {κ β : Type} {ks : List κ} (hnodup : ks.Nodup)
    (hall : ∀ k, k ∈ ks) {f : κ → Option β} {x : β} :
    ks.filterMap f = [x] ↔ (∃! k, (f k).isSome = true) ∧ ∃ k, f k = some x := by
  rw [List.filterMap_eq_cons_iff]
  constructor
  · rintro ⟨before, k, after, rfl, hbefore, hk, hafter⟩
    rw [List.filterMap_eq_nil_iff] at hafter
    refine ⟨⟨k, by simp [hk], ?_⟩, k, hk⟩
    intro other hother
    have hmem := hall other
    rw [List.mem_append, List.mem_cons] at hmem
    rcases hmem with hmem | rfl | hmem
    · simp [hbefore other hmem] at hother
    · rfl
    · simp [hafter other hmem] at hother
  · rintro ⟨⟨k, -, hunique⟩, k', hk'⟩
    obtain rfl : k' = k := hunique k' (by simp [hk'])
    obtain ⟨before, after, rfl⟩ := List.append_of_mem (hall k')
    have hnone : ∀ other, other ≠ k' → f other = none := by
      intro other hne
      by_contra hsome
      exact hne (hunique other (Option.isSome_iff_ne_none.mpr hsome))
    rw [List.nodup_middle, List.nodup_cons, List.mem_append, not_or] at hnodup
    refine ⟨before, k', after, rfl, ?_, hk', ?_⟩
    · exact fun other hother => hnone other (ne_of_mem_of_not_mem hother hnodup.1.1)
    · rw [List.filterMap_eq_nil_iff]
      exact fun other hother => hnone other (ne_of_mem_of_not_mem hother hnodup.1.2)

namespace Document

/-! ### Table options -/

/-- The kinds of table options. -/
inductive OptionKind where
  | property
  | clusteringOrder
  | id
  | compactStorage
  deriving DecidableEq

def OptionKind.all : List OptionKind :=
  [property, clusteringOrder, id, compactStorage]

lemma OptionKind.mem_all (k : OptionKind) : k ∈ all := by
  cases k <;> simp [all]

namespace WithEntry

variable {entry : Nat} {w : WithEntry}

/-- The entry sets the field for options of this kind. -/
def Sets (w : WithEntry) : OptionKind → Prop
  | .property => w.property.isSome
  | .clusteringOrder => w.clusteringOrder.isSome
  | .id => w.id.isSome
  | .compactStorage => w.compactStorage

/-- What the field for options of a kind says. -/
def option? (w : WithEntry) : OptionKind → Option WithItem
  | .property => w.property.map fun p => .property p.name p.value
  | .clusteringOrder =>
    w.clusteringOrder.map fun os =>
      .clusteringOrder (os.map fun o => ⟨.ofText o.column, o.descending⟩)
  | .id => w.id.map WithItem.id
  | .compactStorage => if w.compactStorage then some .compactStorage else none

/-- What the first field that is set says. -/
def firstOption (w : WithEntry) : WithItem :=
  w.items.headD .hole

/-- A field says something exactly when it is set. -/
lemma isSome_option? (w : WithEntry) (k : OptionKind) : (w.option? k).isSome = true ↔ w.Sets k := by
  cases k with
  | property | clusteringOrder | id => simp [option?, Sets]
  | compactStorage => cases h : w.compactStorage <;> simp [option?, Sets, h]

/-- The options of an entry, in the order in which they are looked for. -/
lemma items_eq (w : WithEntry) : w.items = OptionKind.all.filterMap w.option? := by
  obtain ⟨property, order, id, compact⟩ := w
  cases property <;> cases order <;> cases id <;> cases compact <;> rfl

/-- There is one option exactly when one kind is set. -/
lemma items_eq_singleton_iff {item : WithItem} :
    w.items = [item] ↔ (∃! k, w.Sets k) ∧ ∃ k, w.option? k = some item := by
  rw [items_eq, filterMap_eq_singleton_iff (by decide) OptionKind.mem_all]
  simp only [isSome_option?]

lemma build_eq_ok_iff {item : WithItem} : w.build entry = .ok item ↔ w.items = [item] := by
  unfold build
  split
  · rename_i only hitems
    simp [hitems]
  · rename_i hitems
    simpa using hitems item

/-- An entry that sets one field gives the option that this field says. -/
lemma items_of_single (h : ∃! k, w.Sets k) : w.items = [w.firstOption] := by
  obtain ⟨k, hk⟩ := h.exists
  obtain ⟨item, hitem⟩ := Option.isSome_iff_exists.mp ((w.isSome_option? k).mpr hk)
  have hitems := items_eq_singleton_iff.mpr ⟨h, k, hitem⟩
  rw [firstOption, hitems]
  rfl

/-- If only one kind is set, its option is the first one. -/
lemma option?_of_single (h : ∃! k, w.Sets k) {k : OptionKind} (hk : w.Sets k) :
    w.option? k = some w.firstOption := by
  obtain ⟨-, k', hk'⟩ := items_eq_singleton_iff.mp (items_of_single h)
  have hset : w.Sets k' := (w.isSome_option? k').mp (by simp [hk'])
  rw [h.unique hk hset, hk']

end WithEntry

/-! ### Alterations -/

/-- The kinds of alterations. -/
inductive AlterationKind where
  | add
  | drop
  | dropCompactStorage
  | rename
  | options
  deriving DecidableEq

def AlterationKind.all : List AlterationKind :=
  [add, drop, dropCompactStorage, rename, options]

lemma AlterationKind.mem_all (k : AlterationKind) : k ∈ all := by
  cases k <;> simp [all]

namespace AlterTableEntry

variable {entry : Nat} {a : AlterTableEntry}

/-- The entry sets the field for alterations of this kind; an empty list is set. -/
def Sets (a : AlterTableEntry) : AlterationKind → Prop
  | .add => a.add.isSome
  | .drop => a.drop.isSome
  | .dropCompactStorage => a.dropCompactStorage
  | .rename => a.rename.isSome
  | .options => a.options.isSome

def alteration? (a : AlterTableEntry) : AlterationKind → Option Alteration
  | .add => a.add.map fun cs => .add (cs.map ColumnEntry.column)
  | .drop => a.drop.map fun names => .drop (names.map Identifier.ofText)
  | .dropCompactStorage => if a.dropCompactStorage then some .dropCompactStorage else none
  | .rename => a.rename.map fun r => .rename (.ofText r.source) (.ofText r.target)
  | .options => a.options.map fun ws => .options (ws.map WithEntry.firstOption)

lemma isSome_alteration? (a : AlterTableEntry) (k : AlterationKind) :
    (a.alteration? k).isSome = true ↔ a.Sets k := by
  cases k with
  | add | drop | rename | options => simp [alteration?, Sets]
  | dropCompactStorage => cases h : a.dropCompactStorage <;> simp [alteration?, Sets, h]

/-- What the fields say is complete: columns to be added have a name and a type, a renaming has both
names, and each table option is a single one. -/
structure Complete (a : AlterTableEntry) : Prop where
  columns : ∀ cs ∈ a.add, ∀ c ∈ cs, c.name ≠ [] ∧ c.type ≠ []
  names : ∀ r ∈ a.rename, r.source ≠ [] ∧ r.target ≠ []
  options : ∀ ws ∈ a.options, ∀ w ∈ ws, ∃! k, w.Sets k

/-- What is made of a value that may be left out, if it can be made. -/
lemma given_eq_ok {α β : Type} {value : Option α} {build : α → Except Problem β} {f : α → β}
    (h : ∀ x ∈ value, build x = .ok (f x)) : given value build = .ok (value.map f).toList := by
  cases value with
  | none => rfl
  | some x =>
    rw [given, h x rfl]
    rfl

lemma forall_of_given {α β : Type} {value : Option α} {build : α → Except Problem β}
    {xs : List β} {Q : α → Prop} (h : given value build = .ok xs)
    (hbuild : ∀ x y, build x = .ok y → Q x) : ∀ x ∈ value, Q x :=
  (given_forall_and (P := fun _ => True) h fun x y hy => ⟨trivial, hbuild x y hy⟩).2

/-- The alterations of a complete entry are what its fields say. -/
lemma alterations_of_complete (h : a.Complete) (entry : Nat) :
    a.alterations entry = .ok (AlterationKind.all.filterMap a.alteration?) := by
  have hadd : given a.add (fun cs => do pure (.add (← cs.mapM (·.build entry))))
      = .ok (a.alteration? .add).toList := by
    refine given_eq_ok fun cs hcs => ?_
    rw [mapM_eq_ok_map fun c hc => ColumnEntry.build_eq_ok_iff.mpr ⟨h.columns cs hcs c hc, rfl⟩]
    rfl
  have hrename : given a.rename (·.build entry) = .ok (a.alteration? .rename).toList :=
    given_eq_ok fun r hr => RenameEntry.build_eq_ok_iff.mpr ⟨h.names r hr, rfl⟩
  have hoptions : given a.options (fun ws => do pure (.options (← ws.mapM (·.build entry))))
      = .ok (a.alteration? .options).toList := by
    refine given_eq_ok fun ws hws => ?_
    rw [mapM_eq_ok_map fun w hw =>
      WithEntry.build_eq_ok_iff.mpr (WithEntry.items_of_single (h.options ws hws w hw))]
    rfl
  have hdrop : given a.drop (fun names => .ok (.drop (names.map Identifier.ofText)))
      = .ok (a.alteration? .drop).toList :=
    given_eq_ok fun _ _ => rfl
  have hcompact : (if a.dropCompactStorage then [.dropCompactStorage] else [])
      = (a.alteration? .dropCompactStorage).toList := by
    rw [alteration?]
    split_ifs <;> rfl
  rw [alterations, hadd, hdrop, hcompact, hrename, hoptions, List.filterMap_eq_flatMap_toList]
  simp [AlterationKind.all, bind, Except.bind, pure, Except.pure]

/-- Alterations are made only of complete entries. -/
lemma complete_of_alterations {xs : List Alteration} (h : a.alterations entry = .ok xs) :
    a.Complete := by
  obtain ⟨added, hadded, h⟩ := bind_eq_ok_iff.mp h
  obtain ⟨dropped, -, h⟩ := bind_eq_ok_iff.mp h
  obtain ⟨renamed, hrenamed, h⟩ := bind_eq_ok_iff.mp h
  obtain ⟨options, hoptions, -⟩ := bind_eq_ok_iff.mp h
  refine ⟨forall_of_given hadded fun cs x hx c hc => ?_, forall_of_given hrenamed fun r x hx => ?_,
    forall_of_given hoptions fun ws x hx w hw => ?_⟩
  · obtain ⟨ds, hds, -⟩ := bind_eq_ok_iff.mp hx
    obtain ⟨d, hd⟩ := exists_eq_ok_of_mapM hds hc
    exact (ColumnEntry.build_eq_ok_iff.mp hd).1
  · exact (RenameEntry.build_eq_ok_iff.mp hx).1
  · obtain ⟨items, hitems, -⟩ := bind_eq_ok_iff.mp hx
    obtain ⟨item, hitem⟩ := exists_eq_ok_of_mapM hitems hw
    exact (WithEntry.items_eq_singleton_iff.mp (WithEntry.build_eq_ok_iff.mp hitem)).1

/-- There is one alteration exactly when the entry is complete and sets one kind. -/
lemma alterations_eq_singleton_iff {x : Alteration} : a.alterations entry = .ok [x] ↔
    a.Complete ∧ (∃! k, a.Sets k) ∧ ∃ k, a.alteration? k = some x := by
  simp only [← isSome_alteration?]
  rw [← filterMap_eq_singleton_iff (by decide) AlterationKind.mem_all]
  constructor
  · intro h
    have hcomplete := complete_of_alterations h
    rw [alterations_of_complete hcomplete] at h
    exact ⟨hcomplete, Except.ok.inj h⟩
  · rintro ⟨hcomplete, hone⟩
    rw [alterations_of_complete hcomplete, hone]

/-- A statement is made of an entry with a table and one alteration. -/
lemma build_eq_ok_iff {s : AlterTable} : a.build entry = .ok s ↔
    a.table ≠ [] ∧ a.alterations entry = .ok [s.alteration] ∧ s.table = .ofText a.table := by
  unfold build
  split
  · rename_i htable
    constructor
    · intro h
      cases h
    · rintro ⟨hne, -⟩
      exact absurd (List.isEmpty_iff.mp htable) hne
  · rename_i htable
    rw [bind_eq_ok_iff]
    constructor
    · rintro ⟨xs, hxs, h⟩
      split at h
      · cases h
        exact ⟨by simpa using htable, hxs, rfl⟩
      · cases h
    · rintro ⟨-, halterations, hs⟩
      refine ⟨_, halterations, ?_⟩
      rw [← hs]
      rfl

/-- The entry names a table and exactly one alteration, which is complete. -/
structure Valid (a : AlterTableEntry) : Prop extends a.Complete where
  table : a.table ≠ []
  single : ∃! k, a.Sets k

/-- An ALTER TABLE entry is accepted exactly if it is valid. The statement is then of the kind whose
field is set, and says what this field says: the columns, names and options of the entry one by one,
where each option says what its own field says. Every entry that is not accepted is refused for
something that is left out. -/
theorem build_single_alteration (entry : Nat) (a : AlterTableEntry) :
    ((∃ s, a.build entry = .ok s) ↔ a.Valid) ∧
    (∀ s, a.build entry = .ok s → s.table = .ofText a.table ∧
      (∀ k, a.Sets k → a.alteration? k = some s.alteration) ∧
      ∀ ws ∈ a.options, ∀ w ∈ ws, ∀ k, w.Sets k → w.option? k = some w.firstOption) ∧
    ∀ p, a.build entry = .error p → p.IsMissing entry ∧ p.fault.isKind "MT10003" = true := by
  refine ⟨⟨?_, ?_⟩, ?_, ?_⟩
  · rintro ⟨s, hs⟩
    obtain ⟨htable, halterations, -⟩ := build_eq_ok_iff.mp hs
    obtain ⟨hcomplete, hsingle, -⟩ := alterations_eq_singleton_iff.mp halterations
    exact ⟨hcomplete, htable, hsingle⟩
  · intro h
    obtain ⟨k, hk⟩ := h.single.exists
    obtain ⟨x, hx⟩ := Option.isSome_iff_exists.mp ((a.isSome_alteration? k).mpr hk)
    have halterations : a.alterations entry = .ok [x] :=
      alterations_eq_singleton_iff.mpr ⟨h.toComplete, h.single, k, hx⟩
    exact ⟨⟨.ofText a.table, x⟩, build_eq_ok_iff.mpr ⟨h.table, halterations, rfl⟩⟩
  · intro s hs
    obtain ⟨-, halterations, htable⟩ := build_eq_ok_iff.mp hs
    obtain ⟨hcomplete, hsingle, k', hk'⟩ := alterations_eq_singleton_iff.mp halterations
    refine ⟨htable, fun k hk => ?_, fun ws hws w hw k hk => ?_⟩
    · have hset : a.Sets k' := (a.isSome_alteration? k').mp (by simp [hk'])
      rw [hsingle.unique hk hset, hk']
    · exact WithEntry.option?_of_single (hcomplete.options ws hws w hw) hk
  · intro p hp
    obtain ⟨what, required, rfl⟩ := a.failsOnly_build entry p hp
    exact ⟨⟨what, required, rfl⟩, rfl⟩

/-- An empty list is an alteration, and a second field is one too many. -/
example :
    ({ table := "t", add := some [] } : AlterTableEntry).build 0 = .ok ⟨.simple "t", .add []⟩ ∧
    errorOf (({ table := "t", add := some [], drop := some [] } : AlterTableEntry).build 0)
      = some (.missing 0 "alter_table"
          "exactly one of add, drop, drop_compact_storage, rename, with") := by
  decide

end AlterTableEntry

end Document

end CqlWriter
