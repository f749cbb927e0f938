import Mathlib
import CqlWriter.Proofs.Decoding

/-!
# Nodes without aliases

A node is expanded by putting a copy of the anchored node in place of every alias. That is done
where every alias has a target and no key is an alias. The size of a tree counts the nodes of the
target at every alias.
-/

namespace CqlWriter

namespace Yaml

/-! ### Expanded nodes -/

namespace Node

mutual

/-- The node with a copy of the anchored node in place of every alias. -/
def expanded : Node → Node
  | sequence line tag items => sequence line tag (expandedList items)
  | mapping line tag entries => mapping line tag (expandedPairs entries)
  | reference _ _ (some n) => expanded n
  | n => n

def expandedList : List Node → List Node
  | [] => []
  | n :: ns => expanded n :: expandedList ns

def expandedPairs : List (Node × Node) → List (Node × Node)
  | [] => []
  | (k, v) :: es => (expanded k, expanded v) :: expandedPairs es

end

mutual

/-- The number of nodes in a tree, where an alias has the nodes of its target too. -/
def size : Node → Nat
  | scalar .. => 1
  | sequence _ _ items => sizeList items + 1
  | mapping _ _ entries => sizePairs entries + 1
  | reference _ _ (some n) => size n + 1
  | reference _ _ none => 1

def sizeList : List Node → Nat
  | [] => 0
  | n :: ns => size n + sizeList ns

def sizePairs : List (Node × Node) → Nat
  | [] => 0
  | (k, v) :: es => size k + size v + sizePairs es

end

def isReference : Node → Bool
  | reference .. => true
  | _ => false

def isSequence : Node → Bool
  | sequence .. => true
  | _ => false

/-- Every alias has a target, and no key is an alias. -/
inductive Expandable : Node → Prop
  | scalar (line : Nat) (tag : Tag) (text : Text) : Expandable (.scalar line tag text)
  | sequence {line : Nat} {tag : Tag} {items : List Node} :
      (∀ n ∈ items, Expandable n) → Expandable (.sequence line tag items)
  | mapping {line : Nat} {tag : Tag} {entries : List (Node × Node)} :
      (∀ e ∈ entries, e.1.isReference = false) → (∀ e ∈ entries, Expandable e.1) →
        (∀ e ∈ entries, Expandable e.2) → Expandable (.mapping line tag entries)
  | reference {line : Nat} {name : Text} {n : Node} :
      Expandable n → Expandable (.reference line name (some n))

namespace Expandable

attribute [simp] scalar

@[simp] lemma sequence_iff {line : Nat} {tag : Tag} {items : List Node} :
    Expandable (.sequence line tag items) ↔ ∀ n ∈ items, Expandable n := by
  constructor
  · rintro ⟨⟩
    assumption
  · exact sequence

@[simp] lemma mapping_iff {line : Nat} {tag : Tag} {entries : List (Node × Node)} :
    Expandable (.mapping line tag entries) ↔
      ∀ e ∈ entries, e.1.isReference = false ∧ e.1.Expandable ∧ e.2.Expandable := by
  constructor
  · rintro ⟨⟩ e he
    rename_i hplain hkeys hvalues
    exact ⟨hplain e he, hkeys e he, hvalues e he⟩
  · intro h
    exact mapping (fun e he => (h e he).1) (fun e he => (h e he).2.1) fun e he => (h e he).2.2

@[simp] lemma reference_iff {line : Nat} {name : Text} {n : Node} :
    Expandable (.reference line name (some n)) ↔ n.Expandable := by
  constructor
  · rintro ⟨⟩
    assumption
  · exact reference

end Expandable

/-- An entry that asks to merge an alias of a sequence. -/
def IsAliasedMerge (e : Node × Node) : Prop :=
  e.1.isMerge = true ∧ e.2.isReference = true ∧ e.2.resolved.isSequence = true

/-- Somewhere in a node an alias of a sequence is to be merged. -/
inductive HasAliasedMerge : Node → Prop
  | entry {line : Nat} {tag : Tag} {entries : List (Node × Node)} {e : Node × Node} :
      e ∈ entries → IsAliasedMerge e → HasAliasedMerge (.mapping line tag entries)
  | key {line : Nat} {tag : Tag} {entries : List (Node × Node)} {e : Node × Node} :
      e ∈ entries → HasAliasedMerge e.1 → HasAliasedMerge (.mapping line tag entries)
  | value {line : Nat} {tag : Tag} {entries : List (Node × Node)} {e : Node × Node} :
      e ∈ entries → HasAliasedMerge e.2 → HasAliasedMerge (.mapping line tag entries)
  | item {line : Nat} {tag : Tag} {items : List Node} {n : Node} :
      n ∈ items → HasAliasedMerge n → HasAliasedMerge (.sequence line tag items)
  | target {line : Nat} {name : Text} {n : Node} :
      HasAliasedMerge n → HasAliasedMerge (.reference line name (some n))

/-- An aliased merge inside a part lies inside the whole. -/
lemma HasAliasedMerge.of_contains {n m : Node} (h : n.Contains m) (hm : m.HasAliasedMerge) :
    n.HasAliasedMerge := by
  induction h with
  | value he => exact .value he hm
  | item hn => exact .item hn hm
  | target => exact .target hm
  | trans _ _ ih ih' => exact ih (ih' hm)

/-- The entries of a mapping are expanded pair by pair. -/
lemma expandedPairs_eq_map (es : List (Node × Node)) :
    expandedPairs es = es.map fun e => (e.1.expanded, e.2.expanded) := by
  induction es with
  | nil => rfl
  | cons e es ih => rw [expandedPairs, ih, List.map_cons]

lemma Expandable.of_contains {n m : Node} (h : n.Contains m) (hn : n.Expandable) :
    m.Expandable := by
  induction h with
  | value he =>
    cases hn with
    | mapping _ _ hvalues => exact hvalues _ he
  | item hm =>
    cases hn with
    | sequence hitems => exact hitems _ hm
  | target =>
    cases hn with
    | reference htarget => exact htarget
  | trans _ _ ih ih' => exact ih' (ih hn)

/-- What can be expanded has no cycle. -/
lemma Expandable.acyclic {n : Node} (h : n.Expandable) : n.Acyclic := by
  induction h with
  | scalar line tag text => exact .scalar line tag text
  | sequence _ ih => exact .sequence ih
  | mapping _ _ _ ihKeys ihValues => exact .mapping ihKeys ihValues
  | reference _ ih => exact .reference ih

/-- Expanding and following an alias may change places. -/
lemma Expandable.resolved_expanded {n : Node} (h : n.Expandable) :
    n.expanded.resolved = n.resolved.expanded ∧ n.resolved.Expandable ∧
      n.resolved.isReference = false := by
  induction h with
  | scalar line tag text => exact ⟨rfl, .scalar line tag text, rfl⟩
  | sequence hitems => exact ⟨by simp [expanded, resolved], .sequence hitems, rfl⟩
  | mapping hplain hkeys hvalues =>
    exact ⟨by simp [expanded, resolved], .mapping hplain hkeys hvalues, rfl⟩
  | reference _ ih => simpa only [expanded, resolved] using ih

/-- Two nodes of the same kind that start at the same line and have the same text. -/
structure Alike (n m : Node) : Prop where
  line : n.line = m.line
  text : n.text = m.text
  isMerge : n.isMerge = m.isMerge
  sameKind_left : ∀ k : Node, n.sameKind k = m.sameKind k
  sameKind_right : ∀ k : Node, k.sameKind n = k.sameKind m

/-- A node that is no alias changes inside only. -/
lemma expanded_alike {n : Node} (h : n.isReference = false) : n.expanded.Alike n := by
  cases n with
  | scalar line tag text => exact ⟨rfl, rfl, rfl, fun _ => rfl, fun _ => rfl⟩
  | sequence _ _ _ | mapping _ _ _ =>
    rw [expanded]
    exact ⟨rfl, rfl, rfl, fun k => by cases k <;> rfl, fun k => by cases k <;> rfl⟩
  | reference line name target => cases h

/-- No alias is left once a node is expanded. -/
lemma Expandable.isReference_expanded {n : Node} (h : n.Expandable) :
    n.expanded.isReference = false := by
  induction h with
  | scalar line tag text => rfl
  | sequence _ | mapping _ _ _ => simp [expanded, isReference]
  | reference _ ih => simpa only [expanded] using ih

/-- An expanded node is a sequence exactly when the node stands for one. -/
lemma Expandable.isSequence_expanded {n : Node} (h : n.Expandable) :
    n.expanded.isSequence = n.resolved.isSequence := by
  induction h with
  | scalar line tag text => rfl
  | sequence _ | mapping _ _ _ => simp [expanded, resolved, isSequence]
  | reference _ ih => simpa only [expanded, resolved] using ih

/-! ### Sizes -/

lemma size_pos (n : Node) : 0 < n.size := by
  cases n with
  | reference line name target => cases target <;> simp [size]
  | scalar _ _ _ | sequence _ _ _ | mapping _ _ _ => simp [size]

/-- An item is no larger than the list. -/
lemma size_le_sizeList {n : Node} {ns : List Node} (h : n ∈ ns) : n.size ≤ sizeList ns := by
  induction ns with
  | nil => cases h
  | cons m ms ih =>
    rw [sizeList]
    rcases List.mem_cons.mp h with rfl | h
    · omega
    · have := ih h
      omega

lemma two_mul_length_le_sizePairs (es : List (Node × Node)) :
    2 * es.length ≤ sizePairs es := by
  induction es with
  | nil => simp
  | cons e es ih =>
    have hk := e.1.size_pos
    have hv := e.2.size_pos
    rw [sizePairs, List.length_cons]
    omega

/-- An entry is no larger than its mapping. -/
lemma size_add_size_le_sizePairs {e : Node × Node} {es : List (Node × Node)} (h : e ∈ es) :
    e.1.size + e.2.size ≤ sizePairs es := by
  induction es with
  | nil => cases h
  | cons d ds ih =>
    rw [sizePairs]
    rcases List.mem_cons.mp h with rfl | h
    · omega
    · have := ih h
      omega

/-- A value leaves room for its key and for the other entries of its mapping. -/
lemma size_add_length_le_sizePairs {e : Node × Node} {es : List (Node × Node)} (h : e ∈ es) :
    e.2.size + 2 * es.length ≤ sizePairs es + 1 := by
  induction es with
  | nil => cases h
  | cons d ds ih =>
    have hk := d.1.size_pos
    have hv := d.2.size_pos
    have hlength := two_mul_length_le_sizePairs ds
    rw [sizePairs, List.length_cons]
    rcases List.mem_cons.mp h with rfl | h
    · omega
    · have := ih h
      omega

/-- What lies inside a node is smaller, so that sizes can carry an induction. -/
lemma size_lt_of_contains {n m : Node} (h : n.Contains m) : m.size < n.size := by
  induction h with
  | value he =>
    have := size_add_length_le_sizePairs he
    have := List.length_pos_of_mem he
    rw [size]
    omega
  | item hm =>
    have := size_le_sizeList hm
    rw [size]
    omega
  | target => simp [size]
  | trans _ _ ih ih' => exact ih'.trans ih

end Node

/-! ### Nodes that fit -/

namespace Node

/-- A node can be expanded, and `p` excuses what may happen to it alone: that an alias of a sequence
in it is not merged, and that too much is read for aliases, in a key or elsewhere. -/
structure Fits (p : Failure → Prop) (n : Node) : Prop where
  expandable : n.Expandable
  unmerged : n.HasAliasedMerge → p .badMerge
  excessive : 500 < n.size → p .malformed
  badKey : p .malformed → p .badKey

structure EntryFits (p : Failure → Prop) (e : Node × Node) : Prop where
  plain : e.1.isReference = false
  key : e.1.Fits p
  value : e.2.Fits p
  unmerged : IsAliasedMerge e → p .badMerge

variable {p : Failure → Prop}

/-- The keys and values of a mapping that fits do so too. -/
lemma Fits.entries {line : Nat} {tag : Tag} {entries : List (Node × Node)}
    (h : Fits p (.mapping line tag entries)) : ∀ e ∈ entries, EntryFits p e := by
  intro e he
  obtain ⟨hplain, hkey, hvalue⟩ := Expandable.mapping_iff.mp h.expandable e he
  have hsize := size_add_size_le_sizePairs he
  have hexcessive := h.excessive
  rw [size] at hexcessive
  exact ⟨hplain, ⟨hkey, fun hm => h.unmerged (.key he hm), fun hmany => hexcessive (by omega),
      h.badKey⟩,
    ⟨hvalue, fun hm => h.unmerged (.value he hm), fun hmany => hexcessive (by omega),
      h.badKey⟩,
    fun hm => h.unmerged (.entry he hm)⟩

lemma Fits.items {line : Nat} {tag : Tag} {items : List Node}
    (h : Fits p (.sequence line tag items)) : ∀ n ∈ items, Fits p n := by
  intro n hn
  have hsize := size_le_sizeList hn
  have hexcessive := h.excessive
  rw [size] at hexcessive
  exact ⟨Expandable.sequence_iff.mp h.expandable n hn, fun hm => h.unmerged (.item hn hm),
    fun hmany => hexcessive (by omega),
      h.badKey⟩

lemma Fits.target {line : Nat} {name : Text} {n : Node}
    (h : Fits p (.reference line name (some n))) : Fits p n := by
  have hexcessive := h.excessive
  rw [size] at hexcessive
  exact ⟨Expandable.reference_iff.mp h.expandable, fun hm => h.unmerged (.target hm),
    fun hmany => hexcessive (by omega),
      h.badKey⟩

end Node

end Yaml

end CqlWriter
