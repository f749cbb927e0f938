import Mathlib
import CqlWriter.Document.Operand
import CqlWriter.Proofs.Results

/-!
# What a reading gives

A reading is a computation that may fail and that keeps count of what it has read. What it gives
when it does not fail is told by postconditions, which are put together like the readings. With
them, the key and the value of an entry of a map literal are found to be parts of that entry, in
front of or behind any number of merges and aliases.
-/

namespace CqlWriter

namespace Yaml

/-! ### Postconditions -/

namespace Decode

variable {α β : Type} {m : Decode α} {P : α → Prop} {Q : β → Prop}

/-- Every value that a reading gives satisfies `post`, whatever was read before. -/
def Yields (m : Decode α) (post : α → Prop) : Prop :=
  ∀ d a d', StateT.run m d = .ok (a, d') → post a

namespace Yields

lemma pure {a : α} (h : P a) : Yields (Pure.pure a) P :=
  CqlWriter.Yields.pure h

lemma throw (failure : Failure) : Yields (throw failure : Decode α) P :=
  CqlWriter.Yields.throw failure

lemma bind {f : α → Decode β} (hm : m.Yields P) (hf : ∀ a, P a → (f a).Yields Q) :
    (m >>= f).Yields Q :=
  CqlWriter.Yields.bind hm hf

/-- What a reading gives after another one whose value does not matter. -/
lemma after {f : α → Decode β} (hf : ∀ a, (f a).Yields Q) : (m >>= f).Yields Q :=
  bind (P := fun _ => True) (fun _ _ _ _ => True.intro) fun a _ => hf a

lemma copying (hm : m.Yields P) : (copying m).Yields P :=
  after fun _ => bind hm fun _ ha => after fun _ => pure ha

/-- What a node stands for decides what is read of it. -/
lemma follow {read : Node → Decode α} {n : Node}
    (hread : (read n.resolved).Yields P) : (follow read n).Yields P := by
  fun_induction Decode.follow read n with
  | case1 line name target ih =>
    rw [Node.resolved] at hread
    exact after fun _ => copying (ih hread)
  | case2 => exact after fun _ => throw _
  | case3 n htarget _ =>
    rw [Node.resolved] at hread
    · exact after fun _ => hread
    · exact htarget

/-- An invariant of the steps holds at the end of a fold. -/
lemma foldlM {f : α → β → Decode α} {xs : List β} {a : α} (ha : P a)
    (hstep : ∀ x ∈ xs, ∀ b, P b → (f b x).Yields P) : (xs.foldlM f a).Yields P := by
  induction xs generalizing a with
  | nil => exact pure ha
  | cons x xs ih =>
    rw [List.foldlM_cons]
    refine bind (hstep x (by simp) a ha) fun b hb => ih hb ?_
    exact fun y hy => hstep y (by simp [hy])

/-- What no scalar is read as is read as nothing. -/
lemma nothing (wanted : Text) (n : Node) {P : Option α → Prop} (h : P none) :
    (Decode.scalar wanted (fun _ _ => none) n).Yields P := by
  cases n with
  | mapping line tag entries =>
    refine after fun repeated => ?_
    cases repeated with
    | true => exact pure h
    | false => exact after fun _ => pure h
  | scalar line tag text =>
    refine after fun value => ?_
    cases value with
    | null => exact pure h
    | bool _ | int _ | float _ | timestamp _ | text _ => exact after fun _ => pure h
  | sequence line tag items => exact after fun _ => pure h
  | reference line name target => exact pure h

/-- A reading that is run from the start gives what it always gives. -/
lemma run {a : α} (hm : m.Yields P) (hrun : m.run = .ok a) : P a := by
  unfold Decode.run at hrun
  split at hrun
  · rename_i b d hok
    split at hrun
    · cases hrun
      exact hm _ _ _ hok
    · cases hrun
  · cases hrun

end Yields

end Decode

/-! ### Nodes inside a node -/

namespace Node

/-- The second node lies inside the first one: it is reached by the values of entries, the items of
sequences and the targets of aliases. -/
inductive Contains : Node → Node → Prop
  | value {line : Nat} {tag : Tag} {entries : List (Node × Node)} {e : Node × Node} :
      e ∈ entries → Contains (.mapping line tag entries) e.2
  | item {line : Nat} {tag : Tag} {items : List Node} {n : Node} :
      n ∈ items → Contains (.sequence line tag items) n
  | target {line : Nat} {name : Text} {n : Node} : Contains (.reference line name (some n)) n
  | trans {n m k : Node} : Contains n m → Contains m k → Contains n k

lemma Contains.of_resolved {n m : Node} (h : n.resolved.Contains m) : n.Contains m := by
  fun_induction Node.resolved n with
  | case1 line name target ih => exact .trans .target (ih h)
  | case2 n hn => exact h

/-- What a node stands for. An alias stands for what its target stands for; every other node, and an
alias without a target, stands for itself. -/
inductive StandsFor : Node → Node → Prop
  | scalar (line : Nat) (tag : Tag) (text : Text) :
      StandsFor (.scalar line tag text) (.scalar line tag text)
  | sequence (line : Nat) (tag : Tag) (items : List Node) :
      StandsFor (.sequence line tag items) (.sequence line tag items)
  | mapping (line : Nat) (tag : Tag) (entries : List (Node × Node)) :
      StandsFor (.mapping line tag entries) (.mapping line tag entries)
  | reference {line : Nat} {name : Text} {n m : Node} :
      StandsFor n m → StandsFor (.reference line name (some n)) m
  | empty (line : Nat) (name : Text) :
      StandsFor (.reference line name none) (.reference line name none)

/-- What a node stands for is found by following aliases to their end. -/
lemma standsFor_iff {n m : Node} : n.StandsFor m ↔ n.resolved = m := by
  constructor
  · intro h
    induction h with
    | reference _ ih => rwa [resolved]
    | scalar _ _ _ | sequence _ _ _ | mapping _ _ _ | empty _ _ => simp [resolved]
  · rintro rfl
    fun_induction resolved n with
    | case1 line name target ih => exact .reference ih
    | case2 n hn =>
      cases n with
      | scalar line tag text => exact .scalar line tag text
      | sequence line tag items => exact .sequence line tag items
      | mapping line tag entries => exact .mapping line tag entries
      | reference line name target =>
        cases target with
        | none => exact .empty line name
        | some target => exact absurd rfl (hn line name target)

/-- Every alias in a node has a target. -/
inductive Acyclic : Node → Prop
  | scalar (line : Nat) (tag : Tag) (text : Text) : Acyclic (.scalar line tag text)
  | sequence {line : Nat} {tag : Tag} {items : List Node} :
      (∀ n ∈ items, Acyclic n) → Acyclic (.sequence line tag items)
  | mapping {line : Nat} {tag : Tag} {entries : List (Node × Node)} :
      (∀ e ∈ entries, Acyclic e.1) → (∀ e ∈ entries, Acyclic e.2) →
        Acyclic (.mapping line tag entries)
  | reference {line : Nat} {name : Text} {n : Node} :
      Acyclic n → Acyclic (.reference line name (some n))

namespace Acyclic

attribute [simp] scalar

@[simp] lemma sequence_iff {line : Nat} {tag : Tag} {items : List Node} :
    Acyclic (.sequence line tag items) ↔ ∀ n ∈ items, n.Acyclic := by
  constructor
  · rintro ⟨⟩
    assumption
  · exact sequence

@[simp] lemma mapping_iff {line : Nat} {tag : Tag} {entries : List (Node × Node)} :
    Acyclic (.mapping line tag entries) ↔ ∀ e ∈ entries, e.1.Acyclic ∧ e.2.Acyclic := by
  constructor
  · rintro ⟨⟩ e he
    rename_i hkeys hvalues
    exact ⟨hkeys e he, hvalues e he⟩
  · intro h
    exact mapping (fun e he => (h e he).1) fun e he => (h e he).2

@[simp] lemma reference_iff {line : Nat} {name : Text} {n : Node} :
    Acyclic (.reference line name (some n)) ↔ n.Acyclic := by
  constructor
  · rintro ⟨⟩
    assumption
  · exact reference

end Acyclic

/-- Whatever lies inside a node without cycles has none either. -/
lemma Acyclic.of_contains {n m : Node} (h : n.Contains m) (hn : n.Acyclic) : m.Acyclic := by
  induction h with
  | value he =>
    cases hn with
    | mapping _ hvalues => exact hvalues _ he
  | item hm =>
    cases hn with
    | sequence hitems => exact hitems _ hm
  | target =>
    cases hn with
    | reference htarget => exact htarget
  | trans _ _ ih ih' => exact ih' (ih hn)

/-- Without cycles the aliases lead to a node that is none. -/
lemma Acyclic.resolved_ne {n : Node} (h : n.Acyclic) (line : Nat) (name : Text)
    (target : Option Node) : n.resolved ≠ .reference line name target := by
  induction h with
  | reference _ ih => rwa [resolved]
  | scalar _ _ _ | sequence _ _ | mapping _ _ _ _ => simp [resolved]

end Node

/-! ### Filling a record -/

namespace Record

variable {α : Type} {r : Record α} {P : α → Prop}

/-- Putting in the value `v` keeps `P`, whichever field it is for. -/
def Keeps (r : Record α) (P : α → Prop) (v : Node) : Prop :=
  ∀ name put, r.fields.lookup name = some put → ∀ a, P a → (put v a).Yields P

/-- The record keeps `P` when an entry is put in, be it known or not. -/
lemma fillEntry_yields {f : Filling α} {e : Node × Node} (hput : r.Keeps P e.2)
    (hf : P f.value) : (r.fillEntry f e).Yields fun g => P g.value := by
  unfold fillEntry
  split
  · exact .pure hf
  · refine .after fun name => ?_
    cases name with
    | none => exact .pure hf
    | some name =>
      dsimp only
      split
      · exact .pure hf
      · unfold fillNamed
        dsimp only
        split
        · rename_i put hlookup
          split
          · exact .after fun _ => .pure hf
          · exact .bind (hput name put hlookup _ hf) fun a ha => .pure ha
        · split
          · exact .after fun _ => .pure hf
          · exact .pure hf

lemma fillMerge_skip {k : Node} (hk : ¬ k.isMerge = true) (entries : List (Node × Node)) (v : Node)
    (rest : List (Node × Node)) (keys : Option Keys) (a : α) :
    r.fillMerge entries ((k, v) :: rest) keys a = r.fillMerge entries rest keys a := by
  cases v <;> simp [fillMerge, hk]

/-- Filling a record from a node keeps what putting in the nodes inside it keeps. -/
lemma fill_yields (n : Node) (keys : Option Keys) (a : α) (hput : ∀ v, n.Contains v → r.Keeps P v)
    (ha : P a) : (r.fill n keys a).Yields fun p => P p.1 := by
  revert hput ha
  -- the recursion goes through the merges of a mapping and the items of a merged sequence
  refine fill.induct
    (fun n keys a => (∀ v, n.Contains v → r.Keeps P v) → P a →
      (r.fill n keys a).Yields fun p => P p.1)
    (fun entries rest keys a => (∀ e ∈ rest, ∀ v, e.2.Contains v → r.Keeps P v) → P a →
      (r.fillMerge entries rest keys a).Yields fun p => P p.1)
    (fun items keys a => (∀ n ∈ items, ∀ v, n.Contains v → r.Keeps P v) → P a →
      (r.fillAll items keys a).Yields fun p => P p.1)
    ?mapping ?target ?empty ?other ?allNil ?allCons ?mergeNil ?mergeItems ?skipItems ?mergeOne
    ?skipOne n keys a
  case mapping =>
    intro line tag entries keys a ih hput ha
    rw [fill]
    refine .after fun repeated => ?_
    split
    · exact .pure ha
    · refine .bind (P := fun f => P f.value) (.foldlM ha fun e he f hf => ?_) fun f hf => ?_
      · exact fillEntry_yields (hput _ (.value he)) hf
      · exact ih f (fun e he v hv => hput v (.trans (.value he) hv)) hf
  case target =>
    intro line name n keys a ih hput ha
    rw [fill]
    exact .copying (.after fun _ => ih (fun v hv => hput v (.trans .target hv)) ha)
  case empty =>
    intro line name keys a hput ha
    rw [fill]
    exact .throw _
  case other =>
    intro n keys a hmapping htarget hempty hput ha
    rw [fill]
    · exact .pure ha
    · exact hmapping
    · exact htarget
    · exact hempty
  case allNil =>
    intro keys a hput ha
    rw [fillAll]
    exact .pure ha
  case allCons =>
    intro n ns keys a ih ihAll hput ha
    rw [fillAll]
    refine .after fun _ => .bind (ih (hput n (by simp)) ha) fun p hp => ?_
    exact ihAll p.1 p.2 (fun m hm => hput m (by simp [hm])) hp
  case mergeNil =>
    intro entries keys a hput ha
    rw [fillMerge]
    exact .pure ha
  case mergeItems =>
    intro entries k line tag items rest keys a hmerge ih hput ha
    rw [fillMerge, if_pos hmerge]
    refine .after fun settled => .bind (ih settled (fun n hn v hv => ?_) ha) fun p hp => .pure hp
    exact hput (k, .sequence line tag items) (by simp) v (.trans (.item hn) hv)
  case skipItems =>
    intro entries k line tag items rest keys a hmerge ih hput ha
    rw [fillMerge_skip hmerge]
    exact ih (fun e he => hput e (by simp [he])) ha
  case mergeOne =>
    intro entries k v rest keys a hv hmerge ih hput ha
    rw [fillMerge, if_pos hmerge]
    · refine .after fun settled => .after fun _ => ?_
      exact .bind (ih settled (hput (k, v) (by simp)) ha) fun p hp => .pure hp
    · exact hv
  case skipOne =>
    intro entries k v rest keys a hv hmerge ih hput ha
    rw [fillMerge_skip hmerge]
    exact ih (fun e he => hput e (by simp [he])) ha

/-- A node that is read as a record gives one only if it is a mapping. -/
lemma decode_yields {initial : α} {n : Node} (hput : ∀ v, n.Contains v → r.Keeps P v)
    (hinitial : P initial) : (r.decode initial n).Yields fun o => ∀ a ∈ o, P a := by
  have hnothing := Decode.Yields.nothing r.typeName n (P := fun o => ∀ a ∈ o, P a) (by simp)
  cases n with
  | mapping line tag entries =>
    refine .bind (fill_yields _ none initial hput hinitial) fun p hp => .pure ?_
    simpa using hp
  | scalar _ _ _ | sequence _ _ _ | reference _ _ _ => exact hnothing

end Record

end Yaml

/-! ### Entries of map literals -/

namespace Document

open Yaml

/-- Both fields of an entry of a map literal take the node as it stands. -/
lemma mapEntryRecord_put {name : Text} {put : Node → MapEntry → Decode MapEntry}
    (h : mapEntryRecord.fields.lookup name = some put) :
    put = Field.raw (fun n e => { e with key := some n }) ∨
      put = Field.raw (fun n e => { e with value := some n }) := by
  simp only [mapEntryRecord, List.lookup] at h
  split at h
  · left
    exact (Option.some.inj h).symm
  · split at h
    · right
      exact (Option.some.inj h).symm
    · cases h

def MapEntry.Forall (p : Node → Prop) (e : MapEntry) : Prop :=
  (∀ k ∈ e.key, p k) ∧ ∀ v ∈ e.value, p v

/-- The key and the value of an entry of a map literal lie inside the entry. -/
lemma forall_contains_of_readMapEntry {n : Node} {e : MapEntry} (h : readMapEntry n = .ok e) :
    e.Forall n.Contains := by
  have hempty : MapEntry.Forall n.Contains {} := by simp [MapEntry.Forall]
  have hput : ∀ u, n.resolved.Contains u → mapEntryRecord.Keeps (MapEntry.Forall n.Contains) u := by
    intro u hu name put hlookup e he
    have hinside : n.Contains u := hu.of_resolved
    rcases mapEntryRecord_put hlookup with rfl | rfl
    · exact .after fun _ => .pure ⟨by simpa using hinside, he.2⟩
    · exact .after fun _ => .pure ⟨he.1, by simpa using hinside⟩
  have hread := Decode.Yields.follow (Record.decode_yields hput hempty)
  unfold readMapEntry at h
  cases hrun : (Decode.follow (mapEntryRecord.decode {}) n).run with
  | error failure =>
    rw [hrun] at h
    cases h
  | ok read =>
    rw [hrun] at h
    cases h
    have hread := hread.run hrun
    cases read with
    | none => exact hempty
    | some e => exact hread e rfl

end Document

end CqlWriter
