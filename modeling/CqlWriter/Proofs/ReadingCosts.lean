import Mathlib
import CqlWriter.Document.Entry
import CqlWriter.Proofs.AliasCounting
import CqlWriter.Proofs.ReadingFailures

/-!
# The cost of reading a document

A node is counted when it is read, and too many copies are refused only after a thousand nodes. A
record is read with at most two counts for each node, where an alias has the nodes of its target
too: the keys of a mapping are counted once more if it merges others. So a document of less than
five hundred nodes is never refused for its aliases. Nor does any reading of an orderly document end
but with a failure that can be reported.
-/

namespace CqlWriter

namespace Yaml

namespace Decode

variable {α β : Type} {c c' : Nat} {m : Decode α} {f : α → Decode β}

/-! ### Costs -/

/-- No more than `limit` nodes have been counted. If too many copies are refused, the limit was
above a thousand. -/
inductive Within (limit : Nat) : Except Failure (α × Decoding) → Prop
  | given {a : α} {d : Decoding} : d.nodes ≤ limit → Within limit (.ok (a, d))
  | failed {failure : Failure} : (failure = .malformed → 1000 < limit) →
      Within limit (.error failure)

def Takes (c : Nat) (m : Decode α) : Prop :=
  ∀ d, Within (d.nodes + c) (StateT.run m d)

lemma Within.mono {limit limit' : Nat} {r : Except Failure (α × Decoding)} (h : Within limit r)
    (hlimit : limit ≤ limit') : Within limit' r := by
  cases h with
  | given hnodes => exact .given (hnodes.trans hlimit)
  | failed hfailed => exact .failed fun hmalformed => (hfailed hmalformed).trans_le hlimit

namespace Takes

lemma mono (h : Takes c m) (hc : c ≤ c') : Takes c' m :=
  fun d => (h d).mono (by omega)

lemma pure (a : α) : Takes c (Pure.pure a) :=
  fun _ => .given (Nat.le_add_right _ _)

lemma throw {failure : Failure} (h : failure ≠ .malformed) :
    Takes c (throw failure : Decode α) :=
  fun _ => .failed fun hmalformed => absurd hmalformed h

lemma bind (hm : Takes c m) (hf : ∀ a, Takes c' (f a)) : Takes (c + c') (m >>= f) := by
  intro d
  have hfirst := hm d
  rw [StateT.run_bind]
  generalize StateT.run m d = r at hfirst
  cases hfirst with
  | @given a d' hnodes => exact (hf a d').mono (by omega)
  | failed hfailed => exact .failed fun hmalformed => (hfailed hmalformed).trans_le (by omega)

/-- A first reading that counts nothing. -/
lemma free_bind (hm : Takes 0 m) (hf : ∀ a, Takes c (f a)) : Takes c (m >>= f) :=
  (hm.bind hf).mono (by omega)

lemma note (misfit : Misfit) : Takes c (note misfit) :=
  fun _ => .given (Nat.le_add_right _ _)

lemma forM_note (misfits : List Misfit) : Takes 0 (misfits.forM Decode.note) := by
  induction misfits with
  | nil => exact pure ()
  | cons misfit misfits ih => exact free_bind (note misfit) fun _ => ih

lemma count : Takes 1 count := by
  intro d
  rw [run_count]
  split
  · rename_i hmany
    exact .failed fun _ => Decoding.lt_nodes_of_excessive hmany
  · exact .given le_rfl

/-- What is read for an alias is counted the same way. -/
lemma copying (h : Takes c m) : Takes c (copying m) := by
  intro d
  have hinside := h { d with depth := d.depth + 1 }
  rw [run_copying]
  generalize StateT.run m _ = r at hinside
  cases hinside with
  | given hnodes => exact .given hnodes
  | failed hfailed => exact .failed hfailed

/-- What the steps of a fold count is added up. -/
lemma foldlM {ι : Type} {f : α → ι → Decode α} {cost : ι → Nat} {xs : List ι}
    (h : ∀ x ∈ xs, ∀ a, Takes (cost x) (f a x)) (a : α) :
    Takes (xs.map cost).sum (xs.foldlM f a) := by
  induction xs generalizing a with
  | nil => exact pure a
  | cons x xs ih =>
    rw [List.foldlM_cons, List.map_cons, List.sum_cons]
    exact (h x (by simp) a).bind fun b => ih (fun y hy => h y (by simp [hy])) b

/-- A reading that counts few nodes is not refused for its aliases. -/
lemma lt_of_run (h : Takes c m) (hrun : m.run = .error .malformed) : 1000 < c := by
  have hwithin := h {}
  unfold Decode.run at hrun
  generalize StateT.run m {} = r at hwithin hrun
  cases hwithin with
  | given _ =>
    dsimp only at hrun
    split at hrun <;> cases hrun
  | failed hfailed =>
    cases hrun
    simpa using hfailed rfl

end Takes

/-! ### Scalars and keys -/

lemma noteRepeated_takes (entries : List (Node × Node)) : Takes 0 (noteRepeated entries) :=
  .free_bind (.forM_note _) fun _ => .pure _

lemma scalarValue_takes (tag : Tag) (text : Text) : Takes 0 (scalarValue tag text) := by
  unfold scalarValue
  split
  · exact .throw (by simp)
  · split
    · split
      · exact .pure _
      · exact .throw (by simp)
    · exact .pure _

lemma scalar_takes (wanted : Text) (read : ScalarReader α) (n : Node) :
    Takes 0 (scalar wanted read n) := by
  cases n with
  | reference line name target => exact .pure _
  | scalar line tag text =>
    refine .free_bind (scalarValue_takes tag text) fun v => ?_
    split
    · exact .pure _
    · split
      · exact .pure _
      · exact .free_bind (.note _) fun _ => .pure _
  | sequence line tag items => exact .free_bind (.note _) fun _ => .pure _
  | mapping line tag entries =>
    refine .free_bind (noteRepeated_takes entries) fun b => ?_
    cases b with
    | true => exact .pure _
    | false => exact .free_bind (.note _) fun _ => .pure _

/-- Following aliases counts each of them and the node that they stand for. -/
lemma follow_takes {read : Node → Decode α} {k : Nat} (hk : 1 ≤ k)
    (h : ∀ n : Node, Takes (k * n.size - 1) (read n)) (n : Node) :
    Takes (k * n.size) (follow read n) := by
  induction n using follow.induct with
  | case1 line name target ih =>
    rw [follow, Node.size]
    refine (Takes.bind .count fun _ => .copying ih).mono ?_
    rw [Nat.mul_add]
    omega
  | case2 line name =>
    rw [follow, Node.size]
    exact (Takes.bind .count fun _ => .throw (c := 0) (by simp)).mono (by omega)
  | case3 n htarget hempty =>
    have hpos : 1 ≤ k * n.size := Nat.mul_pos hk n.size_pos
    rw [follow]
    · exact (Takes.bind .count fun _ => h n).mono (by omega)
    all_goals assumption

/-- That a key cannot be read is told otherwise than that too much is copied. -/
lemma keyFailure_ne (type : Text) (m : Decode α) : keyFailure type m ≠ .malformed := by
  unfold keyFailure
  split
  · simp
  · assumption
  · simp

/-- A key beside a merge counts each alias of it and itself. -/
lemma readKey_takes (k : Node) : Takes k.size (readKey k) := by
  induction k using follow.induct with
  | case1 line name target ih =>
    rw [readKey, Node.size]
    exact (Takes.bind .count fun _ => .copying ih).mono (by omega)
  | case2 line name =>
    rw [readKey, Node.size]
    exact (Takes.bind .count fun _ => .throw (c := 0) (by simp)).mono (by omega)
  | case3 k htarget hempty =>
    have hpos := k.size_pos
    cases k with
    | scalar line tag text =>
      rw [readKey]
      exact (Takes.bind .count fun _ => .free_bind (scalarValue_takes tag text) fun _ =>
        .pure (c := 0) _).mono (by omega)
    | sequence line tag items =>
      rw [readKey]
      exact (Takes.bind .count fun _ => .throw (c := 0) (keyFailure_ne _ _)).mono (by omega)
    | mapping line tag entries =>
      rw [readKey]
      refine (Takes.bind .count fun _ => .free_bind (c := 0) (noteRepeated_takes entries)
        fun b => ?_).mono (by omega)
      cases b with
      | true => exact .pure _
      | false => exact .throw (keyFailure_ne _ _)
    | reference line name target =>
      cases target with
      | none => exact absurd rfl (hempty line name)
      | some n => exact absurd rfl (htarget line name n)

/-- Reading the keys of a mapping takes no more than the nodes in them. -/
lemma keysOf_takes (entries : List (Node × Node)) :
    Takes (entries.map fun e => e.1.size).sum (keysOf entries) := by
  induction entries with
  | nil =>
    rw [keysOf]
    exact .pure _
  | cons e rest ih =>
    rw [keysOf, List.map_cons, List.sum_cons]
    exact (readKey_takes e.1).bind fun key => (ih.bind fun keys => .pure (c := 0) _).mono (by omega)

end Decode

/-! ### Filling a record -/

namespace Record

open Decode

variable {α : Type} {r : Record α}

/-- Every field counts at most two for each node of its value. -/
def PutsCheaply (r : Record α) : Prop :=
  ∀ name put, r.fields.lookup name = some put → ∀ (v : Node) (a : α), Takes (2 * v.size) (put v a)

def ownCost (e : Node × Node) : Nat :=
  if e.1.isMerge then 0 else e.1.size + 2 * e.2.size

/-- What an entry counts if it is merged. -/
def mergeCost (e : Node × Node) : Nat :=
  if e.1.isMerge then 2 * e.2.size else 0

/-- The entries of a mapping cost twice their size at most, whether they are put in or merged. -/
lemma costs_le_sizePairs (es : List (Node × Node)) :
    (es.map ownCost).sum + ((es.map fun e => e.1.size).sum + (es.map mergeCost).sum)
      ≤ 2 * Node.sizePairs es := by
  induction es with
  | nil => simp
  | cons e es ih =>
    rw [List.map_cons, List.map_cons, List.map_cons, List.sum_cons, List.sum_cons, List.sum_cons,
      Node.sizePairs]
    have hentry : ownCost e + (e.1.size + mergeCost e) ≤ 2 * (e.1.size + e.2.size) := by
      unfold ownCost mergeCost
      split_ifs <;> omega
    omega

/-- An entry costs what it costs by itself. -/
lemma fillEntry_takes (hput : r.PutsCheaply) (f : Filling α) (e : Node × Node) :
    Takes (ownCost e) (r.fillEntry f e) := by
  unfold fillEntry ownCost
  split
  · exact .pure _
  · have hkey : Takes (1 * e.1.size) (follow text e.1) :=
      follow_takes le_rfl (fun k => (scalar_takes _ _ k).mono (Nat.zero_le _)) e.1
    refine (hkey.mono (by omega)).bind fun name => ?_
    cases name with
    | none => exact .pure _
    | some name =>
      dsimp only
      split
      · exact .pure _
      · unfold fillNamed
        dsimp only
        split
        · rename_i put hlookup
          split
          · exact .free_bind (.note _) fun _ => .pure _
          · have hvalue := hput name put hlookup e.2 f.value
            exact (hvalue.bind fun _ => .pure (c := 0) _).mono (by omega)
        · split
          · exact .free_bind (.note _) fun _ => .pure _
          · exact .pure _

lemma settledKeys_takes (entries : List (Node × Node)) (keys : Option Keys) :
    Takes (entries.map fun e => e.1.size).sum (settledKeys entries keys) := by
  cases keys with
  | none => exact keysOf_takes entries
  | some keys => exact .pure _

lemma countMerged_takes (n : Node) : Takes 1 (countMerged n) := by
  unfold countMerged
  split
  · exact .count
  · exact .count
  · exact .throw (by simp)

/-- The induction goes over nodes, merges and lists together. -/
lemma fill_takes_all (hput : r.PutsCheaply) :
    (∀ n keys a, Takes (2 * n.size - 1) (r.fill n keys a)) ∧
    (∀ entries rest keys a,
      Takes ((entries.map fun e => e.1.size).sum + (rest.map mergeCost).sum)
        (r.fillMerge entries rest keys a)) ∧
    ∀ items keys a, Takes (2 * Node.sizeList items) (r.fillAll items keys a) := by
  refine fill.mutual_induct _ _ _ ?mapping ?target ?empty ?other ?allNil ?allCons ?mergeNil
    ?mergeItems ?skipItems ?mergeOne ?skipOne
  case mapping =>
    intro line tag entries keys a ih
    have hcosts := costs_le_sizePairs entries
    rw [fill, Node.size]
    refine .free_bind (noteRepeated_takes entries) fun b => ?_
    cases b with
    | true => exact .pure _
    | false =>
      refine (Takes.bind (.foldlM (fun e _ f => fillEntry_takes hput f e) _) fun f => ih f).mono ?_
      omega
  case target =>
    intro line name n keys a ih
    have hpos := n.size_pos
    rw [fill, Node.size]
    exact (Takes.copying (.bind .count fun _ => ih)).mono (by omega)
  case empty =>
    intro line name keys a
    rw [fill]
    exact .throw (by simp)
  case other =>
    intro n keys a hmapping htarget hempty
    rw [fill]
    · exact .pure _
    all_goals assumption
  case allNil =>
    intro keys a
    rw [fillAll]
    exact .pure _
  case allCons =>
    intro n ns keys a ih ihAll
    have hpos := n.size_pos
    rw [fillAll, Node.sizeList]
    exact ((countMerged_takes n).bind fun _ => ih.bind fun x => ihAll x.1 x.2).mono (by omega)
  case mergeNil =>
    intro entries keys a
    rw [fillMerge]
    exact .pure _
  case mergeItems =>
    intro entries k line tag items rest keys a hmerge ih
    rw [fillMerge, if_pos hmerge, List.map_cons, List.sum_cons, mergeCost, if_pos hmerge, Node.size]
    refine ((settledKeys_takes entries keys).bind fun settled => (ih settled).bind fun x =>
      .pure (c := 0) _).mono ?_
    omega
  case mergeOne =>
    intro entries k v rest keys a hv hmerge ih
    have hpos := v.size_pos
    have hcost : mergeCost (k, v) = 2 * v.size := if_pos hmerge
    rw [fillMerge_one hmerge hv, List.map_cons, List.sum_cons, hcost]
    refine ((settledKeys_takes entries keys).bind fun settled => (countMerged_takes v).bind fun _ =>
      (ih settled).bind fun x => .pure (c := 0) _).mono ?_
    omega
  case skipItems =>
    intro entries k line tag items rest keys a hmerge ih
    rw [fillMerge_skip hmerge, List.map_cons, List.sum_cons]
    exact ih.mono (by omega)
  case skipOne =>
    intro entries k v rest keys a hv hmerge ih
    rw [fillMerge_skip hmerge, List.map_cons, List.sum_cons]
    exact ih.mono (by omega)

lemma decode_takes (hput : r.PutsCheaply) (a : α) (n : Node) :
    Takes (2 * n.size - 1) (r.decode a n) := by
  have hscalar : Takes (2 * n.size - 1) (scalar r.typeName (fun _ _ => (none : Option α)) n) :=
    (scalar_takes _ _ n).mono (Nat.zero_le _)
  cases n with
  | mapping line tag entries =>
    exact (((fill_takes_all hput).1 _ none a).bind fun x => .pure (c := 0) _).mono (by omega)
  | scalar _ _ _ | sequence _ _ _ | reference _ _ _ => exact hscalar

end Record

/-! ### Readers -/

namespace Decode

variable {α β : Type} {p q : Prop}

/-- A reader goes in lockstep with itself, counts less than two for each node, and ends at an
orderly node with no failure but one that can be reported. -/
structure Tame (read : Node → Decode α) : Prop where
  steady : ∀ {p q : Prop} (n : Node), (p → n.Aliasless) → Lockstep p q Eq (read n) (read n)
  cheap : ∀ n : Node, Takes (2 * n.size - 1) (read n)
  reported : ∀ n : Node, n.Orderly → (read n).FailsOnly Failure.Reported

namespace Tame

lemma scalar {wanted : Text} {reader : Node → ScalarReader α} :
    Tame fun n => Decode.scalar wanted (reader n) n :=
  ⟨fun n _ => scalar_lockstep _ _ n, fun n => (scalar_takes _ _ n).mono (Nat.zero_le _),
    fun n _ => .scalar Failure.reported_of_plain _ _ n⟩

/-- An alias is followed at the cost of one more node. -/
lemma follow_cheap {read : Node → Decode α} (h : Tame read) (n : Node) :
    Takes (2 * n.size) (follow read n) :=
  follow_takes (by omega) h.cheap n

/-- What a node stands for is read in lockstep too. -/
lemma follow_steady {read : Node → Decode α} (h : Tame read) {n : Node} (hn : p → n.Aliasless) :
    Lockstep p q Eq (follow read n) (follow read n) :=
  follow_lockstep hn fun k hk => h.steady k hk

lemma follow_reported {read : Node → Decode α} (h : Tame read) {n : Node} (hn : n.Orderly) :
    (follow read n).FailsOnly Failure.Reported :=
  .follow Failure.reported_of_plain hn.acyclic (h.reported _ hn.resolved)

lemma mapM_steady {read : Node → Decode α} {items : List Node}
    (h : ∀ n ∈ items, Lockstep p q Eq (read n) (read n)) :
    Lockstep p q Eq (items.mapM read) (items.mapM read) := by
  induction items with
  | nil => exact .pure rfl
  | cons n items ih =>
    rw [List.mapM_cons]
    refine .bind_same (h n (by simp)) fun a => ?_
    exact .bind_same (ih fun m hm => h m (by simp [hm])) fun _ => .pure rfl

/-- The items of a list cost no more than twice the list. -/
lemma mapM_cheap {read : Node → Decode α} (h : ∀ n : Node, Takes (2 * n.size) (read n))
    (items : List Node) : Takes (2 * Node.sizeList items) (items.mapM read) := by
  induction items with
  | nil => exact .pure _
  | cons n items ih =>
    rw [List.mapM_cons, Node.sizeList]
    exact ((h n).bind fun a => ih.bind fun _ => .pure (c := 0) _).mono (by omega)

/-- A list is read by a tame reader if its items are. -/
lemma items {wanted : Text} {read : Node → Decode (Option α)}
    (hsteady : ∀ {p q : Prop} (n : Node), (p → n.Aliasless) → Lockstep p q Eq (read n) (read n))
    (hcheap : ∀ n : Node, Takes (2 * n.size) (read n))
    (hreported : ∀ n : Node, n.Orderly → (read n).FailsOnly Failure.Reported) :
    Tame (items wanted read) := by
  have hscalar : Tame fun n =>
      Decode.scalar ("[]" ++ wanted) (fun _ _ => (none : Option (List α))) n := .scalar
  refine ⟨fun {p q} n hn => ?_, fun n => ?_, fun n hn => ?_⟩
  · have hother : Lockstep p q Eq _ _ := hscalar.steady n hn
    cases n with
    | sequence line tag items =>
      exact .bind_same (mapM_steady fun m hm => hsteady m fun hp => (hn hp).items m hm)
        fun _ => .pure rfl
    | scalar _ _ _ | mapping _ _ _ | reference _ _ _ => exact hother
  · have hother := hscalar.cheap n
    cases n with
    | sequence line tag items =>
      rw [Node.size]
      exact ((mapM_cheap hcheap items).bind fun _ => .pure (c := 0) _).mono (by omega)
    | scalar _ _ _ | mapping _ _ _ | reference _ _ _ => exact hother
  · have hother := hscalar.reported n hn
    cases hn with
    | sequence hitems => exact .bind (.mapM fun m hm => hreported m (hitems m hm)) fun _ => .pure _
    | scalar _ _ _ | mapping _ _ _ | reference _ => exact hother

lemma list {wanted : Text} {read : Node → Decode (Option α)} (h : Tame read) :
    Tame (list wanted read) :=
  items (fun _ hn => h.follow_steady hn) h.follow_cheap fun _ hn => h.follow_reported hn

lemma optional {wanted : Text} {read : Node → Decode (Option α)} (h : Tame read) :
    Tame (optional wanted read) := by
  refine ⟨fun n hn => ?_, fun n => ?_, fun n hn => ?_⟩
  · unfold Decode.optional
    split
    · exact .bind_same (.note _) fun _ => .pure rfl
    · refine .bind_same (noteRepeated_lockstep _) fun b => ?_
      cases b with
      | true => exact .pure rfl
      | false => exact .bind_same (.note _) fun _ => .pure rfl
    · exact h.steady n hn
  · unfold Decode.optional
    split
    · exact .free_bind (.note _) fun _ => .pure _
    · refine .free_bind (noteRepeated_takes _) fun b => ?_
      cases b with
      | true => exact .pure _
      | false => exact .free_bind (.note _) fun _ => .pure _
    · exact h.cheap n
  · unfold Decode.optional
    split
    · exact .bind (.modify _) fun _ => .pure _
    · refine .bind (.noteRepeated _) fun b => ?_
      cases b with
      | true => exact .pure _
      | false => exact .bind (.modify _) fun _ => .pure _
    · exact h.reported n hn

end Tame

end Decode

namespace Record

open Decode

variable {α : Type} {r : Record α} {p q : Prop}

/-- Every field is read by a tame reader. -/
def Tame (r : Record α) : Prop :=
  ∀ e ∈ r.fields, ∃ (β : Type) (read : Node → Decode (Option β)) (set : β → α → α),
    Decode.Tame read ∧ e.2 = Field.of read set

lemma mem_fields {name : Text} {put : Node → α → Decode α}
    (h : r.fields.lookup name = some put) : (name, put) ∈ r.fields := by
  obtain ⟨front, back, hfields, -⟩ := List.lookup_eq_some_iff.mp h
  simp [hfields]

/-- A field is read by a tame reader and then set. -/
lemma Tame.lookup (h : r.Tame) {name : Text} {put : Node → α → Decode α}
    (hname : r.fields.lookup name = some put) :
    ∃ (β : Type) (read : Node → Decode (Option β)) (set : β → α → α),
      Decode.Tame read ∧ put = Field.of read set :=
  h (name, put) (mem_fields hname)

/-- A tame record is filled in lockstep with itself. -/
lemma Tame.putsSame (h : r.Tame) : r.PutsAlike p q Eq [] := by
  intro name put _ hname v hv a a' ha
  obtain ⟨β, read, set, hread, rfl⟩ := h.lookup hname
  refine Field.of_lockstep hread.steady (fun b a a' haa' => ?_) hv ha
  rw [haa']

/-- A tame record is filled cheaply. -/
lemma Tame.putsCheaply (h : r.Tame) : r.PutsCheaply := by
  intro name put hname v a
  obtain ⟨β, read, set, hread, rfl⟩ := h.lookup hname
  refine ((hread.follow_cheap v).bind fun o => ?_ : Takes (2 * v.size + 0) _)
  cases o <;> exact .pure _

/-- A tame record fails at an orderly node only with what can be reported. -/
lemma Tame.fillsOnly (h : r.Tame) {n : Node} (hn : n.Orderly) :
    r.FillsOnly Failure.Reported n := by
  refine ⟨hn.acyclic, hn.mergesOnly, fun v hv name put hname a => ?_⟩
  obtain ⟨β, read, set, hread, rfl⟩ := h.lookup hname
  refine .bind (hread.follow_reported (hn.of_contains hv)) fun o => ?_
  cases o <;> exact .pure _

/-- A record whose fields are read by tame readers is read by one. -/
lemma Tame.decode (h : r.Tame) (a : α) : Decode.Tame (r.decode a) :=
  ⟨fun _ hn => decode_lockstep h.putsSame a hn, decode_takes h.putsCheaply a,
    fun _ hn => decode_failsOnly Failure.reported_of_plain a (h.fillsOnly hn)⟩

end Record

end Yaml

namespace Document

open Yaml Yaml.Decode

lemma text_tame : Tame Decode.text :=
  .scalar

lemma flag_tame : Tame Decode.flag :=
  .scalar

lemma word_tame : Tame Decode.word :=
  .scalar

lemma texts_tame : Tame texts :=
  .list text_tame

lemma columnRecord_tame : columnRecord.Tame := by
  simp only [Record.Tame, columnRecord, List.forall_mem_cons]
  exact ⟨⟨_, _, _, text_tame, rfl⟩, ⟨_, _, _, text_tame, rfl⟩, ⟨_, _, _, texts_tame, rfl⟩,
    ⟨_, _, _, flag_tame, rfl⟩, ⟨_, _, _, flag_tame, rfl⟩, ⟨_, _, _, flag_tame, rfl⟩, by simp⟩

lemma renameRecord_tame : renameRecord.Tame := by
  simp only [Record.Tame, renameRecord, List.forall_mem_cons]
  exact ⟨⟨_, _, _, text_tame, rfl⟩, ⟨_, _, _, text_tame, rfl⟩, by simp⟩

lemma propertyRecord_tame : propertyRecord.Tame := by
  simp only [Record.Tame, propertyRecord, List.forall_mem_cons]
  exact ⟨⟨_, _, _, text_tame, rfl⟩, ⟨_, _, _, text_tame, rfl⟩, by simp⟩

lemma orderRecord_tame : orderRecord.Tame := by
  simp only [Record.Tame, orderRecord, List.forall_mem_cons]
  exact ⟨⟨_, _, _, text_tame, rfl⟩, ⟨_, _, _, flag_tame, rfl⟩, by simp⟩

lemma withRecord_tame : withRecord.Tame := by
  simp only [Record.Tame, withRecord, List.forall_mem_cons]
  exact ⟨⟨_, _, _, .optional (propertyRecord_tame.decode {}), rfl⟩,
    ⟨_, _, _, .list (orderRecord_tame.decode {}), rfl⟩, ⟨_, _, _, .optional text_tame, rfl⟩,
    ⟨_, _, _, flag_tame, rfl⟩, by simp⟩

lemma alterTableRecord_tame : alterTableRecord.Tame := by
  simp only [Record.Tame, alterTableRecord, List.forall_mem_cons]
  exact ⟨⟨_, _, _, text_tame, rfl⟩, ⟨_, _, _, .list (columnRecord_tame.decode {}), rfl⟩,
    ⟨_, _, _, texts_tame, rfl⟩, ⟨_, _, _, flag_tame, rfl⟩,
    ⟨_, _, _, .optional (renameRecord_tame.decode {}), rfl⟩,
    ⟨_, _, _, .list (withRecord_tame.decode {}), rfl⟩, by simp⟩

lemma indexColumnRecord_tame : indexColumnRecord.Tame := by
  simp only [Record.Tame, indexColumnRecord, List.forall_mem_cons]
  exact ⟨⟨_, _, _, text_tame, rfl⟩, ⟨_, _, _, text_tame, rfl⟩, by simp⟩

/-- A column of an index is read by hand, with failures of its own. -/
lemma indexColumn_tame : Tame indexColumn := by
  have hrecord := indexColumnRecord_tame.decode {}
  refine ⟨fun n hn => ?_, fun n => ?_, fun n hn => ?_⟩
  · unfold indexColumn
    split
    · exact .pure rfl
    · exact hrecord.steady _ hn
    · exact hrecord.steady _ hn
    · exact hrecord.steady _ hn
    · exact .pure rfl
    · split
      · exact .pure rfl
      · exact .throw _
    · exact .throw _
  · unfold indexColumn
    split
    · exact .pure _
    · exact hrecord.cheap _
    · exact hrecord.cheap _
    · exact hrecord.cheap _
    · exact .pure _
    · split
      · exact .pure _
      · exact .throw (by simp)
    · exact .throw (by simp)
  · unfold indexColumn
    split
    · exact .pure _
    · exact hrecord.reported _ hn
    · exact hrecord.reported _ hn
    · exact hrecord.reported _ hn
    · exact .pure _
    · split
      · exact .pure _
      · exact .throw rfl
    · exact .throw rfl

lemma createIndexRecord_tame : createIndexRecord.Tame := by
  simp only [Record.Tame, createIndexRecord, List.forall_mem_cons]
  exact ⟨⟨_, _, _, flag_tame, rfl⟩, ⟨_, _, _, text_tame, rfl⟩, ⟨_, _, _, text_tame, rfl⟩,
    ⟨_, _, _, indexColumn_tame, rfl⟩, by simp⟩

lemma batchRecord_tame : batchRecord.Tame := by
  simp only [Record.Tame, batchRecord, List.forall_mem_cons]
  exact ⟨⟨_, _, _, text_tame, rfl⟩, ⟨_, _, _, .optional word_tame, rfl⟩, by simp⟩

/-- The operands of a statement are counted and taken as they stand. -/
lemma operands_tame : Tame (Decode.items "yaml.Node" Decode.raw) := by
  refine .items (fun n _ => .bind_same .count fun _ => .pure rfl) (fun n => ?_) fun n _ => ?_
  · have hpos := n.size_pos
    exact (Takes.bind .count fun _ => .pure (c := 0) _).mono (by omega)
  · exact .bind (.count Failure.reported_of_plain) fun _ => .pure _

lemma insertRecord_tame : insertRecord.Tame := by
  simp only [Record.Tame, insertRecord, List.forall_mem_cons]
  exact ⟨⟨_, _, _, .optional (batchRecord_tame.decode {}), rfl⟩, ⟨_, _, _, text_tame, rfl⟩,
    ⟨_, _, _, texts_tame, rfl⟩, ⟨_, _, _, operands_tame, rfl⟩,
    ⟨_, _, _, .optional text_tame, rfl⟩, ⟨_, _, _, .optional word_tame, rfl⟩,
    ⟨_, _, _, .optional word_tame, rfl⟩, ⟨_, _, _, flag_tame, rfl⟩, by simp⟩

lemma statementRecord_tame : statementRecord.Tame := by
  simp only [Record.Tame, statementRecord, List.forall_mem_cons]
  exact ⟨⟨_, _, _, .optional (alterTableRecord_tame.decode {}), rfl⟩,
    ⟨_, _, _, .optional (createIndexRecord_tame.decode {}), rfl⟩,
    ⟨_, _, _, .optional (insertRecord_tame.decode {}), rfl⟩, by simp⟩

/-- The whole document is read by tame readers. -/
lemma documentRecord_tame : documentRecord.Tame := by
  simp only [Record.Tame, documentRecord, List.forall_mem_cons]
  exact ⟨⟨_, _, _, .list (statementRecord_tame.decode {}), rfl⟩, by simp⟩

/-- A document that is refused for its aliases has five hundred nodes at least. -/
lemma le_size_of_run {root : Node}
    (h : (Decode.document (documentRecord.decode []) root).run = .error .malformed) :
    500 ≤ root.size := by
  have htakes : Takes (1 + 2 * root.size) (Decode.document (documentRecord.decode []) root) :=
    .bind .count fun _ => (documentRecord_tame.decode []).follow_cheap root
  have hmany := htakes.lt_of_run h
  omega

end Document

end CqlWriter
