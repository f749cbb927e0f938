import Mathlib
import CqlWriter.Proofs.Soundness

/-!
# What a walk meets

A place in a statement is given by the way down to it: at each node, the number of the child to go
to. A walk that goes on below a node only where it may meets the nodes at those places above which
it may go on everywhere, each place once. In the order of the walk a node comes before the nodes
below it, and the children of a node come in their order: the ways down are in lexicographic order.
-/

namespace CqlWriter

/-! ### Searching -/

namespace Tree

variable {α : Type}

mutual

lemma find_eq_filter_walk (wanted : α → Bool) :
    ∀ t : Tree α, t.find wanted = (t.walk fun _ => true).filter wanted
  | node a children => by
    rw [find, walk, if_pos rfl, List.filter_cons, findAll_eq_filter_walkAll wanted children]

lemma findAll_eq_filter_walkAll (wanted : α → Bool) :
    ∀ ts : List (Tree α), findAll wanted ts = (walkAll (fun _ => true) ts).filter wanted
  | [] => rfl
  | t :: ts => by
    rw [findAll, walkAll, List.filter_append, find_eq_filter_walk wanted t,
      findAll_eq_filter_walkAll wanted ts]

end

lemma walkAll_append (descend : α → Bool) (ts us : List (Tree α)) :
    walkAll descend (ts ++ us) = walkAll descend ts ++ walkAll descend us := by
  induction ts with
  | nil => rfl
  | cons t ts ih => simp [walkAll, ih]

lemma walkAll_flatMap {β : Type} (descend : α → Bool) (f : β → List (Tree α)) (xs : List β) :
    walkAll descend (xs.flatMap f) = xs.flatMap fun x => walkAll descend (f x) := by
  induction xs with
  | nil => rfl
  | cons x xs ih => simp [walkAll_append, ih]

end Tree

namespace Statement.Node

/-! ### One step of a walk -/

/-- An absent part has no tree and no children. -/
lemma forest_of_isHole {n : Statement.Node} (h : n.isHole = true) :
    n.forest = [] ∧ n.slots = [] := by
  unfold isHole at h
  split at h
  case h_6 => cases h
  all_goals exact ⟨rfl, rfl⟩

/-- Nothing is met where a part is absent. -/
lemma walk_of_isHole {n : Statement.Node} (h : n.isHole = true) (descend : Statement.Node → Bool) :
    n.walk descend = [] := by
  rw [walk, (forest_of_isHole h).1]
  rfl

/-- A walk meets the node itself, and then what walks from its children meet. -/
lemma walk_eq {n : Statement.Node} (h : n.isHole = false) (descend : Statement.Node → Bool) :
    n.walk descend = n :: if descend n then n.slots.flatMap (walk descend) else [] := by
  rw [walk, forest_eq h, Tree.walkAll, Tree.walk, Tree.walkAll_flatMap]
  exact List.append_nil _

/-- A full walk from a child is shorter than one from the node. -/
lemma length_walk_lt {n c : Statement.Node} (h : c ∈ n.slots) :
    (c.walk fun _ => true).length < (n.walk fun _ => true).length := by
  cases hn : n.isHole with
  | true =>
    rw [(forest_of_isHole hn).2] at h
    cases h
  | false =>
    rw [walk_eq hn, if_pos rfl, List.length_cons]
    have hpart := List.sublist_flatten_of_mem (List.mem_map_of_mem (f := walk fun _ => true) h)
    exact Nat.lt_succ_of_le hpart.length_le

/-- What holds of a node whenever it holds of all its children holds of every node. -/
lemma slots_induction {P : Statement.Node → Prop} (step : ∀ n, (∀ c ∈ n.slots, P c) → P n)
    (n : Statement.Node) : P n := by
  induction hlength : (n.walk fun _ => true).length using Nat.strongRecOn generalizing n with
  | ind k ih =>
    subst hlength
    apply step
    intro c hc
    exact ih _ (length_walk_lt hc) c rfl

/-! ### Places -/

/-- The node at a place, if one is there. -/
def at? : Statement.Node → List Nat → Option Statement.Node
  | n, [] => if n.isHole then none else some n
  | n, i :: path => n.slots[i]?.bind fun c => c.at? path

def above (n : Statement.Node) (path : List Nat) : List Statement.Node :=
  path.inits.dropLast.filterMap n.at?

/-- The node at a place is looked for below the child that the place starts with. -/
lemma at?_cons {n c : Statement.Node} {i : Nat} (h : n.slots[i]? = some c) (path : List Nat) :
    n.at? (i :: path) = c.at? path := by
  rw [at?, h, Option.bind_some]

lemma at?_of_isHole {n : Statement.Node} (h : n.isHole = true) (path : List Nat) :
    n.at? path = none := by
  cases path with
  | nil => simp [at?, h]
  | cons i path => simp [at?, (forest_of_isHole h).2]

@[simp] lemma above_nil (n : Statement.Node) : n.above [] = [] := rfl

lemma above_cons {n c : Statement.Node} {i : Nat} (hn : n.isHole = false)
    (hc : n.slots[i]? = some c) (path : List Nat) : n.above (i :: path) = n :: c.above path := by
  have hroot : n.at? [] = some n := by simp [at?, hn]
  have hbelow : n.at? ∘ List.cons i = c.at? := funext fun q => at?_cons hc q
  have hinits : path.inits.map (List.cons i) ≠ [] := by
    cases path <;> simp
  rw [above, List.inits, List.dropLast_cons_of_ne_nil hinits, List.filterMap_cons_some hroot,
    ← List.map_dropLast, List.filterMap_map, hbelow, above]

/-- The places below a node, from those in the trees of its children. -/
def placesBelow (places : Statement.Node → List (List Nat)) (cs : List Statement.Node) :
    List (List Nat) :=
  cs.zipIdx.flatMap fun c => (places c.1).map (List.cons c.2)

lemma mem_placesBelow {places : Statement.Node → List (List Nat)} {cs : List Statement.Node}
    {path : List Nat} :
    path ∈ placesBelow places cs ↔
      ∃ i c rest, cs[i]? = some c ∧ rest ∈ places c ∧ path = i :: rest := by
  simp only [placesBelow, List.mem_flatMap, List.mem_map, Prod.exists,
    List.mk_mem_zipIdx_iff_getElem?]
  constructor
  · rintro ⟨c, i, hc, rest, hrest, rfl⟩
    exact ⟨i, c, rest, hc, hrest, rfl⟩
  · rintro ⟨i, c, rest, hc, hrest, rfl⟩
    exact ⟨c, i, hc, rest, hrest, rfl⟩

/-- Places below a node are in order if those in each child are. -/
lemma pairwise_placesBelow {places : Statement.Node → List (List Nat)} {cs : List Statement.Node}
    (h : ∀ c ∈ cs, (places c).Pairwise (· < ·)) : (placesBelow places cs).Pairwise (· < ·) := by
  rw [placesBelow, List.pairwise_flatMap]
  refine ⟨?_, ?_⟩
  · intro c hc
    rw [List.pairwise_map]
    apply (h c.1 (List.fst_mem_of_mem_zipIdx hc)).imp
    intro p q hpq
    exact List.cons_lt_cons_iff.mpr (.inr ⟨rfl, hpq⟩)
  · -- the children are numbered in their order
    have hnumbers : (cs.zipIdx.map Prod.snd).Pairwise (· < ·) := by
      rw [List.zipIdx_map_snd]
      exact List.pairwise_lt_range'
    apply (List.pairwise_map.mp hnumbers).imp
    intro c d hcd p hp q hq
    obtain ⟨p, -, rfl⟩ := List.mem_map.mp hp
    obtain ⟨q, -, rfl⟩ := List.mem_map.mp hq
    exact List.cons_lt_cons_iff.mpr (.inl hcd)

/-- The list has all places of a node where something is, in the order of a walk. -/
structure ListsPlaces (n : Statement.Node) (places : List (List Nat)) : Prop where
  sorted : places.Pairwise (· < ·)
  mem_iff : ∀ path, path ∈ places ↔ (n.at? path).isSome

/-- The nodes at those of the given places above which `descend` holds everywhere. -/
def openTo (descend : Statement.Node → Bool) (n : Statement.Node) (places : List (List Nat)) :
    List Statement.Node :=
  (places.filter fun path => (n.above path).all descend).filterMap n.at?

lemma listsPlaces_cons {n : Statement.Node} (hn : n.isHole = false)
    {places : Statement.Node → List (List Nat)} (h : ∀ c ∈ n.slots, c.ListsPlaces (places c)) :
    n.ListsPlaces ([] :: placesBelow places n.slots) := by
  refine ⟨?_, ?_⟩
  · rw [List.pairwise_cons]
    refine ⟨?_, pairwise_placesBelow fun c hc => (h c hc).sorted⟩
    intro path hpath
    obtain ⟨i, c, rest, -, -, rfl⟩ := mem_placesBelow.mp hpath
    exact List.nil_lt_cons _ _
  · intro path
    rw [List.mem_cons, mem_placesBelow]
    cases path with
    | nil => simp [at?, hn]
    | cons i path =>
      rw [at?, Option.isSome_bind]
      constructor
      · rintro (hnil | ⟨j, c, rest, hc, hrest, heq⟩)
        · cases hnil
        · cases heq
          rw [hc]
          exact ((h c (List.mem_of_getElem? hc)).mem_iff path).mp hrest
      · intro hsome
        cases hc : n.slots[i]? with
        | none => simp [hc] at hsome
        | some c =>
          rw [hc] at hsome
          refine .inr ⟨i, c, path, hc, ?_, rfl⟩
          exact ((h c (List.mem_of_getElem? hc)).mem_iff path).mpr hsome

/-- Nothing below a node is open where the walk may not go on, and else what is open below the
children. -/
lemma openTo_cons {n c : Statement.Node} {i : Nat} (hn : n.isHole = false)
    (hc : n.slots[i]? = some c) (descend : Statement.Node → Bool) (places : List (List Nat)) :
    openTo descend n (places.map (List.cons i))
      = if descend n then openTo descend c places else [] := by
  have hbelow : n.at? ∘ List.cons i = c.at? := funext fun q => at?_cons hc q
  have hfilter : (fun path => (n.above path).all descend) ∘ List.cons i
      = fun path => descend n && (c.above path).all descend := by
    funext path
    simp [above_cons hn hc]
  rw [openTo, List.filter_map, List.filterMap_map, hbelow, hfilter]
  cases descend n <;> simp [openTo]

/-- The nodes below are those that a walk of the children meets, unless it does not descend. -/
lemma openTo_placesBelow {n : Statement.Node} (hn : n.isHole = false)
    (descend : Statement.Node → Bool) {places : Statement.Node → List (List Nat)}
    (h : ∀ c ∈ n.slots, c.walk descend = openTo descend c (places c)) :
    openTo descend n (placesBelow places n.slots)
      = if descend n then n.slots.flatMap (walk descend) else [] := by
  have hchild : ∀ c ∈ n.slots.zipIdx,
      openTo descend n ((places c.1).map (List.cons c.2))
        = if descend n then c.1.walk descend else [] := by
    intro c hc
    rw [openTo_cons hn (List.mk_mem_zipIdx_iff_getElem?.mp hc),
      h c.1 (List.fst_mem_of_mem_zipIdx hc)]
  rw [placesBelow, openTo, List.filter_flatMap, List.filterMap_flatMap]
  refine (List.flatMap_congr hchild).trans ?_
  cases descend n with
  | false => simp
  | true =>
    have hslots : n.slots.zipIdx.map Prod.fst = n.slots := List.zipIdx_map_fst _ _
    simp only [if_true]
    rw [← List.flatMap_map, hslots]

/-- A walk meets the nodes at the open places. -/
lemma exists_places (n : Statement.Node) :
    ∃ places, n.ListsPlaces places ∧ ∀ descend, n.walk descend = openTo descend n places := by
  induction n using slots_induction with
  | step n ih =>
    cases hn : n.isHole with
    | true =>
      refine ⟨[], ⟨.nil, ?_⟩, ?_⟩
      · intro path
        simp [at?_of_isHole hn]
      · intro descend
        exact walk_of_isHole hn descend
    | false =>
      choose! places hplaces hwalk using ih
      refine ⟨[] :: placesBelow places n.slots, listsPlaces_cons hn hplaces, ?_⟩
      intro descend
      have hroot : n.at? [] = some n := by simp [at?, hn]
      rw [walk_eq hn, ← openTo_placesBelow hn descend fun c hc => hwalk c hc descend]
      rw [openTo, openTo, List.filter_cons_of_pos rfl, List.filterMap_cons_some hroot]

/-- A walk that goes on below a node only where `descend` allows it meets the nodes at exactly those
places above which all nodes allow it. Each place is met once, a node before the nodes below it and
the children of a node in their order. A search is the full walk without the nodes of other
kinds. -/
theorem walk_pruned (root : Statement.Node) :
    ∃ places : List (List Nat), places.Pairwise (· < ·) ∧
      (∀ path, path ∈ places ↔ (root.at? path).isSome) ∧
      root.walk (fun _ => true) = places.filterMap root.at? ∧
      (∀ descend, root.walk descend
        = (places.filter fun path => (root.above path).all descend).filterMap root.at?) ∧
      ∀ kind, root.find kind = (root.walk fun _ => true).filter fun n => n.kind = kind := by
  obtain ⟨places, hplaces, hwalk⟩ := root.exists_places
  refine ⟨places, hplaces.sorted, hplaces.mem_iff, ?_, hwalk, ?_⟩
  · rw [hwalk, openTo, List.filter_eq_self.mpr (by simp)]
  · intro kind
    exact Tree.findAll_eq_filter_walkAll _ root.forest

end Statement.Node

end CqlWriter
