import Mathlib
import CqlWriter.Proofs.ExpandedNodes

/-!
# Reading without aliases

The same record is read from a node and from the expanded node. There are two differences. What is
read for an alias is counted, and a reading that counts too much ends at once; a tree of at most
five hundred nodes never gets there. And a sequence of mappings can be merged, but an alias of one
cannot.
-/

namespace CqlWriter

namespace Yaml

/-! ### Two readings side by side -/

/-- A state of reading beside the state of the same reading without aliases: the misfits are the
same, and the second has read nothing for an alias. -/
structure Decoding.Beside (d d' : Decoding) : Prop where
  misfits : d.misfits = d'.misfits
  copies : d'.copies = 0
  depth : d'.depth = 0

def Decoding.counted (d : Decoding) : Decoding :=
  { d with nodes := d.nodes + 1, copies := if 0 < d.depth then d.copies + 1 else d.copies }

/-- Reading is excessive only after more than a thousand nodes. -/
lemma Decoding.lt_nodes_of_excessive {d : Decoding} (h : d.excessive = true) : 1000 < d.nodes := by
  simp only [excessive, Bool.and_eq_true, decide_eq_true_eq] at h
  exact h.1.2

/-- A reading without aliases never reads too much for them. -/
lemma Decoding.Beside.excessive_counted {d d' : Decoding} (h : d.Beside d') :
    d'.counted.excessive = false := by
  simp [excessive, counted, h.copies, h.depth]

/-- The reading with aliases may count a node alone. -/
lemma Decoding.Beside.counted_left {d d' : Decoding} (h : d.Beside d') : d.counted.Beside d' :=
  ⟨h.misfits, h.copies, h.depth⟩

lemma Decoding.Beside.counted {d d' : Decoding} (h : d.Beside d') :
    d.counted.Beside d'.counted :=
  ⟨h.misfits, by simp [Decoding.counted, h.copies, h.depth], h.depth⟩

namespace Decode

variable {α β γ δ : Type} {p : Failure → Prop} {R : α → β → Prop} {S : γ → δ → Prop} {c c' : Nat}
  {m : Decode α} {m' : Decode β}

/-- How two readings end, of which the first may read up to `limit` nodes: both give values that
are related, both fail alike, the first has read too much for aliases, which takes more than a
thousand nodes, or it fails alone as `p` excuses it. -/
inductive Ends (p : Failure → Prop) (R : α → β → Prop) (limit : Nat) :
    Except Failure (α × Decoding) → Except Failure (β × Decoding) → Prop
  | given {a : α} {b : β} {d d' : Decoding} :
      R a b → d.Beside d' → d.nodes ≤ limit → Ends p R limit (.ok (a, d)) (.ok (b, d'))
  | failed (failure : Failure) : Ends p R limit (.error failure) (.error failure)
  | excessive (result : Except Failure (β × Decoding)) :
      1000 < limit → Ends p R limit (.error .malformed) result
  | excused (result : Except Failure (β × Decoding)) {failure : Failure} :
      p failure → Ends p R limit (.error failure) result

/-- The second reading does without aliases what the first one does with them; the first reads at
most `c` nodes. -/
def Simulates (p : Failure → Prop) (R : α → β → Prop) (c : Nat) (m : Decode α) (m' : Decode β) :
    Prop :=
  ∀ d d', d.Beside d' → Ends p R (d.nodes + c) (StateT.run m d) (StateT.run m' d')

lemma Ends.mono {limit limit' : Nat} {r : Except Failure (α × Decoding)}
    {r' : Except Failure (β × Decoding)} (h : Ends p R limit r r') (hlimit : limit ≤ limit') :
    Ends p R limit' r r' := by
  cases h with
  | given hab hd hnodes => exact .given hab hd (hnodes.trans hlimit)
  | failed failure => exact .failed failure
  | excessive _ hmany => exact .excessive _ (by omega)
  | excused _ hp => exact .excused _ hp

/-- Ends of readings compose, and the limits add up. -/
lemma Ends.bind {limit : Nat} {r : Except Failure (α × Decoding)}
    {r' : Except Failure (β × Decoding)} {f : α → Decode γ} {f' : β → Decode δ}
    (h : Ends p R limit r r') (hf : ∀ a b, R a b → Simulates p S c (f a) (f' b)) :
    Ends p S (limit + c) (r >>= fun p => StateT.run (f p.1) p.2)
      (r' >>= fun p => StateT.run (f' p.1) p.2) := by
  cases h with
  | given hab hd hnodes => exact (hf _ _ hab _ _ hd).mono (by omega)
  | failed failure => exact .failed failure
  | excessive _ hmany => exact .excessive _ (by omega)
  | excused _ hp => exact .excused _ hp

/-- Counting a node fails exactly when too much has been read for aliases by then. -/
lemma run_count (d : Decoding) :
    StateT.run count d =
      if d.counted.excessive then .error .malformed else .ok ((), d.counted) := by
  have hrun : StateT.run count d =
      StateT.run (if d.counted.excessive then throw .malformed else pure () : Decode Unit)
        d.counted := rfl
  rw [hrun]
  split <;> rfl

lemma run_copying (m : Decode α) (d : Decoding) :
    StateT.run (copying m) d =
      StateT.run m { d with depth := d.depth + 1 } >>= fun p =>
        .ok (p.1, { p.2 with depth := p.2.depth - 1 }) := rfl

namespace Simulates

lemma mono (h : Simulates p R c m m') (hcost : c ≤ c') : Simulates p R c' m m' :=
  fun d d' hd => (h d d' hd).mono (by omega)

lemma pure {a : α} {b : β} (h : R a b) : Simulates p R c (Pure.pure a) (Pure.pure b) :=
  fun _ _ hd => .given h hd (Nat.le_add_right _ _)

lemma throw (failure : Failure) : Simulates p R c (throw failure) (throw failure) :=
  fun _ _ _ => .failed failure

lemma bind {f : α → Decode γ} {f' : β → Decode δ} (hm : Simulates p R c m m')
    (hf : ∀ a b, R a b → Simulates p S c' (f a) (f' b)) :
    Simulates p S (c + c') (m >>= f) (m' >>= f') := by
  intro d d' hd
  rw [StateT.run_bind, StateT.run_bind, ← Nat.add_assoc]
  exact (hm d d' hd).bind hf

/-- A first reading that reads no nodes costs nothing. -/
lemma free_bind {f : α → Decode γ} {f' : β → Decode δ} (hm : Simulates p R 0 m m')
    (hf : ∀ a b, R a b → Simulates p S c (f a) (f' b)) : Simulates p S c (m >>= f) (m' >>= f') :=
  (hm.bind hf).mono (Nat.zero_add c).le

/-- A second reading that reads no nodes costs nothing. -/
lemma bind_free {f : α → Decode γ} {f' : β → Decode δ} (hm : Simulates p R c m m')
    (hf : ∀ a b, R a b → Simulates p S 0 (f a) (f' b)) : Simulates p S c (m >>= f) (m' >>= f') :=
  hm.bind hf

lemma bind_pure {f : α → γ} {f' : β → δ} (hm : Simulates p R c m m')
    (hf : ∀ a b, R a b → S (f a) (f' b)) :
    Simulates p S c (m >>= fun a => Pure.pure (f a)) (m' >>= fun b => Pure.pure (f' b)) :=
  hm.bind_free fun a b hab => pure (hf a b hab)

lemma note (misfit : Misfit) : Simulates p Eq c (note misfit) (note misfit) := by
  intro d d' hd
  exact .given rfl ⟨by simp [hd.misfits], hd.copies, hd.depth⟩ (Nat.le_add_right _ _)

lemma count : Simulates p Eq 1 count count := by
  intro d d' hd
  rw [run_count, run_count, hd.excessive_counted, if_neg Bool.false_ne_true]
  split_ifs with hmany
  · exact .excessive _ (Decoding.lt_nodes_of_excessive hmany)
  · exact .given rfl hd.counted le_rfl

/-- An alias is counted besides the node that it stands for. -/
lemma count_left (h : Simulates p R c m m') : Simulates p R (c + 1) (do Decode.count; m) m' := by
  intro d d' hd
  have hnodes : d.counted.nodes + c = d.nodes + (c + 1) := by
    simp only [Decoding.counted]
    omega
  rw [StateT.run_bind, run_count, ← hnodes]
  split_ifs with hmany
  · have := Decoding.lt_nodes_of_excessive hmany
    exact .excessive _ (by omega)
  · exact h _ _ hd.counted_left

/-- What is read for an alias may be read directly without it. -/
lemma copying_left (h : Simulates p R c m m') : Simulates p R c (copying m) m' := by
  intro d d' hd
  have hm := h { d with depth := d.depth + 1 } d' ⟨hd.misfits, hd.copies, hd.depth⟩
  rw [run_copying]
  generalize StateT.run m _ = r, StateT.run m' d' = r' at hm
  cases hm with
  | given hab he hnodes => exact .given hab ⟨he.misfits, he.copies, he.depth⟩ hnodes
  | failed failure => exact .failed failure
  | excessive _ hmany => exact .excessive _ hmany
  | excused _ hp => exact .excused _ hp

lemma forM_note (misfits : List Misfit) :
    Simulates p Eq c (misfits.forM Decode.note) (misfits.forM Decode.note) := by
  induction misfits with
  | nil => exact pure rfl
  | cons misfit misfits ih =>
    exact free_bind (note misfit) fun _ _ _ => ih

/-- Readings that are run from the start end alike, unless the first one reads too much for aliases
or fails as `p` excuses it. -/
lemma run (h : Simulates p R c m m') :
    (∃ a b, R a b ∧ m.run = .ok a ∧ m'.run = .ok b) ∨
      (∃ failure, m.run = .error failure ∧ m'.run = .error failure) ∨
        (m.run = .error .malformed ∧ 1000 < c) ∨ ∃ failure, m.run = .error failure ∧ p failure := by
  have hends := h {} {} ⟨rfl, rfl, rfl⟩
  unfold Decode.run
  generalize StateT.run m {} = r, StateT.run m' {} = r' at hends
  cases hends with
  | given hab hd hnodes =>
    dsimp only
    rw [hd.misfits]
    split
    · exact .inl ⟨_, _, hab, rfl, rfl⟩
    · exact .inr (.inl ⟨_, rfl, rfl⟩)
  | failed failure => exact .inr (.inl ⟨failure, rfl, rfl⟩)
  | excessive _ hmany => exact .inr (.inr (.inl ⟨rfl, by simpa using hmany⟩))
  | excused _ hp => exact .inr (.inr (.inr ⟨_, rfl, hp⟩))

/-- Readings that go through two lists item by item. -/
lemma foldlM {ι : Type} {f : α → ι → Decode α} {f' : β → ι → Decode β} {g : ι → ι} {xs : List ι}
    {a : α} {b : β} (hab : R a b)
    (hstep : ∀ x ∈ xs, ∀ a b, R a b → Simulates p R c (f a x) (f' b (g x))) :
    Simulates p R (c * xs.length) (xs.foldlM f a) ((xs.map g).foldlM f' b) := by
  induction xs generalizing a b with
  | nil => exact pure hab
  | cons x xs ih =>
    rw [List.map_cons, List.foldlM_cons, List.foldlM_cons, List.length_cons, Nat.mul_succ,
      Nat.add_comm]
    refine (hstep x (by simp) a b hab).bind fun a b hab => ih hab ?_
    exact fun y hy => hstep y (by simp [hy])

end Simulates

/-! ### Keys -/

/-- The keys that occur twice are the same in the expanded entries, since no key is an alias. -/
lemma repeatedKeys_expandedPairs {entries : List (Node × Node)}
    (h : ∀ e ∈ entries, e.1.isReference = false) :
    repeatedKeys (Node.expandedPairs entries) = repeatedKeys entries := by
  induction entries with
  | nil => rfl
  | cons e rest ih =>
    have hfirst := Node.expanded_alike (h e (by simp))
    have hrest : ∀ o ∈ rest, o.1.isReference = false := fun o ho => h o (by simp [ho])
    rw [Node.expandedPairs, repeatedKeys, repeatedKeys, ih hrest, Node.expandedPairs_eq_map,
      List.filter_map, List.map_map]
    congr 1
    rw [List.filter_congr fun o ho => ?same]
    · refine List.map_congr_left fun o ho => ?_
      have hother := Node.expanded_alike (hrest o (List.mem_of_mem_filter ho))
      simp only [Function.comp_apply, hfirst.line, hother.line, hother.text]
    case same =>
      have hother := Node.expanded_alike (hrest o ho)
      simp only [Function.comp_apply, hfirst.sameKind_left, hother.sameKind_right, hfirst.text,
        hother.text]

lemma noteRepeated_simulates {entries : List (Node × Node)}
    (h : ∀ e ∈ entries, e.1.isReference = false) :
    Simulates p Eq 0 (noteRepeated entries) (noteRepeated (Node.expandedPairs entries)) := by
  unfold noteRepeated
  rw [repeatedKeys_expandedPairs h]
  exact .free_bind (.forM_note _) fun _ _ _ => .pure rfl

lemma scalarValue_simulates (tag : Tag) (text : Text) :
    Simulates p Eq 0 (scalarValue tag text) (scalarValue tag text) := by
  unfold scalarValue
  split
  · exact .throw _
  · split
    · split
      · exact .pure rfl
      · exact .throw _
    · exact .pure rfl

/-- A node that is no alias is read as a scalar with or without aliases inside it. -/
lemma scalar_simulates {R : Option α → Option α → Prop} (wanted : Text) (read : ScalarReader α)
    (hnone : R none none) (hread : ∀ text v, R (read text v) (read text v)) {n : Node}
    (h : n.Expandable) (hn : n.isReference = false) :
    Simulates p R 0 (scalar wanted read n) (scalar wanted read n.expanded) := by
  cases h with
  | scalar line tag text =>
    refine .free_bind (scalarValue_simulates tag text) fun v v' hv => ?_
    subst hv
    split
    · exact .pure hnone
    · split
      · rename_i hsome
        exact .pure (hsome ▸ hread text v)
      · exact .free_bind (.note _) fun _ _ _ => .pure hnone
  | sequence _ =>
    rw [Node.expanded]
    exact .free_bind (.note _) fun _ _ _ => .pure hnone
  | mapping hplain hkeys hvalues =>
    rw [Node.expanded]
    refine .free_bind (noteRepeated_simulates hplain) fun b b' hb => ?_
    subst hb
    cases b with
    | true => exact .pure hnone
    | false => exact .free_bind (.note _) fun _ _ _ => .pure hnone
  | reference _ => cases hn

/-- A node that is no alias is read as it stands, after it is counted. -/
lemma follow_of_isReference {n : Node} (h : n.isReference = false) (read : Node → Decode α) :
    follow read n = (do count; read n) := by
  cases n with
  | reference line name target => cases h
  | scalar _ _ _ | sequence _ _ _ | mapping _ _ _ => rfl

/-- A key, which is no alias, is read alike. -/
lemma follow_key_simulates {read read' : Node → Decode α} {k : Node} (h : k.Expandable)
    (hk : k.isReference = false) (hread : Simulates p Eq 0 (read k) (read' k.expanded)) :
    Simulates p Eq 1 (follow read k) (follow read' k.expanded) := by
  rw [follow_of_isReference hk, follow_of_isReference h.isReference_expanded]
  exact .bind .count fun _ _ _ => hread

lemma text_simulates {k : Node} (h : k.Expandable) (hk : k.isReference = false) :
    Simulates p Eq 0 (text k) (text k.expanded) := by
  cases k with
  | scalar line tag text => exact scalar_simulates _ _ rfl (fun _ _ => rfl) h hk
  | sequence _ _ _ | mapping _ _ _ =>
    -- a collection has no value to make a text of
    exact scalar_simulates "string" (fun text _ => some text) rfl (fun _ _ => rfl) h hk
  | reference line name target => cases hk

end Decode

/-! ### Values of any kind -/

section

open Decode

variable {α β γ : Type} {p : Failure → Prop}

lemma countMerged_simulates {n : Node} (h : n.Expandable) :
    Simulates p Eq 1 (countMerged n) (countMerged n.expanded) := by
  obtain ⟨hresolved, hn, hplain⟩ := h.resolved_expanded
  unfold countMerged
  rw [hresolved]
  generalize n.resolved = m at hn hplain
  cases hn with
  | scalar line tag text => exact .throw _
  | sequence _ =>
    rw [Node.expanded]
    exact .throw _
  | mapping _ _ _ =>
    rw [Node.expanded]
    exact .count
  | reference _ => cases hplain

/-- An alias of a sequence is not merged. -/
lemma countMerged_unmerged {v : Node} (hv : v.resolved.isSequence = true) (hp : p .badMerge)
    (f : Unit → Decode β) (m' : Decode γ) {S : β → γ → Prop} {c : Nat} :
    Simulates p S c (countMerged v >>= f) m' := by
  have hthrow : countMerged v = throw .badMerge := by
    unfold countMerged
    cases hr : v.resolved with
    | sequence line tag items => rfl
    | scalar _ _ _ | mapping _ _ _ | reference _ _ _ => simp [hr, Node.isSequence] at hv
  rw [hthrow]
  exact fun d d' _ => .excused _ hp

/-- A node that stands for a sequence without being one is an alias. -/
lemma isReference_of_resolved {v : Node} (hv : v.resolved.isSequence = true)
    (hne : ∀ line tag items, v ≠ .sequence line tag items) : v.isReference = true := by
  cases v with
  | reference line name target => rfl
  | sequence line tag items => exact absurd rfl (hne line tag items)
  | scalar _ _ _ | mapping _ _ _ => cases hv

/-- Whether all keys are strings is not changed by expanding. -/
lemma keysAreTexts_expandedPairs {entries : List (Node × Node)}
    (h : ∀ e ∈ entries, e.1.isReference = false) :
    keysAreTexts (Node.expandedPairs entries) = keysAreTexts entries := by
  have htag : ∀ k : Node, k.isReference = false → k.expanded.tag? = k.tag? := by
    intro k hk
    cases k with
    | reference line name target => cases hk
    | scalar _ _ _ | sequence _ _ _ | mapping _ _ _ => simp [Node.expanded, Node.tag?]
  induction entries with
  | nil => rfl
  | cons e rest ih =>
    have hrest := ih fun o ho => h o (by simp [ho])
    unfold keysAreTexts at hrest ⊢
    simp only [Node.expandedPairs, List.all_cons, hrest, htag e.1 (h e (by simp))]

/-- A collection as a key ends two readings alike. -/
lemma keyFailure_simulates (type : Text) {R : β → γ → Prop} {c c' : Nat} {m m' : Decode α}
    (h : Simulates p Eq c m m') (hmany : 1000 < c → p .malformed)
    (hbad : p .malformed → p .badKey) :
    Simulates p R c' (throw (keyFailure type m)) (throw (keyFailure type m')) := by
  have hends := h {} {} ⟨rfl, rfl, rfl⟩
  unfold keyFailure
  generalize StateT.run m {} = r, StateT.run m' {} = r' at hends
  cases hends with
  | given _ _ _ => exact .throw _
  | failed failure => exact .throw _
  | excessive _ hlimit => exact fun d d' _ => .excused _ (hbad (hmany (by simpa using hlimit)))
  | @excused _ failure hp =>
    refine fun d d' _ => .excused _ ?_
    cases failure with
    | malformed => exact hbad hp
    | unknownAnchor _ | selfContaining _ | badBinary | badMerge | badKey | collectionKey _
    | mismatch _ | misfits _ | refused _ => exact hp

/-- Whatever is read of a node, it is read of the expanded node alike. -/
structure Node.ReadsAlike (p : Failure → Prop) (n : Node) : Prop where
  any : Simulates p Eq (2 * n.size - 1) (readAny n) (readAny n.expanded)
  into : ∀ texts g,
    Simulates p Eq (2 * n.size - 2) (readInto texts n g) (readInto texts n.expanded g)
  key : n.isReference = false → Simulates p Eq 1 (readKey n) (readKey n.expanded)
  merged : ∀ line tag items, n = .sequence line tag items → ∀ texts g,
    Simulates p Eq (2 * sizeList items) (readMerged texts items g)
      (readMerged texts (expandedList items) g)

structure Node.EntryReads (p : Failure → Prop) (e : Node × Node) : Prop where
  fits : Node.EntryFits p e
  key : e.1.ReadsAlike p
  value : e.2.ReadsAlike p

/-- The items of a sequence are read alike if each of them is. -/
lemma readItems_simulates {items : List Node} (h : ∀ n ∈ items, n.ReadsAlike p) :
    Simulates p Eq (2 * Node.sizeList items) (readItems items)
      (readItems (Node.expandedList items)) := by
  induction items with
  | nil =>
    rw [Node.expandedList, readItems]
    exact .pure rfl
  | cons n ns ih =>
    rw [Node.expandedList, readItems, readItems, Node.sizeList]
    refine (Simulates.bind (h n (by simp)).any fun v v' hv => ?_).mono
      (c := 2 * n.size - 1 + 2 * Node.sizeList ns) (by omega)
    subst hv
    exact .bind_pure (ih fun m hm => h m (by simp [hm])) fun vs vs' hvs => by rw [hvs]

/-- What is read for the entries of a mapping at most, but for merges. -/
def Node.entriesCost : List (Node × Node) → Nat
  | [] => 0
  | (k, v) :: rest => (if k.isMerge then 0 else 2 * k.size + 2 * v.size - 2) + entriesCost rest

/-- The entries leave room for a merged value and for all keys once more. -/
lemma Node.entriesCost_add_le {e : Node × Node} {es : List (Node × Node)} (he : e ∈ es)
    (hmerge : e.1.isMerge = true) :
    entriesCost es + es.length + 2 * e.2.size ≤ 2 * sizePairs es := by
  have hrest : ∀ es, entriesCost es + es.length ≤ 2 * sizePairs es := by
    intro es
    induction es with
    | nil => simp [entriesCost]
    | cons d ds ih =>
      have hk := d.1.size_pos
      have hv := d.2.size_pos
      rw [entriesCost, sizePairs, List.length_cons]
      split <;> omega
  induction es with
  | nil => cases he
  | cons d ds ih =>
    have hk := d.1.size_pos
    have hv := d.2.size_pos
    have hds := hrest ds
    rw [entriesCost, sizePairs, List.length_cons]
    rcases List.mem_cons.mp he with rfl | he
    · rw [if_pos hmerge]
      omega
    · have := ih he
      split <;> omega

/-- The entries of a mapping cost no more than twice their size. -/
lemma Node.entriesCost_le (es : List (Node × Node)) : entriesCost es ≤ 2 * sizePairs es := by
  induction es with
  | nil => simp [entriesCost]
  | cons d ds ih =>
    rw [entriesCost, sizePairs]
    split <;> omega

/-- A key is read alike, whatever the other keys are. -/
lemma entryKey_simulates (texts merged : Bool) {k : Node} (hk : k.Expandable)
    (hplain : k.isReference = false) (h : k.ReadsAlike p) :
    Simulates p Eq (2 * k.size - 1) (entryKey texts merged k (readAny k))
      (entryKey texts merged k.expanded (readAny k.expanded)) := by
  have hpos := k.size_pos
  unfold entryKey
  cases texts with
  | true =>
    refine (Simulates.bind_pure (follow_key_simulates hk hplain (text_simulates hk hplain))
      fun name name' hname => ?_).mono (by omega)
    rw [hname]
  | false =>
    refine .bind_free h.any fun v v' hv => ?_
    subst hv
    rcases v with _ | s | items | ⟨texts, entries⟩
    · exact .pure rfl
    · exact .pure rfl
    · exact .throw _
    · exact .throw _

/-- The entries of a mapping are read alike, with the same things gathered before. -/
lemma readEntries_simulates (texts : Bool) {entries : List (Node × Node)}
    (h : ∀ e ∈ entries, Node.EntryReads p e) (g : Gathering) :
    Simulates p Eq (Node.entriesCost entries) (readEntries texts entries g)
      (readEntries texts (Node.expandedPairs entries) g) := by
  induction entries generalizing g with
  | nil =>
    rw [Node.expandedPairs, readEntries]
    exact .pure rfl
  | cons e rest ih =>
    obtain ⟨k, v⟩ := e
    obtain ⟨hfits, hkey, hvalue⟩ := h (k, v) (by simp)
    have hrest := ih fun o ho => h o (by simp [ho])
    have hk := k.size_pos
    have hv := v.size_pos
    rw [Node.expandedPairs, readEntries, readEntries, Node.entriesCost,
      (Node.expanded_alike hfits.plain).isMerge]
    split_ifs with hmerge
    · simpa using hrest g
    · refine (Simulates.bind (entryKey_simulates texts _ hfits.key.expandable hfits.plain hkey)
        fun key key' hkey => ?_).mono
          (c := 2 * k.size - 1 + (2 * v.size - 1 + Node.entriesCost rest)) (by omega)
      subst hkey
      cases key with
      | none => exact (hrest g).mono (by omega)
      | some key =>
        dsimp only
        split_ifs
        · exact (hrest g).mono (by omega)
        · refine .bind hvalue.any fun w w' hw => ?_
          subst hw
          cases w with
          | none => exact hrest _
          | some w => exact hrest _

lemma readMerged_simulates (texts : Bool) {items : List Node} (hitems : ∀ n ∈ items, n.Expandable)
    (h : ∀ n ∈ items, n.ReadsAlike p) (g : Gathering) :
    Simulates p Eq (2 * Node.sizeList items) (readMerged texts items g)
      (readMerged texts (Node.expandedList items) g) := by
  induction items generalizing g with
  | nil =>
    rw [Node.expandedList, readMerged]
    exact .pure rfl
  | cons n ns ih =>
    have hpos := n.size_pos
    rw [Node.expandedList, readMerged, readMerged, Node.sizeList]
    refine (Simulates.bind (countMerged_simulates (hitems n (by simp))) fun _ _ _ =>
      .bind ((h n (by simp)).into texts g) fun g g' hg => ?_).mono
        (c := 1 + (2 * n.size - 2 + 2 * Node.sizeList ns)) (by omega)
    subst hg
    exact ih (fun m hm => hitems m (by simp [hm])) (fun m hm => h m (by simp [hm])) g

lemma readMerge_skip {texts : Bool} {own : Decode Keys} {k : Node} (hk : ¬ k.isMerge = true)
    (v : Node) (rest : List (Node × Node)) (g : Gathering) :
    readMerge texts own ((k, v) :: rest) g = readMerge texts own rest g := by
  cases v <;> simp [readMerge, hk]

lemma readMerge_one {texts : Bool} {own : Decode Keys} {k v : Node} (hk : k.isMerge = true)
    (hv : ∀ line tag items, v ≠ .sequence line tag items) (rest : List (Node × Node))
    (g : Gathering) :
    readMerge texts own ((k, v) :: rest) g = (do
      let settled ← g.settled.elim own pure
      countMerged v
      let after ← readInto texts v { g with settled := some settled }
      pure { after with settled := g.settled.bind fun _ => after.settled }) := by
  rw [readMerge, if_pos hk]
  exact hv

/-- The value of an entry that asks for a merge is read alike. -/
lemma readMerge_first_simulates (texts : Bool) {own own' : Decode Keys} {l : Nat} {k k' v : Node}
    (hfits : Node.EntryFits p (k, v)) (hvalue : v.ReadsAlike p) (hk : k.isMerge = true)
    (hk' : k'.isMerge = true) {rest rest' : List (Node × Node)} {g : Gathering}
    (hsettled : Simulates p Eq l (g.settled.elim own pure) (g.settled.elim own' pure)) :
    Simulates p Eq (l + 2 * v.size) (readMerge texts own ((k, v) :: rest) g)
      (readMerge texts own' ((k', v.expanded) :: rest') g) := by
  have hpos := v.size_pos
  by_cases hsequence : v.resolved.isSequence = true
  · cases v with
    | sequence line tag items =>
      rw [Node.expanded, readMerge, readMerge, if_pos hk, if_pos hk', Node.size]
      refine (Simulates.bind hsettled fun settled settled' hkeys => ?_).mono
        (c := l + 2 * Node.sizeList items) (by omega)
      subst hkeys
      refine .bind_pure (hvalue.merged line tag items rfl texts _) fun after after' h => ?_
      rw [h]
    | scalar _ _ _ | mapping _ _ _ => cases hsequence
    | reference line name target =>
      have hp := hfits.unmerged ⟨hk, rfl, hsequence⟩
      have hexpanded := hfits.value.expandable.isSequence_expanded.trans hsequence
      rw [readMerge_one hk (by simp)]
      generalize (Node.reference line name target).expanded = w at hexpanded
      cases w with
      | sequence line tag items =>
        rw [readMerge, if_pos hk']
        refine (Simulates.bind hsettled fun settled settled' _ => ?_).mono (c := l + 0) (by omega)
        exact countMerged_unmerged hsequence hp _ _
      | scalar _ _ _ | mapping _ _ _ | reference _ _ _ => cases hexpanded
  · have hv : ∀ line tag items, v ≠ .sequence line tag items := by
      rintro line tag items rfl
      exact hsequence rfl
    have hv' : ∀ line tag items, v.expanded ≠ .sequence line tag items := by
      intro line tag items hexpanded
      apply hsequence
      rw [← hfits.value.expandable.isSequence_expanded, hexpanded]
      rfl
    rw [readMerge_one hk hv, readMerge_one hk' hv']
    refine (Simulates.bind hsettled fun settled settled' hkeys => ?_).mono
      (c := l + (1 + (2 * v.size - 2))) (by omega)
    subst hkeys
    refine .bind (countMerged_simulates hfits.value.expandable) fun _ _ _ => ?_
    exact .bind_pure (hvalue.into texts _) fun after after' h => by rw [h]

/-- What is merged is read alike. The value of any entry takes at most `c` if it is merged. -/
lemma readMerge_simulates (texts : Bool) {own own' : Decode Keys} {c l : Nat}
    (hown : Simulates p Eq l own own') {entries : List (Node × Node)}
    (h : ∀ e ∈ entries, Node.EntryReads p e)
    (hc : ∀ e ∈ entries, e.1.isMerge = true → l + 2 * e.2.size ≤ c) (g : Gathering) :
    Simulates p Eq c (readMerge texts own entries g)
      (readMerge texts own' (Node.expandedPairs entries) g) := by
  induction entries with
  | nil =>
    rw [Node.expandedPairs, readMerge, readMerge]
    exact .pure rfl
  | cons e rest ih =>
    obtain ⟨k, v⟩ := e
    obtain ⟨hfits, -, hvalue⟩ := h (k, v) (by simp)
    have hc' := hc (k, v) (by simp)
    have halike := Node.expanded_alike hfits.plain
    rw [Node.expandedPairs]
    by_cases hmerge : k.isMerge = true
    · have hmerge' : k.expanded.isMerge = true := by rw [halike.isMerge, hmerge]
      have hsettled : Simulates p Eq l (g.settled.elim own pure) (g.settled.elim own' pure) := by
        cases g.settled with
        | none => exact hown
        | some keys => exact .pure rfl
      exact (readMerge_first_simulates texts hfits hvalue hmerge hmerge' hsettled).mono (hc' hmerge)
    · rw [readMerge_skip hmerge, readMerge_skip (by rwa [halike.isMerge])]
      exact ih (fun o ho => h o (by simp [ho])) fun o ho => hc o (by simp [ho])

/-- The keys of a mapping are the same with and without aliases, and reading them costs one node
each. -/
lemma keysOf_simulates {entries : List (Node × Node)} (h : ∀ e ∈ entries, Node.EntryReads p e) :
    Simulates p Eq entries.length (keysOf entries) (keysOf (Node.expandedPairs entries)) := by
  induction entries with
  | nil =>
    rw [Node.expandedPairs, keysOf]
    exact .pure rfl
  | cons e rest ih =>
    obtain ⟨hfits, hkey, -⟩ := h e (by simp)
    rw [Node.expandedPairs, keysOf, keysOf, List.length_cons, Nat.add_comm]
    refine .bind (hkey.key hfits.plain) fun key key' hkey => ?_
    subst hkey
    exact .bind_pure (ih fun o ho => h o (by simp [ho])) fun keys keys' hkeys => by rw [hkeys]

/-- The entries of a mapping and what it merges are read alike. -/
lemma gather_simulates (texts : Bool) {entries : List (Node × Node)}
    (h : ∀ e ∈ entries, Node.EntryReads p e) (g : Gathering) :
    Simulates p Eq (2 * Node.sizePairs entries)
      (do
        let g ← readEntries texts entries g
        readMerge texts (keysOf entries) entries g)
      (do
        let g ← readEntries texts (Node.expandedPairs entries) g
        readMerge texts (keysOf (Node.expandedPairs entries)) (Node.expandedPairs entries) g) := by
  have hcost := Node.entriesCost_le entries
  refine (Simulates.bind (readEntries_simulates texts h g) fun g g' hg => ?_).mono
    (c := Node.entriesCost entries + (2 * Node.sizePairs entries - Node.entriesCost entries))
    (by omega)
  subst hg
  refine readMerge_simulates texts (keysOf_simulates h) h (fun e he hmerge => ?_) g
  have := Node.entriesCost_add_le he hmerge
  omega

/-- A node that fits is read as the expanded node is. -/
lemma Node.Expandable.readsAlike {n : Node} (h : n.Expandable) : n.Fits p → n.ReadsAlike p := by
  induction h with
  | scalar line tag text =>
    intro _
    refine ⟨?_, fun texts g => ?_, fun _ => ?_, by simp⟩
    · simp only [expanded, readAny]
      exact .bind .count fun _ _ _ => .bind_pure (scalarValue_simulates tag text)
        fun v v' hv => by rw [hv]
    · simp only [expanded, readInto]
      exact .pure rfl
    · simp only [expanded, readKey]
      exact .bind_free .count fun _ _ _ => .bind_pure (scalarValue_simulates tag text)
        fun v v' hv => by rw [hv]
  | @sequence line tag items hitems ih =>
    intro hfits
    have hreads : ∀ n ∈ items, n.ReadsAlike p := fun n hn => ih n hn (hfits.items n hn)
    have hread := readItems_simulates hreads
    have hmany := hfits.excessive
    rw [size] at hmany
    refine ⟨?_, fun texts g => ?_, fun _ => ?_, ?_⟩
    · rw [expanded, readAny, readAny, size]
      refine (Simulates.bind .count fun _ _ _ => .bind_pure hread fun vs vs' hvs => ?_).mono
        (by omega)
      rw [hvs]
    · simp only [expanded, readInto]
      exact .pure rfl
    · rw [expanded, readKey, readKey]
      exact .bind_free .count fun _ _ _ =>
        keyFailure_simulates _ hread (fun h => hmany (by omega)) hfits.badKey
    · rintro _ _ _ ⟨⟩ texts g
      exact readMerged_simulates texts hitems hreads g
  | @mapping line tag entries hplain hkeys hvalues ihKeys ihValues =>
    intro hfits
    have hreads : ∀ e ∈ entries, EntryReads p e := fun e he =>
      ⟨hfits.entries e he, ihKeys e he (hfits.entries e he).key,
        ihValues e he (hfits.entries e he).value⟩
    have hmany := hfits.excessive
    rw [size] at hmany
    refine ⟨?_, fun texts g => ?_, fun _ => ?_, by simp⟩
    · have hmap : ∀ g g' : Gathering, g = g' →
          some (Loose.map (keysAreTexts entries) g.entries)
            = some (Loose.map (keysAreTexts entries) g'.entries) := by
        rintro g _ rfl
        rfl
      have hgather := (gather_simulates (keysAreTexts entries) hreads {}).bind_pure hmap
      simp only [bind_assoc] at hgather
      rw [expanded, readAny, readAny, size, keysAreTexts_expandedPairs hplain]
      refine (Simulates.bind .count fun _ _ _ => .free_bind (noteRepeated_simulates hplain)
        fun b b' hb => ?_).mono (c := 1 + 2 * sizePairs entries) (by omega)
      subst hb
      cases b with
      | true => exact .pure rfl
      | false => exact hgather
    · rw [expanded, readInto, readInto, size]
      refine .free_bind (noteRepeated_simulates hplain) fun b b' hb => ?_
      subst hb
      cases b with
      | true => exact .pure rfl
      | false => exact (gather_simulates texts hreads g).mono (by omega)
    · rw [expanded, readKey, readKey, keysAreTexts_expandedPairs hplain]
      refine .bind_free .count fun _ _ _ => .free_bind (noteRepeated_simulates hplain)
        fun b b' hb => ?_
      subst hb
      cases b with
      | true => exact .pure rfl
      | false =>
        exact keyFailure_simulates _ (gather_simulates _ hreads {}) (fun h => hmany (by omega))
          hfits.badKey
  | @reference line name n hn ih =>
    intro hfits
    obtain ⟨hany, hinto, -, -⟩ := ih hfits.target
    have hpos := n.size_pos
    refine ⟨?_, fun texts g => ?_, by simp [isReference], by simp⟩
    · rw [expanded, readAny, size]
      exact (Simulates.count_left (.copying_left hany)).mono (by omega)
    · rw [expanded, readInto, size]
      exact (Simulates.copying_left (.count_left (hinto texts g))).mono (by omega)

lemma Node.EntryFits.reads {e : Node × Node} (h : EntryFits p e) : EntryReads p e :=
  ⟨h, h.key.expandable.readsAlike h.key, h.value.expandable.readsAlike h.value⟩

end

/-! ### Filling a record -/

namespace Record

open Decode

variable {α β γ : Type} {p : Failure → Prop} {r : Record α} {T : α → α → Prop}

/-- Putting in a node keeps two records related by `T` if the second gets the node expanded. -/
def Carries (r : Record α) (p : Failure → Prop) (T : α → α → Prop) : Prop :=
  ∀ name put, r.fields.lookup name = some put →
    ∀ v a a', T a a' → Simulates p T 1 (put v a) (put v.expanded a')

/-- The records of two fillings are related by `T`, and the rest is the same. -/
structure Filling.Related (T : α → α → Prop) (f f' : Filling α) : Prop where
  value : T f.value f'.value
  done : f.done = f'.done
  keys : f.keys = f'.keys

lemma fillNamed_simulates (hput : r.Carries p T) {f f' : Filling α} (hf : f.Related T f')
    {e : Node × Node} (he : e.1.isReference = false) (name : Text) :
    Simulates p (Filling.Related T) 1 (r.fillNamed f e name)
      (r.fillNamed f' (e.1.expanded, e.2.expanded) name) := by
  obtain ⟨hvalue, hdone, hkeys⟩ := hf
  unfold fillNamed
  rw [(Node.expanded_alike he).line, hdone, hkeys]
  dsimp only
  split
  · rename_i put hlookup
    split
    · exact .free_bind (.note _) fun _ _ _ => .pure ⟨hvalue, rfl, rfl⟩
    · exact .bind_pure (hput name put hlookup e.2 _ _ hvalue) fun a a' ha => ⟨ha, rfl, rfl⟩
  · split
    · exact .free_bind (.note _) fun _ _ _ => .pure ⟨hvalue, rfl, rfl⟩
    · exact .pure ⟨hvalue, rfl, rfl⟩

/-- An entry is read with two nodes: its key and its value. -/
lemma fillEntry_simulates (hput : r.Carries p T) {f f' : Filling α} (hf : f.Related T f')
    {e : Node × Node} (hk : e.1.Expandable) (he : e.1.isReference = false) :
    Simulates p (Filling.Related T) 2 (r.fillEntry f e)
      (r.fillEntry f' (e.1.expanded, e.2.expanded)) := by
  unfold fillEntry
  rw [(Node.expanded_alike he).isMerge]
  split
  · exact .pure hf
  · change Simulates p _ (1 + 1) _ _
    refine .bind (follow_key_simulates hk he (text_simulates hk he)) fun name name' hname => ?_
    subst hname
    cases name with
    | none => exact .pure hf
    | some name =>
      have hsettled : f.isSettled name = f'.isSettled name := by
        rw [Filling.isSettled, Filling.isSettled, hf.keys]
      dsimp only
      rw [hsettled]
      split
      · exact .pure hf
      · exact fillNamed_simulates hput hf he name

lemma settledKeys_simulates {entries : List (Node × Node)}
    (h : ∀ e ∈ entries, Node.EntryFits p e) (keys : Option Keys) :
    Simulates p Eq entries.length (settledKeys entries keys)
      (settledKeys (Node.expandedPairs entries) keys) := by
  cases keys with
  | none => exact keysOf_simulates fun e he => (h e he).reads
  | some keys => exact .pure rfl

lemma fillMerge_one {k v : Node} (hk : k.isMerge = true)
    (hv : ∀ line tag items, v ≠ .sequence line tag items) (entries rest : List (Node × Node))
    (keys : Option Keys) (a : α) :
    r.fillMerge entries ((k, v) :: rest) keys a = (do
      let settled ← settledKeys entries keys
      Decode.countMerged v
      let (a, after) ← r.fill v (some settled) a
      pure (a, keys.bind fun _ => after)) := by
  rw [fillMerge, if_pos hk]
  exact hv

inductive Beside (T : α → α → Prop) {κ : Type} : α × κ → α × κ → Prop
  | mk {a a' : α} (h : T a a') (keys : κ) : Beside T (a, keys) (a', keys)

section

variable (p r T)

/-- Related records are filled alike from a node and from the expanded node. -/
def FillsExpanded (n : Node) (keys : Option Keys) (a : α) : Prop :=
  n.Fits p → ∀ a', T a a' →
    Simulates p (Beside T) (2 * n.size - 1) (r.fill n keys a) (r.fill n.expanded keys a')

/-- Related records are filled alike from what the entries of a mapping merge. Here `c` is what the
value of any entry needs if it is merged. -/
def MergesExpanded (entries rest : List (Node × Node)) (keys : Option Keys) (a : α) : Prop :=
  (∀ e ∈ entries, Node.EntryFits p e) → (∀ e ∈ rest, Node.EntryFits p e) →
    ∀ c, (∀ e ∈ rest, 2 * e.2.size ≤ c) → ∀ a', T a a' →
      Simulates p (Beside T) (entries.length + c) (r.fillMerge entries rest keys a)
        (r.fillMerge (Node.expandedPairs entries) (Node.expandedPairs rest) keys a')

def FillsAllExpanded (items : List Node) (keys : Keys) (a : α) : Prop :=
  (∀ n ∈ items, n.Fits p) → ∀ a', T a a' →
    Simulates p (Beside T) (2 * Node.sizeList items) (r.fillAll items keys a)
      (r.fillAll (Node.expandedList items) keys a')

end

lemma FillsExpanded.mapping (hput : r.Carries p T) {line : Nat} {tag : Tag}
    {entries : List (Node × Node)} {keys : Option Keys} {a : α}
    (h : ∀ f : Filling α, MergesExpanded p r T entries entries f.keys f.value) :
    FillsExpanded p r T (.mapping line tag entries) keys a := by
  intro hn a' ha
  have hentries := hn.entries
  have hfold : Simulates p (Filling.Related T) (2 * entries.length)
      (entries.foldlM r.fillEntry { value := a, keys })
      ((Node.expandedPairs entries).foldlM r.fillEntry { value := a', keys }) := by
    rw [Node.expandedPairs_eq_map]
    refine .foldlM ⟨ha, rfl, rfl⟩ fun e he f f' hf => ?_
    exact fillEntry_simulates hput hf (hentries e he).key.expandable (hentries e he).plain
  have hlength := Node.two_mul_length_le_sizePairs entries
  rw [fill, Node.expanded, fill, Node.size]
  refine .free_bind (noteRepeated_simulates fun e he => (hentries e he).plain) fun b b' hb => ?_
  subst hb
  cases b with
  | true => exact .pure ⟨ha, keys⟩
  | false =>
    -- what the entries themselves do not need is left for a merge
    obtain ⟨c, hc⟩ : ∃ c, c + 3 * entries.length = 2 * Node.sizePairs entries + 1 :=
      ⟨2 * Node.sizePairs entries + 1 - 3 * entries.length, by omega⟩
    refine (hfold.bind fun f f' hf => ?_).mono
      (c := 2 * entries.length + (entries.length + c)) (by omega)
    rw [← hf.keys]
    refine h f hentries hentries c (fun e he => ?_) _ hf.value
    have := Node.size_add_length_le_sizePairs he
    have := List.length_pos_of_mem he
    omega

lemma FillsAllExpanded.cons {n : Node} {ns : List Node} {keys : Keys} {a : α}
    (h : FillsExpanded p r T n (some keys) a)
    (hrest : ∀ (b : α) (after : Option Keys), FillsAllExpanded p r T ns (after.getD keys) b) :
    FillsAllExpanded p r T (n :: ns) keys a := by
  intro hitems a' ha
  have hpos := n.size_pos
  have hn := hitems n (by simp)
  rw [fillAll, Node.expandedList, fillAll, Node.sizeList]
  refine (Simulates.bind (countMerged_simulates hn.expandable) fun _ _ _ =>
    .bind (h hn a' ha) fun p p' hp => ?_).mono (c := 1 + (2 * n.size - 1 + 2 * Node.sizeList ns))
      (by omega)
  cases hp with
  | mk hb after => exact hrest _ after (fun m hm => hitems m (by simp [hm])) _ hb

section

variable {entries rest : List (Node × Node)} {k : Node} {keys : Option Keys} {a : α}

lemma MergesExpanded.items {line : Nat} {tag : Tag} {items : List Node} (hk : k.isMerge = true)
    (h : ∀ settled, FillsAllExpanded p r T items settled a) :
    MergesExpanded p r T entries ((k, .sequence line tag items) :: rest) keys a := by
  intro hentries hrest c hc a' ha
  have hfirst := hrest (k, .sequence line tag items) (by simp)
  have hc := hc (k, .sequence line tag items) (by simp)
  rw [Node.size] at hc
  rw [fillMerge, if_pos hk, Node.expandedPairs, Node.expanded, fillMerge,
    if_pos (by rw [(Node.expanded_alike hfirst.plain).isMerge, hk])]
  refine (Simulates.bind (settledKeys_simulates hentries keys) fun settled _ hsettled => ?_).mono
    (c := entries.length + (2 * Node.sizeList items + 0)) (by omega)
  subst hsettled
  refine .bind (h settled hfirst.value.items a' ha) fun x x' hx => ?_
  cases hx with
  | mk hb after => exact .pure ⟨hb, _⟩

/-- Anything but a sequence is merged alike, unless it is an alias of one. -/
lemma MergesExpanded.one {v : Node} (hk : k.isMerge = true)
    (hv : ∀ line tag items, v = .sequence line tag items → False)
    (h : ∀ settled, FillsExpanded p r T v (some settled) a) :
    MergesExpanded p r T entries ((k, v) :: rest) keys a := by
  intro hentries hrest c hc a' ha
  have hfirst := hrest (k, v) (by simp)
  have hc : 2 * v.size ≤ c := hc (k, v) (by simp)
  have hpos := v.size_pos
  have hk' : k.expanded.isMerge = true := by
    rw [(Node.expanded_alike hfirst.plain).isMerge, hk]
  rw [Node.expandedPairs, fillMerge_one hk hv]
  cases hexpanded : v.expanded with
  | sequence line tag items =>
    -- only an alias becomes a sequence that was none
    have hsequence : v.resolved.isSequence = true := by
      rw [← hfirst.value.expandable.isSequence_expanded, hexpanded]
      rfl
    have hp := hfirst.unmerged ⟨hk, isReference_of_resolved hsequence hv, hsequence⟩
    rw [fillMerge, if_pos hk']
    refine (Simulates.bind (settledKeys_simulates hentries keys) fun settled _ _ => ?_).mono
      (c := entries.length + 0) (by omega)
    exact countMerged_unmerged hsequence hp _ _
  | scalar _ _ _ | mapping _ _ _ | reference _ _ _ =>
    rw [← hexpanded, fillMerge_one hk' (by simp [hexpanded])]
    refine (Simulates.bind (settledKeys_simulates hentries keys) fun settled _ hkeys => ?_).mono
      (c := entries.length + (1 + (2 * v.size - 1 + 0))) (by omega)
    subst hkeys
    refine .bind (countMerged_simulates hfirst.value.expandable) fun _ _ _ => ?_
    refine .bind (h settled hfirst.value a' ha) fun x x' hx => ?_
    cases hx with
    | mk hb after => exact .pure ⟨hb, _⟩

lemma MergesExpanded.skip {v : Node} (hk : ¬ k.isMerge = true)
    (h : MergesExpanded p r T entries rest keys a) :
    MergesExpanded p r T entries ((k, v) :: rest) keys a := by
  intro hentries hrest c hc a' ha
  have hplain := (hrest _ List.mem_cons_self).plain
  rw [Node.expandedPairs, fillMerge_skip hk,
    fillMerge_skip (by rwa [(Node.expanded_alike hplain).isMerge])]
  exact h hentries (fun e he => hrest e (by simp [he])) c (fun e he => hc e (by simp [he])) a' ha

end

end Record

end Yaml

end CqlWriter
