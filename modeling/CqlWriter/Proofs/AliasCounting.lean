import Mathlib
import CqlWriter.Proofs.AliasReading

/-!
# Readings that differ by an alias

Two readings of the same nodes, one of which has counted an alias more, go in lockstep: they note
the same misfits, fail alike and give related values. The only difference is that the one ahead may
have read too much for aliases, which takes further aliases in the nodes. A field that is done or
settled is not put in again, so the readings may disagree on it.
-/

namespace CqlWriter

namespace Yaml

/-! ### Nodes without aliases -/

namespace Node

/-- Neither the node nor anything inside it is an alias. -/
inductive Aliasless : Node → Prop
  | scalar (line : Nat) (tag : Tag) (text : Text) : Aliasless (.scalar line tag text)
  | sequence {line : Nat} {tag : Tag} {items : List Node} :
      (∀ n ∈ items, Aliasless n) → Aliasless (.sequence line tag items)
  | mapping {line : Nat} {tag : Tag} {entries : List (Node × Node)} :
      (∀ e ∈ entries, Aliasless e.1) → (∀ e ∈ entries, Aliasless e.2) →
        Aliasless (.mapping line tag entries)

def AliaslessEntry (e : Node × Node) : Prop :=
  e.1.Aliasless ∧ e.2.Aliasless

lemma Aliasless.items {line : Nat} {tag : Tag} {items : List Node}
    (h : Aliasless (.sequence line tag items)) : ∀ n ∈ items, n.Aliasless := by
  cases h
  assumption

lemma Aliasless.entries {line : Nat} {tag : Tag} {entries : List (Node × Node)}
    (h : Aliasless (.mapping line tag entries)) : ∀ e ∈ entries, AliaslessEntry e := by
  cases h with
  | mapping hkeys hvalues => exact fun e he => ⟨hkeys e he, hvalues e he⟩

lemma not_aliasless_reference {line : Nat} {name : Text} {target : Option Node} :
    ¬ Aliasless (.reference line name target) := by
  rintro ⟨⟩

end Node

/-! ### States of reading -/

namespace Decoding

/-- Too much is read for aliases once both counts are large and the share of the copies is above the
limit, here without fractions. -/
lemma excessive_iff {d : Decoding} : d.excessive = true ↔
    (100 < d.copies ∧ 1000 < d.nodes) ∧ share d.nodes * d.nodes < 360000000 * d.copies := by
  simp [excessive]

/-- The more nodes are read, the smaller is the share of copies that is allowed. -/
lemma share_antitone : Antitone share := by
  intro m n hmn
  unfold share
  split_ifs <;> omega

lemma share_le (nodes : Nat) : share nodes ≤ 360000000 := by
  unfold share
  split_ifs <;> omega

/-- What is too much stays too much if as many copies as nodes are added. -/
lemma excessive_of_add {d d' : Decoding} {k : Nat} (hnodes : d'.nodes = d.nodes + k)
    (hcopies : d'.copies = d.copies + k) (h : d.excessive = true) : d'.excessive = true := by
  rw [excessive_iff] at h ⊢
  obtain ⟨⟨hmany, hlarge⟩, hshare⟩ := h
  rw [hnodes, hcopies]
  refine ⟨⟨by omega, by omega⟩, ?_⟩
  calc share (d.nodes + k) * (d.nodes + k)
      = share (d.nodes + k) * d.nodes + share (d.nodes + k) * k := Nat.mul_add ..
    _ ≤ share d.nodes * d.nodes + 360000000 * k := by
        gcongr
        · exact share_antitone (Nat.le_add_right _ _)
        · exact share_le _
    _ < 360000000 * (d.copies + k) := by omega

/-- The second state is that of the same reading, where at most one alias more has been counted, and
none unless `q` holds. If `p` holds, no copies have been read otherwise. -/
structure Ahead (p q : Prop) (d d' : Decoding) : Prop where
  misfits : d'.misfits = d.misfits
  depth : d'.depth = d.depth
  lead : ∃ k ≤ 1, d'.nodes = d.nodes + k ∧ d'.copies = d.copies + k ∧ (0 < k → q)
  aliasless : p → d.copies = 0 ∧ d.depth = 0

variable {p q : Prop} {d d' : Decoding}

/-- A node that both readings count does not change which of them is ahead. -/
lemma Ahead.counted (h : d.Ahead p q d') : d.counted.Ahead p q d'.counted := by
  obtain ⟨k, hk, hnodes, hcopies, hq⟩ := h.lead
  refine ⟨h.misfits, h.depth, ⟨k, hk, ?_, ?_, hq⟩, ?_⟩
  · simp only [Decoding.counted, hnodes]
    omega
  · simp only [Decoding.counted, hcopies, h.depth]
    split_ifs <;> omega
  · intro hp
    obtain ⟨hnone, hdepth⟩ := h.aliasless hp
    simp [Decoding.counted, hnone, hdepth]

/-- The reading that is ahead has read too much for aliases if the other one has. -/
lemma Ahead.excessive (h : d.Ahead p q d') (hd : d.excessive = true) : d'.excessive = true := by
  obtain ⟨k, -, hnodes, hcopies, -⟩ := h.lead
  exact excessive_of_add hnodes hcopies hd

/-- Only the state ahead has read too much if it is really ahead and there are further aliases. -/
lemma Ahead.of_excessive (h : d.Ahead p q d') (hd : d.excessive = false)
    (hd' : d'.excessive = true) : ¬ p ∧ q := by
  obtain ⟨k, hk, hnodes, hcopies, hq⟩ := h.lead
  refine ⟨fun hp => ?_, hq (Nat.pos_of_ne_zero ?_)⟩
  · have hmany := (excessive_iff.mp hd').1.1
    have hnone := (h.aliasless hp).1
    omega
  · rintro rfl
    have hmany : d.excessive = true := excessive_of_add (k := 0) (by omega) (by omega) hd'
    rw [hd] at hmany
    cases hmany

lemma Ahead.refl (h : p → d.copies = 0 ∧ d.depth = 0) : d.Ahead p q d :=
  ⟨rfl, rfl, ⟨0, by omega, rfl, rfl, fun h => absurd h (lt_irrefl 0)⟩, h⟩

end Decoding

/-! ### Readings in lockstep -/

namespace Decode

variable {α β γ δ : Type} {p q : Prop} {R : α → β → Prop} {S : γ → δ → Prop} {ms : List Misfit}
  {m : Decode α} {m' : Decode β}

/-- How two readings in lockstep end that started with the misfits `ms`: both give values that are
related, both fail alike, or the one ahead has read too much for aliases. -/
inductive EndsAlike (p q : Prop) (ms : List Misfit) (R : α → β → Prop) :
    Except Failure (α × Decoding) → Except Failure (β × Decoding) → Prop
  | given {a : α} {b : β} {d d' : Decoding} :
      R a b → d.Ahead p q d' → ms <+: d.misfits → EndsAlike p q ms R (.ok (a, d)) (.ok (b, d'))
  | failed (failure : Failure) : EndsAlike p q ms R (.error failure) (.error failure)
  | excessive (result : Except Failure (α × Decoding)) :
      ¬ p ∧ q → EndsAlike p q ms R result (.error .malformed)

/-- The second reading does from a state ahead what the first one does. -/
def Lockstep (p q : Prop) (R : α → β → Prop) (m : Decode α) (m' : Decode β) : Prop :=
  ∀ d d', d.Ahead p q d' → EndsAlike p q d.misfits R (StateT.run m d) (StateT.run m' d')

lemma EndsAlike.weaken {ms' : List Misfit} {r : Except Failure (α × Decoding)}
    {r' : Except Failure (β × Decoding)} (h : EndsAlike p q ms R r r') (hms : ms' <+: ms) :
    EndsAlike p q ms' R r r' := by
  cases h with
  | given hab hd hprefix => exact .given hab hd (hms.trans hprefix)
  | failed failure => exact .failed failure
  | excessive _ hp => exact .excessive _ hp

lemma EndsAlike.mono {R' : α → β → Prop} {r : Except Failure (α × Decoding)}
    {r' : Except Failure (β × Decoding)} (h : EndsAlike p q ms R r r')
    (hR : ∀ a b, R a b → R' a b) : EndsAlike p q ms R' r r' := by
  cases h with
  | given hab hd hms => exact .given (hR _ _ hab) hd hms
  | failed failure => exact .failed failure
  | excessive _ hp => exact .excessive _ hp

/-- Two readings that end alike go on in lockstep if what follows is in lockstep on related values.
-/
lemma EndsAlike.bind {d d' : Decoding} {f : α → Decode γ} {f' : β → Decode δ}
    (h : EndsAlike p q ms R (StateT.run m d) (StateT.run m' d'))
    (hf : ∀ a b, R a b → Lockstep p q S (f a) (f' b)) :
    EndsAlike p q ms S (StateT.run (m >>= f) d) (StateT.run (m' >>= f') d') := by
  rw [StateT.run_bind, StateT.run_bind]
  generalize StateT.run m d = r, StateT.run m' d' = r' at h
  cases h with
  | given hab hd hms => exact (hf _ _ hab _ _ hd).weaken hms
  | failed failure => exact .failed failure
  | excessive _ hp => exact .excessive _ hp

namespace Lockstep

lemma mono {R' : α → β → Prop} (h : Lockstep p q R m m') (hR : ∀ a b, R a b → R' a b) :
    Lockstep p q R' m m' :=
  fun d d' hd => (h d d' hd).mono hR

lemma pure {a : α} {b : β} (h : R a b) : Lockstep p q R (Pure.pure a) (Pure.pure b) :=
  fun _ _ hd => .given h hd (List.prefix_refl _)

lemma throw (failure : Failure) : Lockstep p q R (throw failure) (throw failure) :=
  fun _ _ _ => .failed failure

lemma bind {f : α → Decode γ} {f' : β → Decode δ} (hm : Lockstep p q R m m')
    (hf : ∀ a b, R a b → Lockstep p q S (f a) (f' b)) : Lockstep p q S (m >>= f) (m' >>= f') :=
  fun d d' hd => (hm d d' hd).bind hf

/-- Readings that go on with the same value. -/
lemma bind_same {f : α → Decode γ} {f' : α → Decode δ} {m₀ : Decode α}
    (hm : Lockstep p q Eq m₀ m₀) (hf : ∀ a, Lockstep p q S (f a) (f' a)) :
    Lockstep p q S (m₀ >>= f) (m₀ >>= f') := by
  refine hm.bind fun a b hab => ?_
  subst hab
  exact hf a

lemma note (misfit : Misfit) : Lockstep p q Eq (note misfit) (note misfit) := by
  intro d d' hd
  exact .given rfl ⟨by simp [hd.misfits], hd.depth, hd.lead, hd.aliasless⟩
    (List.prefix_append _ _)

lemma forM_note (misfits : List Misfit) :
    Lockstep p q Eq (misfits.forM Decode.note) (misfits.forM Decode.note) := by
  induction misfits with
  | nil => exact pure rfl
  | cons misfit misfits ih => exact bind_same (note misfit) fun _ => ih

lemma count : Lockstep p q Eq count count := by
  intro d d' hd
  have hcounted := hd.counted
  rw [run_count, run_count]
  cases hmany : d.counted.excessive with
  | true =>
    rw [hcounted.excessive hmany]
    exact .failed _
  | false =>
    cases hmany' : d'.counted.excessive with
    | true => exact .excessive _ (hcounted.of_excessive hmany hmany')
    | false => exact .given rfl hcounted (List.prefix_refl _)

/-- What is read for an alias; there is one in the nodes then. -/
lemma copying (hp : ¬ p) (h : Lockstep p q R m m') : Lockstep p q R (copying m) (copying m') := by
  intro d d' hd
  have hinside := h { d with depth := d.depth + 1 } { d' with depth := d'.depth + 1 }
    ⟨hd.misfits, by simp [hd.depth], hd.lead, fun hp' => absurd hp' hp⟩
  rw [run_copying, run_copying]
  generalize StateT.run m _ = r, StateT.run m' _ = r' at hinside
  cases hinside with
  | given hab he hms =>
    refine .given hab ⟨he.misfits, ?_, he.lead, fun hp' => absurd hp' hp⟩ hms
    simp [he.depth]
  | failed failure => exact .failed failure
  | excessive _ hp => exact .excessive _ hp

/-- A fold is in lockstep if each of its steps is, with the relation as the invariant. -/
lemma foldlM {ι : Type} {f : α → ι → Decode α} {f' : β → ι → Decode β} {xs : List ι} {a : α}
    {b : β} (hab : R a b) (hstep : ∀ x ∈ xs, ∀ a b, R a b → Lockstep p q R (f a x) (f' b x)) :
    Lockstep p q R (xs.foldlM f a) (xs.foldlM f' b) := by
  induction xs generalizing a b with
  | nil => exact pure hab
  | cons x xs ih =>
    rw [List.foldlM_cons, List.foldlM_cons]
    refine bind (hstep x (by simp) a b hab) fun a b hab => ih hab ?_
    exact fun y hy => hstep y (by simp [hy])

/-- What is known of a value that is read. -/
lemma and_yields {P : α → Prop} (h : Lockstep p q R m m') (hP : m.Yields P) :
    Lockstep p q (fun a b => R a b ∧ P a) m m' := by
  intro d d' hd
  have hends := h d d' hd
  have hyields := hP d
  generalize StateT.run m d = r, StateT.run m' d' = r' at hends hyields
  cases hends with
  | given hab he hms => exact .given ⟨hab, hyields _ _ rfl⟩ he hms
  | failed failure => exact .failed failure
  | excessive _ hp => exact .excessive _ hp

end Lockstep

/-- A reading without aliases reads no copies. -/
lemma Lockstep.aliasless {R : α → α → Prop} (h : Lockstep p q R m m) {d d' : Decoding} {a : α}
    (hd : p → d.copies = 0 ∧ d.depth = 0) (hrun : StateT.run m d = .ok (a, d')) :
    p → d'.copies = 0 ∧ d'.depth = 0 := by
  have hends := h d d (.refl hd)
  rw [hrun] at hends
  cases hends with
  | given _ hahead _ => exact hahead.aliasless

/-! ### Scalars and keys -/

lemma noteRepeated_lockstep (entries : List (Node × Node)) :
    Lockstep p q Eq (noteRepeated entries) (noteRepeated entries) :=
  .bind_same (.forM_note _) fun _ => .pure rfl

lemma scalarValue_lockstep (tag : Tag) (text : Text) :
    Lockstep p q Eq (scalarValue tag text) (scalarValue tag text) := by
  unfold scalarValue
  split
  · exact .throw _
  · split
    · split
      · exact .pure rfl
      · exact .throw _
    · exact .pure rfl

lemma scalar_lockstep (wanted : Text) (read : ScalarReader α) (n : Node) :
    Lockstep p q Eq (scalar wanted read n) (scalar wanted read n) := by
  cases n with
  | reference line name target => exact .pure rfl
  | scalar line tag text =>
    refine .bind_same (scalarValue_lockstep tag text) fun v => ?_
    split
    · exact .pure rfl
    · split
      · exact .pure rfl
      · exact .bind_same (.note _) fun _ => .pure rfl
  | sequence line tag items => exact .bind_same (.note _) fun _ => .pure rfl
  | mapping line tag entries =>
    refine .bind_same (noteRepeated_lockstep entries) fun b => ?_
    cases b with
    | true => exact .pure rfl
    | false => exact .bind_same (.note _) fun _ => .pure rfl

/-- Two readings that are in lockstep on every node are so on what a node stands for. -/
lemma follow_lockstep {read : Node → Decode α} {read' : Node → Decode β} {n : Node}
    (hn : p → n.Aliasless)
    (hread : ∀ k : Node, (p → k.Aliasless) → Lockstep p q R (read k) (read' k)) :
    Lockstep p q R (follow read n) (follow read' n) := by
  induction n using follow.induct with
  | case1 line name target ih =>
    have hp : ¬ p := fun hp => Node.not_aliasless_reference (hn hp)
    rw [follow, follow]
    exact .bind_same .count fun _ => .copying hp (ih fun hp' => absurd hp' hp)
  | case2 line name =>
    rw [follow, follow]
    exact .bind_same .count fun _ => .throw _
  | case3 n htarget hempty =>
    rw [follow, follow]
    · exact .bind_same .count fun _ => hread n hn
    all_goals assumption

/-- A key beside a merge is read in lockstep. A collection ends both readings alike, since it is
read by itself. -/
lemma readKey_lockstep {k : Node} (hk : p → k.Aliasless) :
    Lockstep p q Eq (readKey k) (readKey k) := by
  induction k using follow.induct with
  | case1 line name target ih =>
    have hp : ¬ p := fun hp => Node.not_aliasless_reference (hk hp)
    rw [readKey]
    exact .bind_same .count fun _ => .copying hp (ih fun hp' => absurd hp' hp)
  | case2 line name =>
    rw [readKey]
    exact .bind_same .count fun _ => .throw _
  | case3 k htarget hempty =>
    cases k with
    | scalar line tag text =>
      rw [readKey]
      exact .bind_same .count fun _ => .bind_same (scalarValue_lockstep tag text) fun _ => .pure rfl
    | sequence line tag items =>
      rw [readKey]
      exact .bind_same .count fun _ => .throw _
    | mapping line tag entries =>
      rw [readKey]
      refine .bind_same .count fun _ => .bind_same (noteRepeated_lockstep entries) fun b => ?_
      cases b with
      | true => exact .pure rfl
      | false => exact .throw _
    | reference line name target =>
      cases target with
      | none => exact absurd rfl (hempty line name)
      | some n => exact absurd rfl (htarget line name n)

lemma keysOf_lockstep {entries : List (Node × Node)} (h : p → ∀ e ∈ entries, e.1.Aliasless) :
    Lockstep p q Eq (keysOf entries) (keysOf entries) := by
  induction entries with
  | nil =>
    rw [keysOf]
    exact .pure rfl
  | cons e rest ih =>
    rw [keysOf]
    refine .bind_same (readKey_lockstep fun hp => h hp e (by simp)) fun key => ?_
    exact .bind_same (ih fun hp o ho => h hp o (by simp [ho])) fun keys => .pure rfl

end Decode

/-- A field of a scalar keeps the records related if its setter does. -/
lemma Field.of_lockstep {α β : Type} {p q : Prop} {T : α → α → Prop}
    {read : Node → Decode (Option β)} {set : β → α → α}
    (hread : ∀ k : Node, (p → k.Aliasless) → Decode.Lockstep p q Eq (read k) (read k))
    (hset : ∀ b a a', T a a' → T (set b a) (set b a')) {v : Node} (hv : p → v.Aliasless) {a a' : α}
    (ha : T a a') : Decode.Lockstep p q T (Field.of read set v a) (Field.of read set v a') := by
  refine .bind_same (Decode.follow_lockstep hv hread) fun b => ?_
  cases b with
  | none => exact .pure ha
  | some b => exact .pure (hset b a a' ha)

/-! ### Filling a record -/

namespace Record

open Decode

variable {α : Type} {p q : Prop} {r : Record α} {T : α → α → Prop} {closed : List Text}

/-- Every field that is not `closed` keeps records related by `T`. -/
def PutsAlike (p q : Prop) (r : Record α) (T : α → α → Prop) (closed : List Text) : Prop :=
  ∀ name put, name ∉ closed → r.fields.lookup name = some put →
    ∀ v, (p → v.Aliasless) → ∀ a a', T a a' → Lockstep p q T (put v a) (put v a')

/-- Fields that cannot be put in any more. -/
def Filling.Closes (f : Filling α) (closed : List Text) : Prop :=
  ∀ name ∈ closed, name ∈ f.done ∨ f.isSettled name = true

/-- What is done or settled stays so. -/
structure Filling.Extends (f g : Filling α) : Prop where
  done : ∀ name ∈ f.done, name ∈ g.done
  settled : ∀ name, f.isSettled name = true → g.isSettled name = true

namespace Filling

variable {f g h : Filling α}

lemma Extends.refl (f : Filling α) : f.Extends f :=
  ⟨fun _ => id, fun _ => id⟩

lemma Extends.trans (hfg : f.Extends g) (hgh : g.Extends h) : f.Extends h :=
  ⟨fun name hname => hgh.done name (hfg.done name hname),
    fun name hname => hgh.settled name (hfg.settled name hname)⟩

/-- Fields that are closed stay closed. -/
lemma Extends.closes (hfg : f.Extends g) (h : f.Closes closed) : g.Closes closed :=
  fun name hname => (h name hname).imp (hfg.done name) (hfg.settled name)

lemma isSettled_cons (f : Filling α) (key : Scalar) {name : Text} (h : f.isSettled name = true) :
    ({ f with keys := f.keys.map (key :: ·) } : Filling α).isSettled name = true := by
  unfold isSettled at h ⊢
  cases hkeys : f.keys with
  | none => simp [hkeys] at h
  | some keys =>
    rw [hkeys] at h
    simp only [Option.map_some, Option.any_some, List.contains_cons, Bool.or_eq_true] at h ⊢
    exact .inr h

end Filling

/-- Putting a named field in keeps two fillings related. Only a field that is already done may be
one that tells the records apart. -/
lemma fillNamed_lockstep (hput : r.PutsAlike p q T closed) {f f' : Filling α} (hf : f.Related T f')
    {e : Node × Node} (he : p → e.2.Aliasless) {name : Text}
    (hname : name ∈ closed → name ∈ f.done) :
    Lockstep p q (fun g g' => g.Related T g' ∧ f.Extends g) (r.fillNamed f e name)
      (r.fillNamed f' e name) := by
  obtain ⟨hvalue, hdone, hkeys⟩ := hf
  have hsame : ({ f with keys := f.keys.map (.text name :: ·) } : Filling α).Related T
      { f' with done := f.done, keys := f'.keys.map (.text name :: ·) } :=
    ⟨hvalue, rfl, by rw [hkeys]⟩
  have hextends : f.Extends { f with keys := f.keys.map (.text name :: ·) } :=
    ⟨fun _ => id, fun _ => f.isSettled_cons _⟩
  unfold fillNamed
  dsimp only
  rw [← hdone]
  split
  · rename_i put hlookup
    split
    · exact .bind_same (.note _) fun _ => .pure ⟨hsame, hextends⟩
    · rename_i hnew
      have hopen : name ∉ closed :=
        fun hclosed => hnew (List.contains_iff_mem.mpr (hname hclosed))
      refine .bind (hput name put hopen hlookup e.2 he _ _ hvalue) fun a a' ha => .pure ⟨?_, ?_⟩
      · exact ⟨ha, rfl, by rw [hkeys]⟩
      · exact ⟨fun other hother => List.mem_cons_of_mem name hother, hextends.settled⟩
  · split
    · exact .bind_same (.note _) fun _ => .pure ⟨hsame, hextends⟩
    · exact .pure ⟨hsame, hextends⟩

lemma fillEntry_lockstep (hput : r.PutsAlike p q T closed) {f f' : Filling α} (hf : f.Related T f')
    (hclosed : f.Closes closed) {e : Node × Node} (he : p → Node.AliaslessEntry e) :
    Lockstep p q (fun g g' => g.Related T g' ∧ f.Extends g) (r.fillEntry f e)
      (r.fillEntry f' e) := by
  unfold fillEntry
  split
  · exact .pure ⟨hf, .refl f⟩
  · have htext : Lockstep p q Eq (follow text e.1) (follow text e.1) :=
      follow_lockstep (fun hp => (he hp).1) fun k _ => scalar_lockstep _ _ k
    refine .bind_same htext fun name => ?_
    cases name with
    | none => exact .pure ⟨hf, .refl f⟩
    | some name =>
      have hsettled : f'.isSettled name = f.isSettled name := by
        rw [Filling.isSettled, Filling.isSettled, hf.keys]
      dsimp only
      rw [hsettled]
      split
      · exact .pure ⟨hf, .refl f⟩
      · rename_i hopen
        refine fillNamed_lockstep hput hf (fun hp => (he hp).2) fun hname => ?_
        exact (hclosed name hname).resolve_right hopen

/-- The invariant over all entries of a mapping: the fillings are related and nothing that was done
is undone. -/
lemma fillEntries_lockstep (hput : r.PutsAlike p q T closed) {f f' : Filling α}
    (hf : f.Related T f') (hclosed : f.Closes closed) {entries : List (Node × Node)}
    (hentries : p → ∀ e ∈ entries, Node.AliaslessEntry e) :
    Lockstep p q (fun g g' => g.Related T g' ∧ f.Extends g) (entries.foldlM r.fillEntry f)
      (entries.foldlM r.fillEntry f') := by
  refine .foldlM ⟨hf, .refl f⟩ fun e he g g' hg => ?_
  refine (fillEntry_lockstep hput hg.1 (hg.2.closes hclosed) fun hp => hentries hp e he).mono ?_
  exact fun h h' hh => ⟨hh.1, hg.2.trans hh.2⟩

def Settles (keys : Option Keys) (closed : List Text) : Prop :=
  ∀ name ∈ closed, keys.any (·.contains (.text name)) = true

/-- The records are related by `T` and the keys are the same. If all of `closed` were settled, they
still are. -/
structure Merged (T : α → α → Prop) (closed : List Text) (keys : Option Keys)
    (x x' : α × Option Keys) : Prop where
  value : T x.1 x'.1
  same : x.2 = x'.2
  settles : Settles keys closed → Settles x.2 closed

/-- The keys that are settled while others are merged have all of `closed` among them. -/
def SettlesAll (p q : Prop) (entries : List (Node × Node)) (keys : Option Keys)
    (closed : List Text) : Prop :=
  Lockstep p q (fun ks ks' => ks = ks' ∧ Settles (some ks) closed) (settledKeys entries keys)
    (settledKeys entries keys)

lemma settlesAll_of_settles {keys : Option Keys} (h : Settles keys closed)
    {entries : List (Node × Node)} (hentries : p → ∀ e ∈ entries, e.1.Aliasless) :
    SettlesAll p q entries keys closed := by
  cases keys with
  | none =>
    refine (keysOf_lockstep hentries).mono fun ks ks' hks => ⟨hks, fun name hname => ?_⟩
    cases h name hname
  | some keys => exact .pure ⟨rfl, h⟩

lemma countMerged_lockstep (n : Node) : Lockstep p q Eq (countMerged n) (countMerged n) := by
  unfold countMerged
  split
  · exact .count
  · exact .count
  · exact .throw _

section

variable (p q r T closed)

/-- Related records are filled from a node in lockstep, once the closed fields are settled. -/
def FillsAlike (n : Node) (keys : Option Keys) (a : α) : Prop :=
  (p → n.Aliasless) → Settles keys closed → ∀ a', T a a' →
    Lockstep p q (Merged T closed keys) (r.fill n keys a) (r.fill n keys a')

def MergesAlike (entries rest : List (Node × Node)) (keys : Option Keys) (a : α) : Prop :=
  SettlesAll p q entries keys closed → (p → ∀ e ∈ rest, e.2.Aliasless) → ∀ a', T a a' →
    Lockstep p q (Merged T closed keys) (r.fillMerge entries rest keys a)
      (r.fillMerge entries rest keys a')

def FillsAllAlike (items : List Node) (keys : Keys) (a : α) : Prop :=
  (p → ∀ n ∈ items, n.Aliasless) → Settles (some keys) closed → ∀ a', T a a' →
    Lockstep p q (fun x x' => T x.1 x'.1 ∧ x.2 = x'.2 ∧ Settles (some x.2) closed)
      (r.fillAll items keys a) (r.fillAll items keys a')

end

/-- A mapping is filled in from its own entries first and from what these merge afterwards. -/
lemma FillsAlike.mapping (hput : r.PutsAlike p q T closed) {line : Nat} {tag : Tag}
    {entries : List (Node × Node)} {keys : Option Keys} {a : α}
    (h : ∀ f : Filling α, MergesAlike p q r T closed entries entries f.keys f.value) :
    FillsAlike p q r T closed (.mapping line tag entries) keys a := by
  intro hn hkeys a' ha
  rw [fill, fill]
  refine .bind_same (noteRepeated_lockstep entries) fun b => ?_
  cases b with
  | true => exact .pure ⟨ha, rfl, id⟩
  | false =>
    have hstart : ({ value := a, keys } : Filling α).Related T { value := a', keys } :=
      ⟨ha, rfl, rfl⟩
    refine .bind (fillEntries_lockstep hput hstart (fun name hname => .inr (hkeys name hname))
      fun hp => (hn hp).entries) ?_
    rintro f f' ⟨hf, hextends⟩
    have hsettled : Settles f.keys closed :=
      fun name hname => hextends.settled name (hkeys name hname)
    rw [← hf.keys]
    refine (h f (settlesAll_of_settles hsettled ?_) ?_ _ hf.value).mono fun x x' hx => ?_
    · exact fun hp e he => ((hn hp).entries e he).1
    · exact fun hp e he => ((hn hp).entries e he).2
    · exact ⟨hx.value, hx.same, fun _ => hx.settles hsettled⟩

/-- The keys of the mappings before are settled for those that follow in the list. -/
lemma FillsAllAlike.cons {n : Node} {ns : List Node} {keys : Keys} {a : α}
    (h : FillsAlike p q r T closed n (some keys) a)
    (hrest : ∀ (b : α) (after : Option Keys), FillsAllAlike p q r T closed ns (after.getD keys) b) :
    FillsAllAlike p q r T closed (n :: ns) keys a := by
  intro hitems hkeys a' ha
  rw [fillAll, fillAll]
  refine .bind_same (countMerged_lockstep n) fun _ => ?_
  refine .bind (h (fun hp => hitems hp n (by simp)) hkeys a' ha) ?_
  rintro ⟨b, after⟩ ⟨b', after'⟩ ⟨hb, hafter, hsettles⟩
  obtain rfl : after = after' := hafter
  have hsettled : Settles (some (after.getD keys)) closed := by
    cases after with
    | none => exact hkeys
    | some after => exact hsettles hkeys
  exact hrest b after (fun hp m hm => hitems hp m (by simp [hm])) hsettled b' hb

section

variable {entries rest : List (Node × Node)} {k : Node} {keys : Option Keys} {a : α}

/-- A sequence under a merge key is merged item by item. -/
lemma MergesAlike.items {line : Nat} {tag : Tag} {items : List Node} (hk : k.isMerge = true)
    (h : ∀ settled, FillsAllAlike p q r T closed items settled a) :
    MergesAlike p q r T closed entries ((k, .sequence line tag items) :: rest) keys a := by
  intro hsettles hrest a' ha
  rw [fillMerge, fillMerge, if_pos hk, if_pos hk]
  refine .bind hsettles ?_
  rintro settled _ ⟨rfl, hsettled⟩
  have hitems : p → ∀ n ∈ items, n.Aliasless :=
    fun hp => (hrest hp (k, .sequence line tag items) (by simp)).items
  refine .bind (h settled hitems hsettled a' ha) ?_
  rintro ⟨b, after⟩ ⟨b', after'⟩ ⟨hb, hafter, hkeys⟩
  obtain rfl : after = after' := hafter
  refine .pure ⟨hb, rfl, fun hold => ?_⟩
  cases keys with
  | none => exact hold
  | some keys => exact hkeys

/-- Anything else under a merge key is merged as one mapping. -/
lemma MergesAlike.one {v : Node} (hk : k.isMerge = true)
    (hv : ∀ line tag items, v = .sequence line tag items → False)
    (h : ∀ settled, FillsAlike p q r T closed v (some settled) a) :
    MergesAlike p q r T closed entries ((k, v) :: rest) keys a := by
  intro hsettles hrest a' ha
  rw [fillMerge_one hk hv, fillMerge_one hk hv]
  refine .bind hsettles ?_
  rintro settled _ ⟨rfl, hsettled⟩
  refine .bind_same (countMerged_lockstep v) fun _ => ?_
  refine .bind (h settled (fun hp => hrest hp (k, v) (by simp)) hsettled a' ha) ?_
  rintro ⟨b, after⟩ ⟨b', after'⟩ ⟨hb, hafter, hkeys⟩
  obtain rfl : after = after' := hafter
  refine .pure ⟨hb, rfl, fun hold => ?_⟩
  cases keys with
  | none => exact hold
  | some keys => exact hkeys hsettled

/-- An entry that does not ask for a merge is passed over. -/
lemma MergesAlike.skip {v : Node} (hk : ¬ k.isMerge = true)
    (h : MergesAlike p q r T closed entries rest keys a) :
    MergesAlike p q r T closed entries ((k, v) :: rest) keys a := by
  intro hsettles hrest a' ha
  rw [fillMerge_skip hk, fillMerge_skip hk]
  exact h hsettles (fun hp e he => hrest hp e (by simp [he])) a' ha

end

/-- A record is filled in lockstep from a node, from the mappings that the entries of a mapping
merge, and from a list of mappings. -/
lemma fill_lockstep_all (hput : r.PutsAlike p q T closed) :
    (∀ n keys a, FillsAlike p q r T closed n keys a) ∧
    (∀ entries rest keys a, MergesAlike p q r T closed entries rest keys a) ∧
    ∀ items keys a, FillsAllAlike p q r T closed items keys a := by
  refine fill.mutual_induct _ _ _ ?mapping ?target ?empty ?other ?allNil ?allCons ?mergeNil
    ?mergeItems ?skipItems ?mergeOne ?skipOne
  case mapping =>
    intro line tag entries keys a ih
    exact .mapping hput ih
  case target =>
    intro line name n keys a ih hn hkeys a' ha
    have hp : ¬ p := fun hp => Node.not_aliasless_reference (hn hp)
    rw [fill, fill]
    exact .copying hp (.bind_same .count fun _ => ih (fun hp' => absurd hp' hp) hkeys a' ha)
  case empty =>
    intro line name keys a hn hkeys a' ha
    rw [fill, fill]
    exact .throw _
  case other =>
    intro n keys a hmapping htarget hempty hn hkeys a' ha
    rw [fill, fill]
    · exact .pure ⟨ha, rfl, id⟩
    all_goals assumption
  case allNil =>
    intro keys a hitems hkeys a' ha
    rw [fillAll, fillAll]
    exact .pure ⟨ha, rfl, hkeys⟩
  case allCons =>
    intro n ns keys a ih ihAll
    exact .cons ih ihAll
  case mergeNil =>
    intro entries keys a hsettles hrest a' ha
    rw [fillMerge, fillMerge]
    exact .pure ⟨ha, rfl, id⟩
  case mergeItems =>
    intro entries k line tag items rest keys a hmerge ih
    exact .items hmerge ih
  case mergeOne =>
    intro entries k v rest keys a hv hmerge ih
    exact .one hmerge hv ih
  case skipItems =>
    intro entries k line tag items rest keys a hmerge ih
    exact .skip hmerge ih
  case skipOne =>
    intro entries k v rest keys a hv hmerge ih
    exact .skip hmerge ih

/-- A record whose fields are all read in lockstep is itself. -/
lemma decode_lockstep (hput : r.PutsAlike p q Eq []) (a : α) {n : Node} (hn : p → n.Aliasless) :
    Lockstep p q Eq (r.decode a n) (r.decode a n) := by
  have hscalar : Lockstep p q Eq (scalar r.typeName (fun _ _ => (none : Option α)) n)
      (scalar r.typeName (fun _ _ => none) n) := scalar_lockstep _ _ n
  cases n with
  | mapping line tag entries =>
    refine .bind ((fill_lockstep_all hput).1 _ none a hn (by simp [Settles]) a rfl) ?_
    rintro x x' hx
    obtain rfl : x = x' := Prod.ext hx.value hx.same
    exact .pure rfl
  | scalar _ _ _ | sequence _ _ _ | reference _ _ _ => exact hscalar

end Record

end Yaml

end CqlWriter
