import Mathlib
import CqlWriter.Proofs.ReadingCosts

/-!
# Documents that differ in one node

Two readings of a document that differ in one node do the same until they come to it, and go in
lockstep behind it. So the values differ just where the node is put in, unless the document is
refused anyway for a misfit.
-/

namespace CqlWriter

namespace Yaml

namespace Decode

variable {α β : Type} {p q : Prop} {R : α → α → Prop} {T : β → β → Prop} {m m' : Decode α}
  {f f' : α → Decode β}

/-! ### Readings that part -/

/-- The readings start in one state and part somewhere. They end alike with values that are related,
or with the same value after a misfit. -/
def Parts (p q : Prop) (R : α → α → Prop) (m m' : Decode α) : Prop :=
  ∀ d : Decoding, (p → d.copies = 0 ∧ d.depth = 0) →
    EndsAlike p q [] R (StateT.run m d) (StateT.run m' d) ∨
      ∃ ms ≠ [], EndsAlike p q ms Eq (StateT.run m d) (StateT.run m' d)

lemma run_forM_note (misfits : List Misfit) (d : Decoding) : StateT.run (misfits.forM note) d
    = .ok ((), { d with misfits := d.misfits ++ misfits }) := by
  induction misfits generalizing d with
  | nil =>
    rw [List.append_nil]
    rfl
  | cons misfit misfits ih =>
    change StateT.run (misfits.forM note) { d with misfits := d.misfits ++ [misfit] } = _
    rw [ih, List.append_assoc, List.singleton_append]

lemma run_noteRepeated (entries : List (Node × Node)) (d : Decoding) :
    StateT.run (noteRepeated entries) d = .ok (!(repeatedKeys entries).isEmpty,
      { d with misfits := d.misfits ++ repeatedKeys entries }) := by
  rw [noteRepeated, StateT.run_bind, run_forM_note]
  rfl

namespace Parts

/-- Readings that part go on in lockstep. -/
lemma bind (h : Parts p q R m m') (hf : ∀ a b, R a b → Lockstep p q T (f a) (f' b))
    (hsame : ∀ a, Lockstep p q Eq (f a) (f' a)) : Parts p q T (m >>= f) (m' >>= f') := by
  intro d hd
  rcases h d hd with hends | ⟨ms, hms, hends⟩
  · exact .inl (hends.bind hf)
  · refine .inr ⟨ms, hms, hends.bind fun a b hab => ?_⟩
    subst hab
    exact hsame a

/-- Readings part after they have gone together. -/
lemma after {P : α → Prop} (hm : Lockstep p q Eq m m) (hP : m.Yields P)
    (hf : ∀ a, P a → Parts p q T (f a) (f' a)) : Parts p q T (m >>= f) (m >>= f') := by
  intro d hd
  rw [StateT.run_bind, StateT.run_bind]
  cases hrun : StateT.run m d with
  | error failure => exact .inl (.failed failure)
  | ok x => exact hf x.1 (hP d x.1 x.2 hrun) x.2 (hm.aliasless hd hrun)

/-- A node that both readings count may come before they part. -/
lemma after_count (h : Parts p q R m m') : Parts p q R (do count; m) (do count; m') :=
  after .count (fun _ _ _ _ => trivial) fun _ _ => h

/-- With a misfit, readings that go together may as well part. -/
lemma of_note (misfit : Misfit) (h : Lockstep p q Eq m m) :
    Parts p q R (do note misfit; m) (do note misfit; m) := by
  intro d hd
  refine .inr ⟨d.misfits ++ [misfit], by simp, ?_⟩
  exact h { d with misfits := d.misfits ++ [misfit] } _ (.refl hd)

/-- A mapping with a repeated key is left as it is. -/
lemma unless_repeated (entries : List (Node × Node)) (a : α) (h : Parts p q R m m') :
    Parts p q R (do
      if ← noteRepeated entries then return a
      m) (do
      if ← noteRepeated entries then return a
      m') := by
  intro d hd
  rw [StateT.run_bind, StateT.run_bind, run_noteRepeated]
  generalize repeatedKeys entries = repeated
  cases repeated with
  | nil => exact h { d with misfits := d.misfits ++ [] } hd
  | cons misfit ms =>
    refine .inr ⟨d.misfits ++ misfit :: ms, by simp, ?_⟩
    exact .given rfl (.refl hd) (List.prefix_refl _)

/-- What becomes of readings that part: they succeed with related values or fail alike, unless only
the second one has read too much for aliases. -/
lemma run_cases (h : Parts p q R m m') :
    (∃ a b, R a b ∧ m.run = .ok a ∧ m'.run = .ok b) ∨
      (∃ failure, m.run = .error failure ∧ m'.run = .error failure) ∨
        (m'.run = .error .malformed ∧ ¬ p ∧ q) := by
  unfold Decode.run
  rcases h {} fun _ => ⟨rfl, rfl⟩ with hends | ⟨ms, hms, hends⟩
  all_goals generalize StateT.run m {} = r, StateT.run m' {} = r' at hends
  · cases hends with
    | given hab hd _ =>
      dsimp only
      rw [hd.misfits]
      split
      · exact .inl ⟨_, _, hab, rfl, rfl⟩
      · exact .inr (.inl ⟨_, rfl, rfl⟩)
    | failed failure => exact .inr (.inl ⟨failure, rfl, rfl⟩)
    | excessive _ hpq => exact .inr (.inr ⟨rfl, hpq⟩)
  · cases hends with
    | given hab hd hprefix =>
      rename_i d d'
      have hne : d.misfits ≠ [] := fun hnil => hms (List.prefix_nil.mp (hnil ▸ hprefix))
      refine .inr (.inl ⟨.misfits d.misfits, ?_, ?_⟩)
      · simp [hne]
      · simp [hd.misfits, hne]
    | failed failure => exact .inr (.inl ⟨failure, rfl, rfl⟩)
    | excessive _ hpq => exact .inr (.inr ⟨rfl, hpq⟩)

end Parts

/-! ### Lists -/

/-- Both readings give something, and what they give is related. -/
def BothGive (R : α → α → Prop) (o o' : Option α) : Prop :=
  ∃ a a', o = some a ∧ o' = some a' ∧ R a a'

lemma BothGive.eq {o o' : Option α} (h : BothGive Eq o o') : o = o' := by
  obtain ⟨a, _, rfl, rfl, rfl⟩ := h
  rfl

/-- The lists are the same but for one item. -/
def DifferAt (R : α → α → Prop) (xs ys : List α) : Prop :=
  ∃ before a b after, xs = before ++ a :: after ∧ ys = before ++ b :: after ∧ R a b

/-- A list with one item and another. -/
lemma list_parts {read : Node → Decode (Option α)} (hread : Tame read) {v v' : Node}
    (h : Parts p q (BothGive R) (follow read v) (follow read v')) {before after : List Node}
    (haliasless : p → ∀ n ∈ before ++ after, n.Aliasless) (wanted : Text) (line : Nat) (tag : Tag) :
    Parts p q (BothGive (DifferAt R)) (list wanted read (.sequence line tag (before ++ v :: after)))
      (list wanted read (.sequence line tag (before ++ v' :: after))) := by
  have hbefore : Lockstep p q Eq (before.mapM (follow read)) (before.mapM (follow read)) :=
    Tame.mapM_steady fun n hn =>
      hread.follow_steady fun hp => haliasless hp n (List.mem_append_left after hn)
  have hafter : Lockstep p q Eq (after.mapM (follow read)) (after.mapM (follow read)) :=
    Tame.mapM_steady fun n hn =>
      hread.follow_steady fun hp => haliasless hp n (List.mem_append_right before hn)
  simp only [list, items, List.mapM_append, List.mapM_cons, bind_assoc, pure_bind]
  refine .after hbefore (fun _ _ _ _ => trivial) fun xs _ => ?_
  refine .bind h (fun o o' ho => ?_) fun o => .bind_same hafter fun ys => .pure rfl
  obtain ⟨a, b, rfl, rfl, hab⟩ := ho
  refine .bind_same hafter fun ys => .pure ⟨_, _, rfl, rfl, ?_⟩
  exact ⟨xs.filterMap id, a, b, ys.filterMap id, by simp, by simp, hab⟩

/-- Nodes that are no aliases. -/
lemma follow_parts {read : Node → Decode α} {v v' : Node} (hv : v.isReference = false)
    (hv' : v'.isReference = false) (h : Parts p q R (read v) (read v')) :
    Parts p q R (follow read v) (follow read v') := by
  rw [follow_of_isReference hv, follow_of_isReference hv']
  exact h.after_count

end Decode

/-- A field with one value and another. -/
lemma Field.of_parts {α β : Type} {p q : Prop} {R : β → β → Prop} {T : α → α → Prop}
    {read : Node → Decode (Option β)} {set : β → α → α} {v v' : Node}
    (h : Decode.Parts p q (Decode.BothGive R) (Decode.follow read v) (Decode.follow read v'))
    {a : α} (hset : ∀ b b', R b b' → T (set b a) (set b' a)) :
    Decode.Parts p q T (Field.of read set v a) (Field.of read set v' a) := by
  refine h.bind ?_ fun o => ?_
  · rintro _ _ ⟨b, b', rfl, rfl, hb⟩
    exact .pure (hset b b' hb)
  · cases o <;> exact .pure rfl

/-! ### One entry of a mapping -/

/-- A mapping with a gap for the value of one entry. -/
structure MappingFrame where
  line : Nat
  tag : Tag
  before : List (Node × Node)
  keyLine : Nat
  after : List (Node × Node)

namespace MappingFrame

def node (m : MappingFrame) (name : Text) (v : Node) : Node :=
  .mapping m.line m.tag (m.before ++ (.scalar m.keyLine .str name, v) :: m.after)

def Aliasless (m : MappingFrame) : Prop :=
  ∀ e ∈ m.before ++ m.after, Node.AliaslessEntry e

end MappingFrame

namespace Record

open Decode

variable {α : Type} {p q : Prop} {r : Record α} {T : α → α → Prop} {closed : List Text}

section

variable {es es' : List (Node × Node)} (h : es.map Prod.fst = es'.map Prod.fst)
include h

omit h in
lemma repeatedKeys_map_fst (es : List (Node × Node)) :
    repeatedKeys ((es.map Prod.fst).map fun k => (k, k)) = repeatedKeys es := by
  induction es with
  | nil => rfl
  | cons e es ih =>
    rw [List.map_cons, List.map_cons, repeatedKeys, repeatedKeys, ih]
    simp [List.filter_map, Function.comp_def]

/-- Which keys are repeated is a matter of the keys alone. -/
lemma noteRepeated_congr : noteRepeated es = noteRepeated es' := by
  rw [noteRepeated, noteRepeated, ← repeatedKeys_map_fst es, h, repeatedKeys_map_fst]

omit h in
lemma keysOf_map_fst (es : List (Node × Node)) :
    keysOf ((es.map Prod.fst).map fun k => (k, k)) = keysOf es := by
  induction es with
  | nil => rfl
  | cons e es ih =>
    rw [List.map_cons, List.map_cons, keysOf, keysOf, ih]

lemma settledKeys_congr (keys : Option Keys) : settledKeys es keys = settledKeys es' keys := by
  cases keys with
  | none => rw [settledKeys, settledKeys, ← keysOf_map_fst es, h, keysOf_map_fst]
  | some keys => rfl

/-- The entries that merge others matter by their keys only. -/
lemma fillMerge_congr (rest : List (Node × Node)) (keys : Option Keys) (a : α) :
    r.fillMerge es rest keys a = r.fillMerge es' rest keys a := by
  induction rest with
  | nil => rw [fillMerge, fillMerge]
  | cons e rest ih =>
    obtain ⟨k, v⟩ := e
    by_cases hk : k.isMerge = true
    · cases v with
      | sequence line tag items =>
        rw [fillMerge, fillMerge, if_pos hk, if_pos hk, settledKeys_congr h]
      | scalar _ _ _ | mapping _ _ _ | reference _ _ _ =>
        rw [fillMerge_one hk (by simp), fillMerge_one hk (by simp), settledKeys_congr h]
    · rw [fillMerge_skip hk, fillMerge_skip hk, ih]

end

/-- An entry that does not merge may be left out of the search for merges. -/
lemma fillMerge_drop {k : Node} (hk : ¬ k.isMerge = true) (es before : List (Node × Node))
    (v : Node) (after : List (Node × Node)) (keys : Option Keys) (a : α) :
    r.fillMerge es (before ++ (k, v) :: after) keys a
      = r.fillMerge es (before ++ after) keys a := by
  induction before with
  | nil => exact fillMerge_skip hk es v after keys a
  | cons e before ih =>
    obtain ⟨k', v'⟩ := e
    rw [List.cons_append, List.cons_append]
    by_cases hk' : k'.isMerge = true
    · cases v' with
      | sequence line tag items => rw [fillMerge, fillMerge, if_pos hk', if_pos hk']
      | scalar _ _ _ | mapping _ _ _ | reference _ _ _ =>
        rw [fillMerge_one hk' (by simp), fillMerge_one hk' (by simp)]
    · rw [fillMerge_skip hk', fillMerge_skip hk', ih]

/-- Read a record from the entries behind the one with the key `k` and then from what is merged. -/
def decodeBehind (r : Record α) (k : Node) (before after : List (Node × Node)) (f : Filling α) :
    Decode (Option α) := do
  let f ← after.foldlM r.fillEntry f
  let (a, _) ← r.fillMerge (before ++ (k, k) :: after) (before ++ after) f.keys f.value
  pure (some a)

/-- The value of an entry that does not merge is read at its place and nowhere else. -/
lemma decode_entry {k : Node} (hk : ¬ k.isMerge = true) (line : Nat) (tag : Tag)
    (before after : List (Node × Node)) (v : Node) (a : α) :
    r.decode a (.mapping line tag (before ++ (k, v) :: after)) = (do
      if ← noteRepeated (before ++ (k, k) :: after) then return some a
      let f ← before.foldlM r.fillEntry { value := a, keys := none }
      let f ← r.fillEntry f (k, v)
      r.decodeBehind k before after f) := by
  have hkeys : (before ++ (k, v) :: after).map Prod.fst
      = (before ++ (k, k) :: after).map Prod.fst := by simp
  rw [decode, fill, noteRepeated_congr hkeys]
  simp only [fillMerge_congr hkeys, fillMerge_drop hk, List.foldlM_append, List.foldlM_cons,
    bind_assoc, decodeBehind]
  congr 1
  funext b
  cases b <;> simp

lemma fillEntry_yields_keys {f : Filling α} (hf : f.keys = none) (e : Node × Node) :
    (r.fillEntry f e).Yields fun g => g.keys = none := by
  have hmap : ∀ name, f.keys.map (Scalar.text name :: ·) = none := by simp [hf]
  unfold fillEntry
  split
  · exact .pure hf
  · refine .after fun name => ?_
    cases name with
    | none => exact .pure hf
    | some name =>
      dsimp only
      split
      · exact .pure hf
      · unfold fillNamed
        dsimp only
        split
        · split
          · exact .after fun _ => .pure (hmap name)
          · exact .after fun _ => .pure (hmap name)
        · split
          · exact .after fun _ => .pure (hmap name)
          · exact .pure (hmap name)

lemma fillEntries_yields_keys {f : Filling α} (hf : f.keys = none) (entries : List (Node × Node)) :
    (entries.foldlM r.fillEntry f).Yields fun g => g.keys = none :=
  .foldlM hf fun e _ _ hg => fillEntry_yields_keys hg e

/-- A key of a mapping is settled when the mapping merges others. -/
lemma keysOf_yields {line : Nat} {name : Text} {v : Node} {entries : List (Node × Node)}
    (h : (.scalar line .str name, v) ∈ entries) :
    (keysOf entries).Yields fun ks => Settles (some ks) [name] := by
  induction entries with
  | nil => cases h
  | cons e rest ih =>
    rw [keysOf]
    rcases List.mem_cons.mp h with rfl | h
    · have hkey : (readKey (.scalar line .str name)).Yields fun o => o = some (.text name) :=
        .after fun _ => .pure rfl
      refine .bind hkey fun o ho => ?_
      subst ho
      exact .after fun ks => .pure (by simp [Settles])
    · refine .after fun o => .bind (ih h) fun ks hks => .pure fun other hother => ?_
      have hsettled := hks other hother
      simp only [Option.any_some, List.contains_iff_mem, List.mem_append] at hsettled ⊢
      exact .inr hsettled

/-- Behind the entry in which two mappings differ the readings are in lockstep, once its field is
done. -/
lemma decodeBehind_lockstep {name : Text} (hput : r.PutsAlike p q T [name]) {line : Nat}
    {before after : List (Node × Node)}
    (haliasless : p → ∀ e ∈ before ++ after, Node.AliaslessEntry e) {f f' : Filling α}
    (hf : f.Related T f') (hkeys : f.keys = none) (hdone : name ∈ f.done) :
    Lockstep p q (BothGive T) (r.decodeBehind (.scalar line .str name) before after f)
      (r.decodeBehind (.scalar line .str name) before after f') := by
  have hcloses : f.Closes [name] := by simpa [Filling.Closes] using .inl hdone
  have hafter := fillEntries_lockstep hput hf hcloses
    fun hp e he => haliasless hp e (List.mem_append_right before he)
  refine .bind (hafter.and_yields (fillEntries_yields_keys hkeys after)) ?_
  rintro g g' ⟨⟨hg, -⟩, hnone⟩
  have hsettles : SettlesAll p q (before ++ (.scalar line .str name, .scalar line .str name)
      :: after) none [name] := by
    refine (keysOf_lockstep fun hp e he => ?_).and_yields
      (keysOf_yields (List.mem_append_right before List.mem_cons_self))
    rw [List.mem_append, List.mem_cons] at he
    rcases he with he | rfl | he
    · exact (haliasless hp e (List.mem_append_left after he)).1
    · exact .scalar _ _ _
    · exact (haliasless hp e (List.mem_append_right before he)).1
  rw [← hg.keys, hnone]
  refine .bind ((fill_lockstep_all hput).2.1 _ _ none _ hsettles ?_ _ hg.value) fun x x' hx => ?_
  · exact fun hp e he => (haliasless hp e he).2
  · exact .pure ⟨x.1, x'.1, rfl, rfl, hx.value⟩

lemma not_isMerge_str (line : Nat) (name : Text) :
    ¬ (Node.scalar line .str name).isMerge = true := by
  simp [Node.isMerge]

section

variable {name : Text} {put : Node → α → Decode α} (hname : r.fields.lookup name = some put)
include hname

/-- A field is put in unless it is done already, which does not fit. -/
lemma fillEntry_str {f : Filling α} (hkeys : f.keys = none) (line : Nat) (v : Node) :
    r.fillEntry f (.scalar line .str name, v) = (do
      count
      if f.done.contains name then
        note (.repeatedField line name r.typeName)
        pure f
      else
        let a ← put v f.value
        pure ⟨a, name :: f.done, none⟩) := by
  obtain ⟨value, done, keys⟩ := f
  obtain rfl : keys = none := hkeys
  have htext : follow text (.scalar line .str name) = (do count; pure (some name)) := rfl
  rw [fillEntry, if_neg (not_isMerge_str line name), htext, bind_assoc]
  simp only [pure_bind, fillNamed, hname, Option.map_none, Filling.isSettled, Option.any_none]
  rfl

/-- A record that is read from a mapping with one value and another. -/
lemma decode_parts (hr : r.Tame) (hrest : r.PutsAlike p q T [name])
    {m : MappingFrame} (hm : p → m.Aliasless) {v v' : Node}
    (hput : ∀ a, Parts p q T (put v a) (put v' a)) (a : α) :
    Parts p q (BothGive T) (r.decode a (m.node name v)) (r.decode a (m.node name v')) := by
  have hothers : r.PutsAlike p q Eq [name] := fun other put _ => hr.putsSame other put (by simp)
  have hbehind : ∀ f : Filling α, f.keys = none → name ∈ f.done → Lockstep p q Eq
      (r.decodeBehind (.scalar m.keyLine .str name) m.before m.after f)
      (r.decodeBehind (.scalar m.keyLine .str name) m.before m.after f) :=
    fun f hkeys hdone => (decodeBehind_lockstep hothers hm ⟨rfl, rfl, rfl⟩ hkeys hdone).mono
      fun _ _ => BothGive.eq
  -- what stands before the entry is read before it makes a difference
  have hbefore : Lockstep p q Eq
      (m.before.foldlM r.fillEntry { value := a, keys := none })
      (m.before.foldlM r.fillEntry { value := a, keys := none }) := by
    refine (fillEntries_lockstep hr.putsSame ⟨rfl, rfl, rfl⟩ (by simp [Filling.Closes])
      fun hp e he => hm hp e (List.mem_append_left m.after he)).mono ?_
    rintro ⟨_, _, _⟩ ⟨_, _, _⟩ ⟨⟨rfl, rfl, rfl⟩, -⟩
    rfl
  rw [MappingFrame.node, MappingFrame.node, decode_entry (not_isMerge_str _ _),
    decode_entry (not_isMerge_str _ _)]
  refine .unless_repeated _ _ ?_
  refine .after hbefore (fillEntries_yields_keys rfl m.before) fun f hkeys => ?_
  rw [fillEntry_str hname hkeys, fillEntry_str hname hkeys, bind_assoc, bind_assoc]
  refine .after .count (fun _ _ _ _ => trivial) fun _ _ => ?_
  by_cases hdone : f.done.contains name = true
  · rw [if_pos hdone, if_pos hdone, bind_assoc]
    simp only [pure_bind]
    exact .of_note _ (hbehind f hkeys (List.contains_iff_mem.mp hdone))
  · rw [if_neg hdone, if_neg hdone, bind_assoc, bind_assoc]
    simp only [pure_bind]
    refine .bind (hput f.value) (fun b b' hb => ?_) fun b => hbehind _ rfl List.mem_cons_self
    exact decodeBehind_lockstep hrest hm ⟨hb, rfl, rfl⟩ rfl List.mem_cons_self

end

end Record

end Yaml

end CqlWriter
