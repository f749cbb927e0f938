import Mathlib
import CqlWriter.Proofs.Decoding

/-!
# How a reading fails

Which failures a reading can end with is told by a predicate, which is put together like the
readings. Where every alias has a target, no reading meets an alias again below itself. If besides
no key beside a merge stands for a collection, the entries of map literals are read without a
breakdown.
-/

namespace CqlWriter

namespace Yaml

/-! ### Failures of one kind -/

namespace Failure

/-- The failure is not that an alias is met again below itself. -/
def Acyclic (f : Failure) : Prop :=
  ∀ name, f ≠ .selfContaining name

/-- The failure can be reported. -/
def Reported (f : Failure) : Prop :=
  f.crash? = none

/-- The failure can be reported, and comes from no alias that is met again below itself. -/
def Plain (f : Failure) : Prop :=
  f.Reported ∧ f.Acyclic

lemma reported_of_plain (f : Failure) (h : f.Plain) : f.Reported :=
  h.1

lemma acyclic_of_plain (f : Failure) (h : f.Plain) : f.Acyclic :=
  h.2

lemma plain_misfits (ms : List Misfit) : Plain (.misfits ms) :=
  ⟨rfl, by simp [Acyclic]⟩

end Failure

namespace Decode

variable {α β : Type} {m : Decode α} {P : Failure → Prop}

/-- Every failure that a reading ends with satisfies `P`, whatever was read before. -/
def FailsOnly (m : Decode α) (P : Failure → Prop) : Prop :=
  ∀ d, CqlWriter.FailsOnly (StateT.run m d) P

namespace FailsOnly

lemma pure (a : α) : FailsOnly (Pure.pure a) P :=
  EndsOnly.pure a

lemma throw {failure : Failure} (h : P failure) : FailsOnly (throw failure : Decode α) P :=
  EndsOnly.throw h

lemma modify (f : Decoding → Decoding) : FailsOnly (modify f : Decode Unit) P :=
  EndsOnly.modify f

lemma bind {f : α → Decode β} (hm : m.FailsOnly P) (hf : ∀ a, (f a).FailsOnly P) :
    (m >>= f).FailsOnly P :=
  EndsOnly.bind hm hf

lemma copying (hm : m.FailsOnly P) : (copying m).FailsOnly P :=
  .bind (.modify _) fun _ => .bind hm fun a => .bind (.modify _) fun _ => .pure a

/-- A fold fails with what its steps fail with. -/
lemma foldlM {f : α → β → Decode α} {xs : List β} (hstep : ∀ x ∈ xs, ∀ a, (f a x).FailsOnly P)
    (a : α) : (xs.foldlM f a).FailsOnly P := by
  induction xs generalizing a with
  | nil => exact .pure a
  | cons x xs ih =>
    rw [List.foldlM_cons]
    exact .bind (hstep x (by simp) a) fun b => ih (fun y hy => hstep y (by simp [hy])) b

lemma mapM {f : β → Decode α} {xs : List β} (hf : ∀ x ∈ xs, (f x).FailsOnly P) :
    (xs.mapM f).FailsOnly P := by
  induction xs with
  | nil => exact .pure []
  | cons x xs ih =>
    rw [List.mapM_cons]
    exact .bind (hf x (by simp)) fun y => .bind (ih fun z hz => hf z (by simp [hz])) fun ys =>
      .pure (y :: ys)

lemma forM_note (misfits : List Misfit) : FailsOnly (misfits.forM note) P := by
  induction misfits with
  | nil => exact .pure ()
  | cons misfit misfits ih => exact .bind (.modify _) fun _ => ih

lemma noteRepeated (entries : List (Node × Node)) : FailsOnly (noteRepeated entries) P :=
  .bind (.forM_note _) fun _ => .pure _

section

variable (hP : ∀ f : Failure, f.Plain → P f)

include hP

lemma count : FailsOnly count P := by
  refine .bind (.modify _) fun _ => .bind (fun _ => .ok _) fun d => ?_
  split
  · exact .throw (hP _ ⟨rfl, by simp [Failure.Acyclic]⟩)
  · exact .pure ()

lemma countMerged (n : Node) : FailsOnly (countMerged n) P := by
  unfold Decode.countMerged
  split
  · exact count hP
  · exact count hP
  · exact .throw (hP _ ⟨rfl, by simp [Failure.Acyclic]⟩)

lemma scalarValue (tag : Tag) (text : Text) : FailsOnly (scalarValue tag text) P := by
  unfold Decode.scalarValue
  split
  · exact .throw (hP _ ⟨rfl, by simp [Failure.Acyclic]⟩)
  · split
    · split
      · exact .pure _
      · exact .throw (hP _ ⟨rfl, by simp [Failure.Acyclic]⟩)
    · exact .pure _

lemma scalar (wanted : Text) (read : ScalarReader α) (n : Node) :
    FailsOnly (scalar wanted read n) P := by
  cases n with
  | reference line name target => exact .pure none
  | sequence line tag items => exact .bind (.modify _) fun _ => .pure none
  | mapping line tag entries =>
    refine .bind (.noteRepeated entries) fun repeated => ?_
    cases repeated with
    | true => exact .pure none
    | false => exact .bind (.modify _) fun _ => .pure none
  | scalar line tag text =>
    refine .bind (scalarValue hP tag text) fun v => ?_
    split
    · exact .pure none
    · split
      · exact .pure _
      · exact .bind (.modify _) fun _ => .pure none

/-- Without cycles no alias is met again, so that following one adds no failure. -/
lemma follow {read : Node → Decode α} {n : Node} (hn : n.Acyclic)
    (hread : (read n.resolved).FailsOnly P) : (follow read n).FailsOnly P := by
  induction hn with
  | reference _ ih =>
    rw [Node.resolved] at hread
    exact .bind (count hP) fun _ => .copying (ih hread)
  | scalar _ _ _ | sequence _ _ | mapping _ _ _ _ =>
    rw [Node.resolved] at hread
    · exact .bind (count hP) fun _ => hread
    · simp

/-- Misfits are collected to a failure of their own at the end. -/
lemma run (hm : m.FailsOnly P) : CqlWriter.FailsOnly m.run P := by
  have hends := hm {}
  unfold Decode.run
  split
  · split
    · exact .ok _
    · exact .error (hP _ (Failure.plain_misfits _))
  · rename_i failure hfailure
    exact .error (hends failure hfailure)

end

end FailsOnly

end Decode

/-! ### Nodes without cycles -/

section

open Decode

/-- No reading of a node meets an alias again below itself. -/
structure Node.ReadsAcyclic (n : Node) : Prop where
  any : (readAny n).FailsOnly Failure.Acyclic
  into : ∀ texts g, (readInto texts n g).FailsOnly Failure.Acyclic
  key : (readKey n).FailsOnly Failure.Acyclic
  merged : ∀ line tag items, n = .sequence line tag items →
    ∀ texts g, (readMerged texts items g).FailsOnly Failure.Acyclic

lemma readItems_acyclic {items : List Node} (h : ∀ n ∈ items, n.ReadsAcyclic) :
    (readItems items).FailsOnly Failure.Acyclic := by
  induction items with
  | nil =>
    rw [readItems]
    exact .pure []
  | cons n ns ih =>
    rw [readItems]
    refine .bind (h n (by simp)).any fun v => ?_
    exact .bind (ih fun m hm => h m (by simp [hm])) fun vs => .pure _

/-- A key that cannot be compared is refused, but not for a cycle. -/
lemma entryKey_acyclic (texts merged : Bool) {k : Node} (hk : k.Acyclic) (h : k.ReadsAcyclic) :
    (entryKey texts merged k (readAny k)).FailsOnly Failure.Acyclic := by
  unfold entryKey
  cases texts with
  | true =>
    refine .bind (.follow Failure.acyclic_of_plain hk ?_) fun name => .pure _
    exact .scalar Failure.acyclic_of_plain _ _ _
  | false =>
    refine .bind h.any fun v => ?_
    rcases v with _ | s | items | ⟨texts, entries⟩
    · exact .pure _
    · exact .pure _
    · exact .throw (by cases merged <;> simp [Failure.Acyclic])
    · exact .throw (by cases merged <;> simp [Failure.Acyclic])

lemma readEntries_acyclic (texts : Bool) {entries : List (Node × Node)}
    (hkeys : ∀ e ∈ entries, e.1.Acyclic)
    (h : ∀ e ∈ entries, e.1.ReadsAcyclic ∧ e.2.ReadsAcyclic) (g : Gathering) :
    (readEntries texts entries g).FailsOnly Failure.Acyclic := by
  induction entries generalizing g with
  | nil =>
    rw [readEntries]
    exact .pure g
  | cons e rest ih =>
    obtain ⟨k, v⟩ := e
    obtain ⟨hkey, hvalue⟩ := h (k, v) (by simp)
    have hrest := ih (fun o ho => hkeys o (by simp [ho])) fun o ho => h o (by simp [ho])
    rw [readEntries]
    split
    · exact hrest g
    · refine .bind (entryKey_acyclic texts _ (hkeys (k, v) (by simp)) hkey) fun key => ?_
      cases key with
      | none => exact hrest g
      | some key =>
        dsimp only
        split
        · exact hrest g
        · refine .bind hvalue.any fun w => ?_
          cases w with
          | none => exact hrest _
          | some w => exact hrest _

lemma readMerged_acyclic (texts : Bool) {items : List Node} (h : ∀ n ∈ items, n.ReadsAcyclic)
    (g : Gathering) : (readMerged texts items g).FailsOnly Failure.Acyclic := by
  induction items generalizing g with
  | nil =>
    rw [readMerged]
    exact .pure g
  | cons n ns ih =>
    rw [readMerged]
    exact .bind (.countMerged Failure.acyclic_of_plain n) fun _ =>
      .bind ((h n (by simp)).into texts g) fun g => ih (fun m hm => h m (by simp [hm])) g

lemma readMerge_acyclic (texts : Bool) {own : Decode Keys} (hown : own.FailsOnly Failure.Acyclic)
    {entries : List (Node × Node)} (h : ∀ e ∈ entries, e.2.ReadsAcyclic) (g : Gathering) :
    (readMerge texts own entries g).FailsOnly Failure.Acyclic := by
  have hsettled : (g.settled.elim own pure).FailsOnly Failure.Acyclic := by
    cases g.settled with
    | none => exact hown
    | some keys => exact .pure keys
  induction entries with
  | nil =>
    rw [readMerge]
    exact .pure g
  | cons e rest ih =>
    obtain ⟨k, v⟩ := e
    have hvalue := h (k, v) (by simp)
    have hrest := ih fun o ho => h o (by simp [ho])
    unfold readMerge
    split
    · cases ‹_ :: _ = []›
    · rename_i heq
      cases heq
      split
      · exact .bind hsettled fun settled =>
          .bind (hvalue.merged _ _ _ rfl texts _) fun after => .pure _
      · exact hrest
    · rename_i heq
      cases heq
      split
      · exact .bind hsettled fun settled =>
          .bind (.countMerged Failure.acyclic_of_plain v) fun _ =>
            .bind (hvalue.into texts _) fun after => .pure _
      · exact hrest

lemma keysOf_failsOnly {P : Failure → Prop} {entries : List (Node × Node)}
    (h : ∀ e ∈ entries, (readKey e.1).FailsOnly P) : (keysOf entries).FailsOnly P := by
  induction entries with
  | nil =>
    rw [keysOf]
    exact .pure []
  | cons e rest ih =>
    rw [keysOf]
    refine .bind (h e (by simp)) fun key => ?_
    exact .bind (ih fun o ho => h o (by simp [ho])) fun keys => .pure _

/-- A failure about a key comes from a cycle only if reading the key does. -/
lemma keyFailure_acyclic {α : Type} (type : Text) {m : Decode α} (h : m.FailsOnly Failure.Acyclic) :
    (keyFailure type m).Acyclic := by
  have hends := h {}
  unfold keyFailure
  split
  · simp [Failure.Acyclic]
  · rename_i failure _ hfailure
    exact hends failure hfailure
  · simp [Failure.Acyclic]

/-- Nothing read of a node without cycles meets one. The induction is on the node. -/
lemma Node.Acyclic.reads {n : Node} (h : n.Acyclic) : n.ReadsAcyclic := by
  have hcount : count.FailsOnly Failure.Acyclic := .count Failure.acyclic_of_plain
  induction h with
  | scalar line tag text =>
    have hvalue := FailsOnly.scalarValue Failure.acyclic_of_plain tag text
    refine ⟨?_, fun texts g => ?_, ?_, by simp⟩
    · rw [readAny]
      exact .bind hcount fun _ => .bind hvalue fun v => .pure _
    · rw [readInto]
      · exact .pure g
      all_goals simp
    · rw [readKey]
      exact .bind hcount fun _ => .bind hvalue fun v => .pure _
  | @sequence line tag items _ ih =>
    have hitems := readItems_acyclic ih
    refine ⟨?_, fun texts g => ?_, ?_, ?_⟩
    · rw [readAny]
      exact .bind hcount fun _ => .bind hitems fun vs => .pure _
    · rw [readInto]
      · exact .pure g
      all_goals simp
    · rw [readKey]
      exact .bind hcount fun _ => .throw (keyFailure_acyclic _ hitems)
    · rintro _ _ _ ⟨⟩ texts g
      exact readMerged_acyclic texts ih g
  | @mapping line tag entries hkeys hvalues ihKeys ihValues =>
    have hgather : ∀ texts g, Decode.FailsOnly (do
        let g ← readEntries texts entries g
        readMerge texts (keysOf entries) entries g) Failure.Acyclic := by
      intro texts g
      refine .bind (readEntries_acyclic texts hkeys (fun e he => ⟨ihKeys e he, ihValues e he⟩) g)
        fun g => ?_
      exact readMerge_acyclic texts (keysOf_failsOnly fun e he => (ihKeys e he).key) ihValues g
    refine ⟨?_, fun texts g => ?_, ?_, by simp⟩
    · rw [readAny]
      refine .bind hcount fun _ => .bind (.noteRepeated entries) fun repeated => ?_
      cases repeated with
      | true => exact .pure none
      | false =>
        have hmap := (hgather (keysAreTexts entries) {}).bind fun g =>
          .pure (some (Loose.map (keysAreTexts entries) g.entries))
        rw [bind_assoc] at hmap
        exact hmap
    · rw [readInto]
      refine .bind (.noteRepeated entries) fun repeated => ?_
      cases repeated with
      | true => exact .pure g
      | false => exact hgather texts g
    · rw [readKey]
      refine .bind hcount fun _ => .bind (.noteRepeated entries) fun repeated => ?_
      cases repeated with
      | true => exact .pure none
      | false => exact .throw (keyFailure_acyclic _ (hgather _ {}))
  | reference _ ih =>
    refine ⟨?_, fun texts g => ?_, ?_, by simp⟩
    · rw [readAny]
      exact .bind hcount fun _ => .copying ih.any
    · rw [readInto]
      exact .copying (.bind hcount fun _ => ih.into texts g)
    · rw [readKey]
      exact .bind hcount fun _ => .copying ih.key

end

/-! ### Records -/

namespace Node

/-- Reading the keys of the mappings in a node that merge others fails only as `P` says. -/
def MergesOnly (P : Failure → Prop) (n : Node) : Prop :=
  ∀ line tag entries, n = .mapping line tag entries ∨ n.Contains (.mapping line tag entries) →
    (∃ e ∈ entries, e.1.isMerge = true) → (keysOf entries).FailsOnly P

/-- What merges inside a part merges inside the whole. -/
lemma MergesOnly.of_contains {P : Failure → Prop} {n m : Node} (h : n.MergesOnly P)
    (hm : n.Contains m) : m.MergesOnly P := by
  intro line tag entries hentries
  refine h line tag entries (.inr ?_)
  rcases hentries with rfl | hinside
  · exact hm
  · exact .trans hm hinside

end Node

namespace Record

variable {α : Type} {r : Record α} {P : Failure → Prop}

lemma settledKeys_failsOnly {entries : List (Node × Node)} (h : (keysOf entries).FailsOnly P)
    (keys : Option Keys) : (settledKeys entries keys).FailsOnly P := by
  cases keys with
  | none => exact h
  | some keys => exact .pure keys

/-- Putting in the value `v` fails only as `P` says, whichever field it is for. -/
def PutsOnly (r : Record α) (P : Failure → Prop) (v : Node) : Prop :=
  ∀ name put, r.fields.lookup name = some put → ∀ a, (put v a).FailsOnly P

/-- No alias, no merge and no value in a node makes the filling of a record fail but as `P` says. -/
structure FillsOnly (r : Record α) (P : Failure → Prop) (n : Node) : Prop where
  acyclic : n.Acyclic
  merges : n.MergesOnly P
  puts : ∀ v, n.Contains v → r.PutsOnly P v

lemma FillsOnly.of_contains {n m : Node} (h : r.FillsOnly P n) (hm : n.Contains m) :
    r.FillsOnly P m :=
  ⟨h.acyclic.of_contains hm, h.merges.of_contains hm, fun v hv => h.puts v (.trans hm hv)⟩

lemma FillsOnly.resolved {n : Node} (h : r.FillsOnly P n) : r.FillsOnly P n.resolved := by
  fun_induction Node.resolved n with
  | case1 line name n ih => exact ih (h.of_contains .target)
  | case2 => exact h

section

variable (hP : ∀ f : Failure, f.Plain → P f)

include hP

/-- An entry fails with its key, or with its value if it is known. -/
lemma fillEntry_failsOnly {e : Node × Node} (hkey : e.1.Acyclic) (hput : r.PutsOnly P e.2)
    (f : Filling α) : (r.fillEntry f e).FailsOnly P := by
  unfold fillEntry
  split
  · exact .pure f
  · refine .bind (.follow hP hkey (.scalar hP _ _ _)) fun name => ?_
    cases name with
    | none => exact .pure f
    | some name =>
      dsimp only
      split
      · exact .pure f
      · unfold fillNamed
        dsimp only
        split
        · rename_i put hlookup
          split
          · exact .bind (.modify _) fun _ => .pure _
          · exact .bind (hput name put hlookup _) fun a => .pure _
        · split
          · exact .bind (.modify _) fun _ => .pure _
          · exact .pure _

/-- A record is filled with no other failures than those of its fields and merges. The induction is
on the node, with whatever is settled before it. -/
lemma fill_failsOnly (n : Node) (keys : Option Keys) (a : α) (hn : r.FillsOnly P n) :
    (r.fill n keys a).FailsOnly P := by
  revert hn
  refine fill.induct
    (fun n keys a => r.FillsOnly P n → (r.fill n keys a).FailsOnly P)
    (fun entries rest keys a => (∀ e ∈ rest, r.FillsOnly P e.2) →
      (∀ e ∈ rest, e.1.isMerge = true → (keysOf entries).FailsOnly P) →
      (r.fillMerge entries rest keys a).FailsOnly P)
    (fun items keys a => (∀ n ∈ items, r.FillsOnly P n) → (r.fillAll items keys a).FailsOnly P)
    ?mapping ?target ?empty ?other ?allNil ?allCons ?mergeNil ?mergeItems ?skipItems ?mergeOne
    ?skipOne n keys a
  case mapping =>
    intro line tag entries keys a ih hn
    have hkeys : ∀ e ∈ entries, e.1.Acyclic := by
      cases hn.acyclic with
      | mapping hkeys _ => exact hkeys
    rw [fill]
    refine .bind (.noteRepeated entries) fun repeated => ?_
    split
    · exact .pure _
    · refine .bind (.foldlM (fun e he => fillEntry_failsOnly hP (hkeys e he) ?_) _) fun f => ?_
      · exact hn.puts e.2 (.value he)
      · exact ih f (fun e he => hn.of_contains (.value he)) fun e he hmerge =>
          hn.merges line tag entries (.inl rfl) ⟨e, he, hmerge⟩
  case target =>
    intro line name n keys a ih hn
    rw [fill]
    exact .copying (.bind (.count hP) fun _ => ih (hn.of_contains .target))
  case empty =>
    intro line name keys a hn
    cases hn.acyclic
  case other =>
    intro n keys a hmapping htarget hempty _
    rw [fill]
    · exact .pure _
    · exact hmapping
    · exact htarget
    · exact hempty
  case allNil =>
    intro keys a _
    rw [fillAll]
    exact .pure _
  case allCons =>
    intro n ns keys a ih ihAll hn
    rw [fillAll]
    refine .bind (.countMerged hP n) fun _ => .bind (ih (hn n (by simp))) fun p => ?_
    exact ihAll p.1 p.2 fun m hm => hn m (by simp [hm])
  case mergeNil =>
    intro entries keys a _ _
    rw [fillMerge]
    exact .pure _
  case mergeItems =>
    intro entries k line tag items rest keys a hmerge ih hvalues hkeys
    have hitems := hvalues (k, .sequence line tag items) (by simp)
    rw [fillMerge, if_pos hmerge]
    refine .bind (settledKeys_failsOnly (hkeys _ List.mem_cons_self hmerge) keys) fun settled => ?_
    exact .bind (ih settled fun n hn => hitems.of_contains (.item hn)) fun p => .pure _
  case skipItems =>
    intro entries k line tag items rest keys a hmerge ih hvalues hkeys
    rw [fillMerge_skip hmerge]
    exact ih (fun e he => hvalues e (by simp [he])) fun e he => hkeys e (by simp [he])
  case mergeOne =>
    intro entries k v rest keys a hv hmerge ih hvalues hkeys
    rw [fillMerge, if_pos hmerge]
    · have hsettled := settledKeys_failsOnly (hkeys _ List.mem_cons_self hmerge) keys
      exact .bind hsettled fun settled => .bind (.countMerged hP v) fun _ =>
        .bind (ih settled (hvalues (k, v) (by simp))) fun p => .pure _
    · exact hv
  case skipOne =>
    intro entries k v rest keys a hv hmerge ih hvalues hkeys
    rw [fillMerge_skip hmerge]
    exact ih (fun e he => hvalues e (by simp [he])) fun e he => hkeys e (by simp [he])

/-- A record is decoded with no other failures than it is filled with. -/
lemma decode_failsOnly (initial : α) {n : Node} (hn : r.FillsOnly P n) :
    (r.decode initial n).FailsOnly P := by
  have hscalar := Decode.FailsOnly.scalar hP r.typeName (fun _ _ => (none : Option α)) n
  cases n with
  | mapping line tag entries =>
    exact .bind (fill_failsOnly hP _ none initial hn) fun p => .pure _
  | scalar _ _ _ | sequence _ _ _ | reference _ _ _ => exact hscalar

end

end Record

/-! ### Nodes that are read without a breakdown -/

namespace Node

def isScalar : Node → Bool
  | .scalar .. => true
  | _ => false

/-- Every alias in a node has a target, and beside a merge no key stands for a collection. -/
inductive Orderly : Node → Prop
  | scalar (line : Nat) (tag : Tag) (text : Text) : Orderly (.scalar line tag text)
  | sequence {line : Nat} {tag : Tag} {items : List Node} :
      (∀ n ∈ items, Orderly n) → Orderly (.sequence line tag items)
  | mapping {line : Nat} {tag : Tag} {entries : List (Node × Node)} :
      (∀ e ∈ entries, Orderly e.1) → (∀ e ∈ entries, Orderly e.2) →
        ((∃ e ∈ entries, e.1.isMerge = true) →
          ∀ e ∈ entries, ∃ line tag text, e.1.StandsFor (.scalar line tag text)) →
        Orderly (.mapping line tag entries)
  | reference {line : Nat} {name : Text} {n : Node} :
      Orderly n → Orderly (.reference line name (some n))

mutual

/-- Whether a node is orderly. -/
def isOrderly : Node → Bool
  | .scalar .. => true
  | .sequence _ _ items => areOrderly items
  | .mapping _ _ entries => areOrderlyPairs entries &&
      (!(entries.any fun e => e.1.isMerge) || entries.all fun e => e.1.resolved.isScalar)
  | .reference _ _ (some n) => isOrderly n
  | .reference _ _ none => false

def areOrderly : List Node → Bool
  | [] => true
  | n :: ns => isOrderly n && areOrderly ns

def areOrderlyPairs : List (Node × Node) → Bool
  | [] => true
  | (k, v) :: es => isOrderly k && isOrderly v && areOrderlyPairs es

end

/-- Whether a node is orderly can be computed. -/
lemma orderly_of_isOrderly (n : Node) : n.isOrderly = true → n.Orderly := by
  refine isOrderly.induct (fun n => n.isOrderly = true → n.Orderly)
    (fun entries => areOrderlyPairs entries = true →
      ∀ e ∈ entries, e.1.Orderly ∧ e.2.Orderly)
    (fun items => areOrderly items = true → ∀ n ∈ items, n.Orderly)
    ?scalar ?sequence ?mapping ?target ?empty ?nil ?cons ?nilPairs ?consPairs n
  case scalar =>
    intro line tag text _
    exact .scalar line tag text
  case sequence =>
    intro line tag items ih h
    rw [isOrderly] at h
    exact .sequence (ih h)
  case mapping =>
    intro line tag entries ih h
    rw [isOrderly, Bool.and_eq_true] at h
    obtain ⟨hentries, hscalars⟩ := h
    have hboth := ih hentries
    refine .mapping (fun e he => (hboth e he).1) (fun e he => (hboth e he).2) ?_
    rintro ⟨m, hm, hmerge⟩ e he
    have hany : (entries.any fun e => e.1.isMerge) = true := List.any_eq_true.mpr ⟨m, hm, hmerge⟩
    rw [hany, Bool.not_true, Bool.false_or, List.all_eq_true] at hscalars
    have hscalar := hscalars e he
    cases hresolved : e.1.resolved with
    | scalar line tag text => exact ⟨line, tag, text, standsFor_iff.mpr hresolved⟩
    | sequence _ _ _ | mapping _ _ _ | reference _ _ _ => simp [hresolved, isScalar] at hscalar
  case target =>
    intro line name n ih h
    rw [isOrderly] at h
    exact .reference (ih h)
  case empty =>
    intro line name h
    rw [isOrderly] at h
    cases h
  case nil =>
    intro _ n hn
    cases hn
  case cons =>
    intro n ns ih ihAll h
    rw [areOrderly, Bool.and_eq_true] at h
    exact List.forall_mem_cons.mpr ⟨ih h.1, ihAll h.2⟩
  case nilPairs =>
    intro _ e he
    cases he
  case consPairs =>
    intro k v es ihKey ihValue ihAll h
    rw [areOrderlyPairs, Bool.and_eq_true, Bool.and_eq_true] at h
    exact List.forall_mem_cons.mpr ⟨⟨ihKey h.1.1, ihValue h.1.2⟩, ihAll h.2⟩

lemma orderly_of_areOrderly {items : List Node} (h : areOrderly items = true) :
    ∀ n ∈ items, n.Orderly := by
  induction items with
  | nil => simp
  | cons n ns ih =>
    rw [areOrderly, Bool.and_eq_true] at h
    exact List.forall_mem_cons.mpr ⟨orderly_of_isOrderly n h.1, ih h.2⟩

namespace Orderly

variable {n : Node}

/-- What is orderly has no cycles. -/
lemma acyclic (h : n.Orderly) : n.Acyclic := by
  induction h with
  | scalar line tag text => exact .scalar line tag text
  | sequence _ ih => exact .sequence ih
  | mapping _ _ _ ihKeys ihValues => exact .mapping ihKeys ihValues
  | reference _ ih => exact .reference ih

lemma of_contains {m : Node} (hm : n.Contains m) (h : n.Orderly) : m.Orderly := by
  induction hm with
  | value he =>
    cases h with
    | mapping _ hvalues _ => exact hvalues _ he
  | item hm =>
    cases h with
    | sequence hitems => exact hitems _ hm
  | target =>
    cases h with
    | reference htarget => exact htarget
  | trans _ _ ih ih' => exact ih' (ih h)

lemma resolved (h : n.Orderly) : n.resolved.Orderly := by
  induction h with
  | reference _ ih => rwa [Node.resolved]
  | scalar line tag text => exact .scalar line tag text
  | sequence hitems _ => exact .sequence hitems
  | mapping hkeys hvalues hscalars _ _ => exact .mapping hkeys hvalues hscalars

/-- A key that stands for a scalar is read without a breakdown. -/
lemma readKey_failsOnly {P : Failure → Prop} (hP : ∀ f : Failure, f.Plain → P f) {k : Node}
    {line : Nat} {tag : Tag} {text : Text} (hk : k.StandsFor (.scalar line tag text)) :
    (readKey k).FailsOnly P := by
  generalize hm : Node.scalar line tag text = m at hk
  induction hk with
  | scalar line tag text =>
    rw [readKey]
    exact .bind (.count hP) fun _ => .bind (.scalarValue hP tag text) fun _ => .pure _
  | reference _ ih =>
    rw [readKey]
    exact .bind (.count hP) fun _ => .copying (ih hm)
  | sequence _ _ _ | mapping _ _ _ | empty _ _ => cases hm

/-- In an orderly node no key stands for a collection beside a merge, so the keys can be compared.
-/
lemma mergesOnly (h : n.Orderly) : n.MergesOnly Failure.Reported := by
  intro line tag entries hentries hmerge
  have hmapping : Orderly (.mapping line tag entries) := by
    rcases hentries with rfl | hinside
    · exact h
    · exact h.of_contains hinside
  cases hmapping with
  | mapping _ _ hscalars =>
    refine keysOf_failsOnly fun e he => ?_
    obtain ⟨_, _, _, hkey⟩ := hscalars hmerge e he
    exact readKey_failsOnly Failure.reported_of_plain hkey

end Orderly

/-- Without cycles the keys of a mapping can be read. -/
lemma Acyclic.mergesOnly {n : Node} (h : n.Acyclic) : n.MergesOnly Failure.Acyclic := by
  intro line tag entries hentries _
  have hmapping : Acyclic (.mapping line tag entries) := by
    rcases hentries with rfl | hinside
    · exact h
    · exact h.of_contains hinside
  cases hmapping with
  | mapping hkeys _ => exact keysOf_failsOnly fun e he => (hkeys e he).reads.key

end Node

end Yaml

/-! ### Entries of map literals -/

namespace Document

open Yaml

/-- An entry of a map literal fails as plainly as its merges do. -/
lemma readMapEntry_failsOnly {P : Failure → Prop} (hP : ∀ f : Failure, f.Plain → P f) {n : Node}
    (hn : n.Acyclic) (hmerges : n.MergesOnly P) : FailsOnly (readMapEntry n) P := by
  have hfills : mapEntryRecord.FillsOnly P n := by
    refine ⟨hn, hmerges, fun v _ name put hlookup a => ?_⟩
    rcases mapEntryRecord_put hlookup with rfl | rfl
    · exact .bind (.count hP) fun _ => .pure _
    · exact .bind (.count hP) fun _ => .pure _
  have hread := (Decode.FailsOnly.follow hP hn
    (Record.decode_failsOnly hP {} hfills.resolved)).run hP
  exact hread.bind fun e => .ok _

end Document

end CqlWriter
