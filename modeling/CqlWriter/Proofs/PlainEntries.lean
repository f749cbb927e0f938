import Mathlib
import CqlWriter.Proofs.Decoding

/-!
# Entries of map literals with plain keys

A mapping whose keys are distinct strings is read without any misfit. As an entry of a map literal
it gives what stands under `key` and under `value`, and nothing else of it matters.
-/

namespace CqlWriter

namespace Yaml

/-! ### Readings that nothing is wrong with -/

/-- Nothing has been noted, and nothing was read for an alias. -/
structure Decoding.Quiet (d : Decoding) : Prop where
  misfits : d.misfits = []
  copies : d.copies = 0
  depth : d.depth = 0

namespace Decode

variable {α β : Type} {m : Decode α} {P : α → Prop} {Q : β → Prop}

/-- As long as nothing has been noted or read for an alias, the reading gives a value that satisfies
`post`, and nothing is noted or read for an alias by it. -/
def Succeeds (m : Decode α) (post : α → Prop) : Prop :=
  ∀ d, d.Quiet → ∃ a d', StateT.run m d = .ok (a, d') ∧ d'.Quiet ∧ post a

namespace Succeeds

lemma pure {a : α} (h : P a) : Succeeds (Pure.pure a) P :=
  fun d hd => ⟨a, d, rfl, hd, h⟩

lemma bind {f : α → Decode β} (hm : m.Succeeds P) (hf : ∀ a, P a → (f a).Succeeds Q) :
    (m >>= f).Succeeds Q := by
  intro d hd
  obtain ⟨a, d', hrun, hd', ha⟩ := hm d hd
  obtain ⟨b, d'', hrun', hd'', hb⟩ := hf a ha d' hd'
  refine ⟨b, d'', ?_, hd'', hb⟩
  rw [StateT.run_bind, hrun]
  exact hrun'

/-- Counting a node never ends a reading that reads nothing for aliases. -/
lemma count : Succeeds count fun _ => True := by
  intro d hd
  refine ⟨(), { d with nodes := d.nodes + 1 }, ?_, ⟨hd.misfits, hd.copies, hd.depth⟩, True.intro⟩
  obtain ⟨misfits, nodes, copies, depth⟩ := d
  obtain ⟨rfl, rfl, rfl⟩ := hd
  rfl

/-- A reading that goes through a list keeps an invariant of the items that it is through with. -/
lemma foldlM {P : List β → α → Prop} {f : α → β → Decode α} {xs : List β} {a : α} (ha : P [] a)
    (hstep : ∀ before x after, xs = before ++ x :: after → ∀ a, P before a →
      (f a x).Succeeds (P (before ++ [x]))) : (xs.foldlM f a).Succeeds (P xs) := by
  have hrest : ∀ rest before, xs = before ++ rest → ∀ a, P before a →
      (rest.foldlM f a).Succeeds (P xs) := by
    intro rest
    induction rest with
    | nil =>
      intro before hsplit a ha
      rw [hsplit, List.append_nil]
      exact .pure ha
    | cons x rest ih =>
      intro before hsplit a ha
      rw [List.foldlM_cons]
      refine .bind (hstep before x rest hsplit a ha) fun b hb => ih (before ++ [x]) ?_ b hb
      rw [hsplit, List.append_assoc, List.singleton_append]
  exact hrest xs [] rfl a ha

/-- A reading that succeeds gives a value, since nothing is noted on the way. -/
lemma run (hm : m.Succeeds P) : ∃ a, m.run = .ok a ∧ P a := by
  obtain ⟨a, d, hrun, hd, ha⟩ := hm {} ⟨rfl, rfl, rfl⟩
  refine ⟨a, ?_, ha⟩
  unfold Decode.run
  rw [hrun]
  simp [hd.misfits]

end Succeeds

end Decode

end Yaml

/-! ### Filling an entry -/

namespace Document

open Yaml

/-- What is read of an entry of a map literal after the entries of a mapping in front. -/
structure Gathered (before : List (Node × Node)) (f : Record.Filling MapEntry) : Prop where
  keys : f.keys = none
  key : ∀ n, f.value.key = some n ↔ ∃ k, (k, n) ∈ before ∧ k.text = "key"
  value : ∀ n, f.value.value = some n ↔ ∃ k, (k, n) ∈ before ∧ k.text = "value"
  done : ∀ name ∈ f.done, ∃ e ∈ before, e.1.text = name

/-- The state after the entry `e`, whose value is put in by `set`. -/
lemma Gathered.put {before : List (Node × Node)} {f : Record.Filling MapEntry}
    (hf : Gathered before f) {e : Node × Node} {value : MapEntry}
    (hkey : value.key = if e.1.text = "key" then some e.2 else f.value.key)
    (hvalue : value.value = if e.1.text = "value" then some e.2 else f.value.value)
    (hnew : e.1.text ∉ before.map fun e => e.1.text) {done : List Text}
    (hdone : ∀ name ∈ done, name = e.1.text ∨ name ∈ f.done) :
    Gathered (before ++ [e]) ⟨value, done, none⟩ := by
  have hfield : ∀ (name : Text) (new old : Option Node),
      new = (if e.1.text = name then some e.2 else old) →
      (∀ n, old = some n ↔ ∃ k, (k, n) ∈ before ∧ k.text = name) →
      ∀ n, new = some n ↔ ∃ k, (k, n) ∈ before ++ [e] ∧ k.text = name := by
    intro name new old hnewest hold n
    rw [hnewest]
    split_ifs with hname
    · constructor
      · rintro ⟨⟩
        exact ⟨e.1, by simp, hname⟩
      · rintro ⟨k, hmem, hk⟩
        rcases List.mem_append.mp hmem with hmem | hmem
        · refine absurd ?_ hnew
          exact List.mem_map.mpr ⟨(k, n), hmem, hk.trans hname.symm⟩
        · rw [← List.mem_singleton.mp hmem]
    · rw [hold n]
      constructor
      · rintro ⟨k, hmem, hk⟩
        exact ⟨k, by simp [hmem], hk⟩
      · rintro ⟨k, hmem, hk⟩
        rcases List.mem_append.mp hmem with hmem | hmem
        · exact ⟨k, hmem, hk⟩
        · rw [← List.mem_singleton.mp hmem] at hname
          exact absurd hk hname
  refine ⟨rfl, hfield _ _ _ hkey hf.key, hfield _ _ _ hvalue hf.value, fun name hname => ?_⟩
  rcases hdone name hname with rfl | hold
  · exact ⟨e, by simp, rfl⟩
  · obtain ⟨o, ho, rfl⟩ := hf.done name hold
    exact ⟨o, by simp [ho], rfl⟩

end Document

end CqlWriter
