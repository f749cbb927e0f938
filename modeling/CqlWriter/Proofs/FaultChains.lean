import Mathlib
import CqlWriter.Fault

/-!
# Chains of faults

A fault may wrap another one, which may wrap a third one, and so on. The question whether a fault is
of a kind is answered by the outermost fault of a documented kind in its chain. The documented
faults below that one are not looked at, so the answer speaks for the whole chain only if all of
them are of the same kind.
-/

namespace CqlWriter

namespace FaultKind

/-- A kind is found again by its identifier. -/
lemma ofId?_id (kind : FaultKind) : ofId? kind.id = some kind := by
  cases kind <;> decide

lemma id_injective : Function.Injective id := by
  intro k l h
  rw [← Option.some_inj, ← ofId?_id k, h, ofId?_id]

end FaultKind

namespace Fault

/-- The fault that a fault wraps directly. -/
def wrapped? : Fault → Option Fault
  | plain _ => none
  | coded _ _ cause => cause
  | within _ inner => some inner

/-- The second fault is in the chain of the first: it is the same one, or it is wrapped by it,
directly or not. -/
def InChain : Fault → Fault → Prop :=
  Relation.ReflTransGen fun f g => f.wrapped? = some g

def HasKind (f : Fault) (kind : FaultKind) : Prop :=
  ∃ message cause, f.InChain (coded kind message cause)

/-- A fault of a documented kind with the identifier is in the chain. -/
def Carries (f : Fault) (id : Text) : Prop :=
  ∃ kind, f.HasKind kind ∧ kind.id = id

/-- The kind is that of a documented fault in the chain which all others are wrapped by. -/
def Outermost (f : Fault) (kind : FaultKind) : Prop :=
  ∃ message cause, f.InChain (coded kind message cause) ∧
    ∀ k m c, f.InChain (coded k m c) → (coded kind message cause).InChain (coded k m c)

variable {f g : Fault}

/-! ### Chains -/

/-- The chain of a fault is the fault itself and the chain of what it wraps. -/
lemma inChain_iff : f.InChain g ↔ f = g ∨ ∃ h, f.wrapped? = some h ∧ h.InChain g :=
  Relation.ReflTransGen.cases_head_iff

/-- Context changes nothing about the documented faults in a chain. -/
lemma inChain_within {context : Text} {kind : FaultKind} {message : Text} {cause : Option Fault} :
    (within context f).InChain (coded kind message cause) ↔
      f.InChain (coded kind message cause) := by
  rw [inChain_iff]
  simp [wrapped?]

lemma not_hasKind_plain (text : Text) (kind : FaultKind) : ¬ (plain text).HasKind kind := by
  rintro ⟨message, cause, h⟩
  rw [inChain_iff] at h
  simp [wrapped?] at h

lemma hasKind_within {context : Text} {kind : FaultKind} :
    (within context f).HasKind kind ↔ f.HasKind kind := by
  simp only [HasKind, inChain_within]

lemma Outermost.hasKind {kind : FaultKind} (h : f.Outermost kind) : f.HasKind kind := by
  obtain ⟨message, cause, hchain, -⟩ := h
  exact ⟨message, cause, hchain⟩

/-! ### The kind that is looked at -/

/-- The kind that is told of a fault is that of the outermost documented one. -/
lemma outermost_of_kind? {kind : FaultKind} (h : f.kind? = some kind) : f.Outermost kind := by
  induction f using kind?.induct with
  | case1 text => cases h
  | case2 k message cause =>
    cases h
    exact ⟨message, cause, .refl, fun _ _ _ hchain => hchain⟩
  | case3 context inner ih =>
    obtain ⟨message, cause, hchain, hothers⟩ := ih h
    refine ⟨message, cause, inChain_within.mpr hchain, ?_⟩
    intro k m c hk
    exact hothers k m c (inChain_within.mp hk)

/-- A kind is told of every fault with a documented one in its chain. -/
lemma isSome_kind?_of_hasKind {kind : FaultKind} (h : f.HasKind kind) : f.kind?.isSome := by
  induction f using kind?.induct with
  | case1 text => exact absurd h (not_hasKind_plain text kind)
  | case2 k message cause => rfl
  | case3 context inner ih => exact ih (hasKind_within.mp h)

/-- A fault is compared with an identifier by the kind that is told of it. -/
lemma isKind_iff_of_kind? {kind : FaultKind} (h : f.kind? = some kind) (id : Text) :
    f.isKind id = true ↔ kind.id = id := by
  rw [isKind, h]
  exact decide_eq_true_iff

/-! ### Answers for the whole chain -/

/-- A fault with a documented fault in its chain is of the kind with an identifier exactly if the
outermost of these has the identifier. So no fault is of a kind that its chain does not carry; and
it is of all kinds that its chain carries exactly if all documented faults there are of one kind. -/
theorem isKind_outermost {f : Fault} (h : ∃ id, f.Carries id) :
    ∃ kind, f.Outermost kind ∧
      (∀ id, f.isKind id = true ↔ kind.id = id) ∧
      (∀ id, (f.isKind id = true ↔ f.Carries id) ↔ (f.Carries id → kind.id = id)) ∧
      ((∀ id, f.isKind id = true ↔ f.Carries id) ↔ ∀ k, f.HasKind k → k = kind) := by
  obtain ⟨_, k, hk, -⟩ := h
  obtain ⟨kind, hkind⟩ := Option.isSome_iff_exists.mp (isSome_kind?_of_hasKind hk)
  have houtermost := outermost_of_kind? hkind
  have hiff := isKind_iff_of_kind? hkind
  have hcarries : f.Carries kind.id := ⟨kind, houtermost.hasKind, rfl⟩
  refine ⟨kind, houtermost, hiff, ?_, ?_⟩
  · intro id
    rw [hiff]
    constructor
    · intro h
      exact h.mpr
    · intro h
      refine ⟨?_, h⟩
      rintro rfl
      exact hcarries
  · constructor
    · intro h k hk
      apply FaultKind.id_injective
      exact ((hiff k.id).mp ((h k.id).mpr ⟨k, hk, rfl⟩)).symm
    · intro h id
      rw [hiff]
      constructor
      · rintro rfl
        exact hcarries
      · rintro ⟨k, hk, rfl⟩
        rw [h k hk]

def nested : Fault :=
  within "loading" (wrap .unreadableFile (new .malformedDocument [.text "x"]) [.text "a.yaml"])

lemma nested_carries : nested.Carries "MT10001" := by
  have hchain : nested.InChain (new .malformedDocument [.text "x"]) := .head rfl (.head rfl .refl)
  exact ⟨.malformedDocument, ⟨_, _, hchain⟩, rfl⟩

theorem isKind_outermost_nested :
    nested.Carries "MT10001" ∧ ∃ kind, nested.Outermost kind ∧
      (∀ id, nested.isKind id = true ↔ kind.id = id) ∧
      (∀ id, (nested.isKind id = true ↔ nested.Carries id) ↔ (nested.Carries id → kind.id = id)) ∧
      ((∀ id, nested.isKind id = true ↔ nested.Carries id) ↔
        ∀ k, nested.HasKind k → k = kind) :=
  ⟨nested_carries, isKind_outermost ⟨_, nested_carries⟩⟩

/-- The cause of a documented fault is carried by the chain and not found. -/
theorem isKind_nested_cause :
    nested.Carries "MT10001" ∧ nested.isKind "MT10001" = false ∧
      ¬ (nested.isKind "MT10001" = true ↔ nested.Carries "MT10001") := by
  have hnot : nested.isKind "MT10001" = false := by decide
  refine ⟨nested_carries, hnot, ?_⟩
  rw [hnot]
  simp [nested_carries]

end Fault

end CqlWriter
