import Mathlib
import CqlWriter.Proofs.AliasReading
import CqlWriter.Proofs.OperandMaking

/-!
# Aliases in operands

An operand that is made of a node with aliases is the one that is made of the expanded node, and
what is wrong with one is wrong with the other. Two kinds of entries of map literals make a
difference, since they are refused: those that merge an alias of a sequence, and those that are read
with very many copies.
-/

namespace CqlWriter.Document

open Yaml

/-! ### Results that are the same -/

section

variable {ε α β ι : Type} {p : ε → Prop} {r r' : Except ε α}

/-- Two results are the same, unless the first one is an error that `p` excuses. -/
def SameUnless (p : ε → Prop) (r r' : Except ε α) : Prop :=
  r' = r ∨ ∃ e, r = .error e ∧ p e

lemma SameUnless.refl (r : Except ε α) : SameUnless p r r :=
  .inl rfl

lemma SameUnless.mono {q : ε → Prop} (h : SameUnless p r r') (hpq : ∀ e, p e → q e) :
    SameUnless q r r' :=
  h.imp_right fun ⟨e, he, hp⟩ => ⟨e, he, hpq e hp⟩

/-- A difference that is excused stays so in what follows. -/
lemma SameUnless.bind {f f' : α → Except ε β} (h : SameUnless p r r')
    (hf : ∀ a, r = .ok a → SameUnless p (f a) (f' a)) :
    SameUnless p (r >>= f) (r' >>= f') := by
  rcases h with rfl | ⟨e, rfl, hp⟩
  · cases r' with
    | error e => exact .inl rfl
    | ok a => exact hf a rfl
  · exact .inr ⟨e, rfl, hp⟩

/-- Results for a list are the same unless one of them is excused. -/
lemma SameUnless.mapM {f f' : ι → Except ε β} {xs : List ι}
    (h : ∀ x ∈ xs, SameUnless p (f x) (f' x)) : SameUnless p (xs.mapM f) (xs.mapM f') := by
  induction xs with
  | nil => exact .refl _
  | cons x xs ih =>
    rw [List.mapM_cons, List.mapM_cons]
    have htail := ih fun y hy => h y (by simp [hy])
    exact (h x (by simp)).bind fun _ _ => htail.bind fun _ _ => .refl _

end

/-! ### Failures of a tree with aliases -/

/-- What may be wrong with a tree because of its aliases: an alias of a sequence in it is not
merged, or too much is read for aliases, which takes more than five hundred nodes. -/
def AliasFailure (n : Node) (failure : Failure) : Prop :=
  (failure = .badMerge ∧ n.HasAliasedMerge) ∨
    ((failure = .malformed ∨ failure = .badKey) ∧ 500 < n.size)

/-- What is wrong with a part because of its aliases is wrong with the whole. -/
lemma AliasFailure.of_contains {n m : Node} {failure : Failure} (hm : n.Contains m)
    (h : AliasFailure m failure) : AliasFailure n failure := by
  have hlt := Node.size_lt_of_contains hm
  rcases h with ⟨hbad, hmerge⟩ | ⟨hbad, hmany⟩
  · exact .inl ⟨hbad, hmerge.of_contains hm⟩
  · exact .inr ⟨hbad, by omega⟩

lemma AliasFailure.acyclic {n : Node} {failure : Failure} (h : AliasFailure n failure) :
    failure.Acyclic := by
  rcases h with ⟨rfl, -⟩ | ⟨rfl | rfl, -⟩ <;> simp [Failure.Acyclic]

/-- The problem of an entry of a map literal that comes from an alias in the tree. -/
def AliasProblem (n : Node) (p : Problem) : Prop :=
  ∃ failure, p = .badMapEntry failure ∧ AliasFailure n failure

lemma AliasProblem.of_contains {n m : Node} {p : Problem} (hm : n.Contains m)
    (h : AliasProblem m p) : AliasProblem n p := by
  obtain ⟨failure, hp, hfailure⟩ := h
  exact ⟨failure, hp, hfailure.of_contains hm⟩

/-! ### Entries of map literals -/

def MapEntry.expanded (e : MapEntry) : MapEntry :=
  ⟨e.key.map Node.expanded, e.value.map Node.expanded⟩

namespace Shape

variable {entry : Nat}

def expanded : Shape → Shape
  | elements make items => elements make (items.map Node.expanded)
  | entries items => entries (items.map Node.expanded)
  | s => s

section

variable {es : List (Node × Node)} (h : ∀ e ∈ es, e.1.isReference = false)

include h

end

end Shape

/-! ### Operands -/

def aliasOf (n : Node) : Node :=
  .reference 1 "a" (some n)

def mergeKey : Node :=
  .scalar 1 .merge "<<"

end CqlWriter.Document
