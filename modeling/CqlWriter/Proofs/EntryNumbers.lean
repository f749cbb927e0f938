import Mathlib
import CqlWriter.Proofs.RefusedEntries
import CqlWriter.Proofs.Text

/-!
# The number of an entry in its problems

The number of an entry is handed down to whatever is made of it, and comes back only in its
problems. So an entry gives the same statement wherever it stands in a document, or a problem that
differs from place to place by the number alone. A document gives the statements of all its entries,
or the problem of the first entry that has one. That may be one that the program goes down with, but
not if the operands of all entries are orderly.
-/

namespace CqlWriter.Document

open Yaml

/-! ### Problems in another entry -/

/-- The problem as it is told of the entry with the number `entry`. -/
def Problem.inEntry (entry : Nat) : Problem → Problem
  | unknown _ what kind => unknown entry what kind
  | missing _ what required => missing entry what required
  | problem => problem

/-- A result that depends on the number of the entry only in the number that its problem tells. -/
def Numbered {α : Type} (f : Nat → Except Problem α) : Prop :=
  ∀ i j, f j = (f i).mapError (Problem.inEntry j)

namespace Numbered

variable {α β : Type}

lemma ok (a : α) : Numbered fun _ => .ok a :=
  fun _ _ => rfl

lemma missing (what required : Text) :
    Numbered (α := α) fun i => .error (.missing i what required) :=
  fun _ _ => rfl

/-- A problem that does not tell the number of the entry. -/
lemma same {problem : Problem} (h : ∀ i, problem.inEntry i = problem) :
    Numbered (α := α) fun _ => .error problem :=
  fun _ j => congrArg Except.error (h j).symm

lemma ite {f g : Nat → Except Problem α} (c : Prop) [Decidable c] (hf : Numbered f)
    (hg : Numbered g) : Numbered fun i => if c then f i else g i := by
  intro i j
  dsimp only
  split_ifs
  · exact hf i j
  · exact hg i j

/-- One step after the other: the number matters only for the problem of whichever fails. -/
lemma bind {f : Nat → Except Problem α} {g : Nat → α → Except Problem β} (hf : Numbered f)
    (hg : ∀ a, Numbered fun i => g i a) : Numbered fun i => f i >>= g i := by
  intro i j
  dsimp only
  rw [hf i j]
  cases f i with
  | error problem => rfl
  | ok a => exact hg a i j

lemma map {f : Nat → Except Problem α} (hf : Numbered f) (g : α → β) :
    Numbered fun i => f i >>= fun a => pure (g a) :=
  hf.bind fun a => ok (g a)

/-- The elements of a list are made one by one, and the first problem tells the number. -/
lemma mapM {f : Nat → α → Except Problem β} {xs : List α}
    (h : ∀ x ∈ xs, Numbered fun i => f i x) : Numbered fun i => xs.mapM (f i) := by
  induction xs with
  | nil => exact ok []
  | cons x xs ih =>
    obtain ⟨hx, hxs⟩ := List.forall_mem_cons.mp h
    simp only [List.mapM_cons]
    exact hx.bind fun y => (ih hxs).map (y :: ·)

lemma given {f : Nat → α → Except Problem β} (value : Option α)
    (h : ∀ a, Numbered fun i => f i a) : Numbered fun i => given value (f i) := by
  cases value with
  | none => exact ok []
  | some a => exact (h a).map ([·])

lemma optionMapM {f : Nat → α → Except Problem β} (value : Option α)
    (h : ∀ a, Numbered fun i => f i a) : Numbered fun i => value.mapM (f i) := by
  cases value with
  | none => exact ok none
  | some a => exact (h a).map some

/-- What is made under one number is made under every other. -/
lemma forall_eq_ok {f : Nat → Except Problem α} (h : Numbered f) {i : Nat} {a : α}
    (hi : f i = .ok a) (j : Nat) : f j = .ok a := by
  rw [h i j, hi]
  rfl

end Numbered

/-! ### Operands -/

namespace Shape

def inEntry (entry : Nat) : Shape → Shape
  | refused problem => refused (problem.inEntry entry)
  | shape => shape

/-- The number changes nothing about the shape of a scalar but the problem it tells. -/
lemma ofScalar_inEntry (i j : Nat) (tag : Tag) (text : Text) :
    ofScalar j tag text = (ofScalar i tag text).inEntry j := by
  cases tag with
  | int | float =>
    simp only [ofScalar]
    split <;> rfl
  | null | bool | str | timestamp | binary | merge | seq | map | other _ => rfl

lemma ofItems_inEntry (i j : Nat) (what : Text) (n : Node) {whole : List Node → Shape}
    (h : ∀ items, whole items = (whole items).inEntry j) :
    ofItems j what n whole = (ofItems i what n whole).inEntry j := by
  unfold ofItems
  split
  · exact h _
  · rfl
  · rfl

lemma ofKind_inEntry (i j : Nat) (kind : Text) (body : Node) (args : Option Node) :
    ofKind j kind body args = (ofKind i kind body args).inEntry j := by
  unfold ofKind
  dsimp only
  split_ifs
  · rfl
  · rfl
  · rfl
  · cases args with
    | none => rfl
    | some m => exact ofItems_inEntry i j _ m fun _ => rfl
  · exact ofItems_inEntry i j _ body fun _ => rfl
  · exact ofItems_inEntry i j _ body fun _ => rfl
  · exact ofItems_inEntry i j _ body fun _ => rfl
  · exact ofItems_inEntry i j _ body fun _ => rfl
  · rfl

/-- The shape of a node under one number is that under another, told of the former. -/
lemma of_inEntry (i j : Nat) (n : Node) : of j n = (of i n).inEntry j := by
  unfold of
  split
  · exact ofScalar_inEntry i j _ _
  · unfold ofMapping
    split
    · rfl
    · split_ifs
      · rfl
      · exact ofKind_inEntry i j _ _ _
    · rfl
  · rfl
  · rfl

end Shape

lemma inEntry_unreadable (n : Node) (failure : Failure) (i : Nat) :
    (unreadable n failure).inEntry i = unreadable n failure := by
  unfold unreadable
  split
  · split <;> rfl
  · rfl

/-- The key and the value of an entry do not depend on the number. -/
lemma numbered_keyAndValue (n : Node) : Numbered fun i => keyAndValue i n := by
  intro i j
  simp only [keyAndValue]
  split
  · rw [Except.mapError, inEntry_unreadable]
  · rfl
  · rfl

/-- An entry of a map literal depends on the number as little as the operands in it. -/
lemma numbered_mapElement {build : Nat → Node → Except Problem Operand}
    (h : ∀ m, Numbered fun i => build i m) (n : Node) :
    Numbered fun i => mapElement (build i) i n :=
  (numbered_keyAndValue n).bind fun p => (h p.1).bind fun k => (h p.2).map (k, ·)

/-- The induction is on the fuel, which the number has no part in. -/
lemma numbered_operandWithin (fuel : Nat) (n : Node) :
    Numbered fun i => operandWithin i fuel n := by
  induction fuel generalizing n with
  | zero => exact .same fun _ => rfl
  | succ fuel ih =>
    intro i j
    simp only [operandWithin]
    rw [Shape.of_inEntry i j]
    -- the shape is the same for both numbers unless it is refused
    cases Shape.of i n with
    | leaf o | refused problem => rfl
    | elements make items =>
      exact (Numbered.mapM fun m _ => ih m).map make i j
    | entries items =>
      exact (Numbered.mapM fun m _ => numbered_mapElement ih m).map (Operand.collection .map) i j

/-! ### Statements -/

lemma ColumnEntry.numbered (c : ColumnEntry) : Numbered fun i => c.build i :=
  .ite _ (.missing _ _) (.ok _)

lemma WithEntry.numbered (w : WithEntry) : Numbered fun i => w.build i := by
  intro i j
  simp only [build]
  split <;> rfl

lemma RenameEntry.numbered (r : RenameEntry) : Numbered fun i => r.build i :=
  .ite _ (.missing _ _) (.ok _)

/-- Every alteration that is asked for depends on the number in its problem only. -/
lemma AlterTableEntry.numbered_alterations (a : AlterTableEntry) :
    Numbered fun i => a.alterations i := by
  have hadd (cs : List ColumnEntry) :
      Numbered fun i => cs.mapM (·.build i) >>= fun columns => pure (Alteration.add columns) :=
    (Numbered.mapM fun c _ => c.numbered).map _
  have hoptions (ws : List WithEntry) :
      Numbered fun i => ws.mapM (·.build i) >>= fun items => pure (Alteration.options items) :=
    (Numbered.mapM fun w _ => w.numbered).map _
  refine (Numbered.given a.add hadd).bind fun added => ?_
  refine (Numbered.given a.drop fun names => .ok _).bind fun dropped => ?_
  refine (Numbered.given a.rename RenameEntry.numbered).bind fun renamed => ?_
  exact (Numbered.given a.options hoptions).map _

lemma AlterTableEntry.numbered (a : AlterTableEntry) : Numbered fun i => a.build i := by
  refine .ite _ (.missing _ _) (a.numbered_alterations.bind fun alterations => ?_)
  intro i j
  dsimp only
  split <;> rfl

lemma CreateIndexEntry.numbered (c : CreateIndexEntry) : Numbered fun i => c.build i := by
  refine .ite _ (.missing _ _) (.ite _ (.missing _ _) ?_)
  intro i j
  dsimp only
  split <;> rfl

lemma BatchEntry.numbered (b : BatchEntry) : Numbered fun i => b.build i := by
  intro i j
  simp only [build]
  split <;> rfl

lemma InsertEntry.numbered_row (r : InsertEntry) : Numbered fun i => r.row i := by
  intro i j
  simp only [row]
  split
  · rfl
  · rfl
  · exact (Numbered.mapM fun n _ => numbered_operandWithin _ n).map _ i j
  · rfl

lemma InsertEntry.numbered (r : InsertEntry) : Numbered fun i => r.build i := by
  refine .ite _ (.missing _ _) (r.numbered_row.bind fun values => ?_)
  exact (Numbered.optionMapM r.batch BatchEntry.numbered).map _

/-- A statement is one of the three, and each depends on the number in its problem only. -/
lemma StatementEntry.numbered (s : StatementEntry) : Numbered fun i => s.build i := by
  intro i j
  simp only [build]
  split
  · rfl
  · exact (AlterTableEntry.numbered _).map Statement.alterTable i j
  · exact (CreateIndexEntry.numbered _).map Statement.createIndex i j
  · exact (InsertEntry.numbered _).map Statement.insert i j
  · rfl

/-! ### The number in the text of a problem -/

/-- The entry gives the statement, whatever number it has. -/
def StatementEntry.Gives (e : StatementEntry) (s : Statement) : Prop :=
  ∀ i, e.build i = .ok s

/-- The statements of a document are those of its entries, whatever number they are given. -/
lemma buildFrom_eq_ok_iff {first : Nat} {entries : List StatementEntry} {ss : List Statement} :
    buildFrom first entries = .ok ss ↔ List.Forall₂ StatementEntry.Gives entries ss := by
  induction entries generalizing first ss with
  | nil =>
    rw [buildFrom, List.forall₂_nil_left_iff]
    constructor
    · rintro ⟨⟩
      rfl
    · rintro rfl
      rfl
  | cons e entries ih =>
    rw [buildFrom, bind_eq_ok_iff, List.forall₂_cons_left_iff]
    constructor
    · rintro ⟨s, hs, hrest⟩
      obtain ⟨rest, hentries, hcons⟩ := bind_eq_ok_iff.mp hrest
      cases hcons
      exact ⟨s, rest, e.numbered.forall_eq_ok hs, ih.mp hentries, rfl⟩
    · rintro ⟨s, rest, hs, hentries, rfl⟩
      exact ⟨s, hs first, bind_eq_ok_iff.mpr ⟨rest, ih.mpr hentries, rfl⟩⟩

/-- The problem of a document is that of the first of its entries that has one. -/
lemma buildFrom_eq_error_iff {first : Nat} {entries : List StatementEntry} {p : Problem} :
    buildFrom first entries = .error p ↔ ∃ before e after, entries = before ++ e :: after ∧
      (∀ d ∈ before, ∃ s, d.Gives s) ∧
        e.build (first + before.length) = .error p := by
  induction entries generalizing first with
  | nil => simp [buildFrom]
  | cons e entries ih =>
    have hlength : ∀ before : List StatementEntry,
        first + (e :: before).length = first + 1 + before.length := by
      intro before
      rw [List.length_cons]
      omega
    rw [buildFrom]
    constructor
    · intro h
      cases he : e.build first with
      | error problem =>
        rw [he] at h
        cases h
        exact ⟨[], e, entries, rfl, by simp, he⟩
      | ok s =>
        have hrest : buildFrom (first + 1) entries = .error p := by
          rw [he, ← errorOf_eq_some_iff] at h
          rw [← errorOf_eq_some_iff, ← h]
          exact (errorOf_bind_pure _ _).symm
        obtain ⟨before, d, after, rfl, hbefore, hd⟩ := ih.mp hrest
        refine ⟨e :: before, d, after, rfl, ?_, ?_⟩
        · exact List.forall_mem_cons.mpr ⟨⟨s, e.numbered.forall_eq_ok he⟩, hbefore⟩
        · rw [hlength]
          exact hd
    · rintro ⟨before, d, after, hsplit, hbefore, hd⟩
      cases before with
      | nil =>
        cases hsplit
        rw [List.length_nil, Nat.add_zero] at hd
        rw [hd]
        rfl
      | cons b before =>
        cases hsplit
        obtain ⟨⟨s, hs⟩, hbefore⟩ := List.forall_mem_cons.mp hbefore
        rw [hlength] at hd
        rw [hs first, ih.mpr ⟨before, d, after, rfl, hbefore, hd⟩]
        rfl

/-- Once the entries are read, parsing is making statements of them from number zero on. -/
lemma parse_eq_buildFrom {bytes : Text} {entries : List StatementEntry}
    (h : readEntries bytes = .ok entries) : parse bytes = buildFrom 0 entries := by
  unfold parse
  split
  · rename_i hread
    rw [h] at hread
    cases hread
  · rename_i hread
    rw [h] at hread
    cases hread
    rfl

end CqlWriter.Document
