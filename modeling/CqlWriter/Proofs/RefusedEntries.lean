import Mathlib
import CqlWriter.Document.Build
import CqlWriter.Proofs.OperandMaking

/-!
# Refused entries

An entry that gives no statement is refused: something in it is of an unknown kind or left out. Only
an operand may have another problem. Making an operand of an orderly node never brings the program
down, and so neither does an entry whose operands are orderly.
-/

namespace CqlWriter.Document

open Yaml

/-! ### Refusals -/

/-- The problem is reported as an unknown kind or as something that is left out. -/
def Problem.IsRefusal (p : Problem) : Prop :=
  p.fault.isKind "MT10002" = true ∨ p.fault.isKind "MT10003" = true

lemma Problem.isRefusal_unknown (entry : Nat) (what kind : Text) :
    (unknown entry what kind).IsRefusal :=
  .inl rfl

lemma Problem.isRefusal_missing (entry : Nat) (what required : Text) :
    (missing entry what required).IsRefusal :=
  .inr rfl

/-- The problem is that something is left out of the entry. -/
def Problem.IsMissing (entry : Nat) (p : Problem) : Prop :=
  ∃ what required, p = .missing entry what required

lemma Problem.isMissing_missing (entry : Nat) (what required : Text) :
    (missing entry what required).IsMissing entry :=
  ⟨what, required, rfl⟩

/-- That something is left out is a refusal. -/
lemma Problem.IsMissing.isRefusal {entry : Nat} {p : Problem} (h : p.IsMissing entry) :
    p.IsRefusal := by
  obtain ⟨what, required, rfl⟩ := h
  exact isRefusal_missing entry what required

/-! ### Entries -/

/-- A CREATE INDEX statement is made of a table, a column and a known kind; otherwise the entry is
refused. -/
lemma CreateIndexEntry.build_cases (entry : Nat) (c : CreateIndexEntry) :
    (∃ p, c.build entry = .error p ∧ p.IsRefusal) ∨
      c.table ≠ [] ∧ c.column.name ≠ [] ∧ ∃ kind, c.build entry = .ok {
        ifNotExists := c.ifNotExists
        name := if c.name.isEmpty then none else some (.ofText c.name)
        table := .ofText c.table
        target := .column kind (.ofText c.column.name) } := by
  unfold build
  dsimp only
  by_cases htable : c.table.isEmpty = true
  · rw [if_pos htable]
    exact .inl ⟨_, rfl, Problem.isRefusal_missing _ _ _⟩
  by_cases hcolumn : c.column.name.isEmpty = true
  · rw [if_neg htable, if_pos hcolumn]
    exact .inl ⟨_, rfl, Problem.isRefusal_missing _ _ _⟩
  rw [if_neg htable, if_neg hcolumn]
  cases indexKinds.lookup c.column.kind.lower with
  | none => exact .inl ⟨_, rfl, Problem.isRefusal_unknown _ _ _⟩
  | some kind =>
    rw [List.isEmpty_iff] at htable hcolumn
    exact .inr ⟨htable, hcolumn, kind, rfl⟩

lemma failsOnly_given {α β : Type} {P : Problem → Prop} {build : α → Except Problem β}
    (h : ∀ a, FailsOnly (build a) P) (value : Option α) : FailsOnly (given value build) P := by
  cases value with
  | none => exact .ok []
  | some a => exact (h a).bind fun b => .ok [b]

lemma ColumnEntry.failsOnly_build (entry : Nat) (c : ColumnEntry) :
    FailsOnly (c.build entry) (Problem.IsMissing entry) := by
  unfold build
  split_ifs
  · exact .error (Problem.isMissing_missing _ _ _)
  · exact .ok _

lemma RenameEntry.failsOnly_build (entry : Nat) (r : RenameEntry) :
    FailsOnly (r.build entry) (Problem.IsMissing entry) := by
  unfold build
  split_ifs
  · exact .error (Problem.isMissing_missing _ _ _)
  · exact .ok _

lemma WithEntry.failsOnly_build (entry : Nat) (w : WithEntry) :
    FailsOnly (w.build entry) (Problem.IsMissing entry) := by
  unfold build
  split
  · exact .ok _
  · exact .error (Problem.isMissing_missing _ _ _)

/-- An ALTER TABLE statement is refused only for what is left out. -/
lemma AlterTableEntry.failsOnly_build (entry : Nat) (a : AlterTableEntry) :
    FailsOnly (a.build entry) (Problem.IsMissing entry) := by
  have halterations : FailsOnly (a.alterations entry) (Problem.IsMissing entry) := by
    have hadd (cs : List ColumnEntry) :
        FailsOnly (cs.mapM (·.build entry)) (Problem.IsMissing entry) :=
      .mapM fun c _ => c.failsOnly_build entry
    have hwith (ws : List WithEntry) :
        FailsOnly (ws.mapM (·.build entry)) (Problem.IsMissing entry) :=
      .mapM fun w _ => w.failsOnly_build entry
    unfold alterations
    refine .bind (failsOnly_given (fun cs => (hadd cs).bind fun _ => .ok _) _) fun _ => ?_
    refine .bind (failsOnly_given (fun _ => .ok _) _) fun _ => ?_
    refine .bind (failsOnly_given (RenameEntry.failsOnly_build entry) _) fun _ => ?_
    exact .bind (failsOnly_given (fun ws => (hwith ws).bind fun _ => .ok _) _) fun _ => .ok _
  unfold build
  split
  · exact .error (Problem.isMissing_missing _ _ _)
  · refine halterations.bind fun xs => ?_
    split
    · exact .ok _
    · exact .error (Problem.isMissing_missing _ _ _)

/-- An index is refused for what is left out or for an unknown kind. -/
lemma CreateIndexEntry.failsOnly_build (entry : Nat) (c : CreateIndexEntry) :
    FailsOnly (c.build entry) Problem.IsRefusal := by
  rcases c.build_cases entry with ⟨p, hp, hrefusal⟩ | ⟨-, -, kind, hs⟩
  · rw [hp]
    exact .error hrefusal
  · rw [hs]
    exact .ok _

lemma BatchEntry.failsOnly_build (entry : Nat) (b : BatchEntry) :
    FailsOnly (b.build entry) Problem.IsRefusal := by
  unfold build
  split
  · exact .ok _
  · exact .error (Problem.isRefusal_unknown _ _ _)

section

variable {P : Problem → Prop} (hP : ∀ p : Problem, p.IsRefusal → P p) {entry : Nat}

include hP

/-- An INSERT statement is refused, unless one of its operands has a problem. -/
lemma InsertEntry.failsOnly_build {i : InsertEntry}
    (h : ∀ nodes ∈ i.values, ∀ n ∈ nodes, FailsOnly (operand entry n) P) :
    FailsOnly (i.build entry) P := by
  have hrow : FailsOnly (i.row entry) P := by
    unfold row
    split
    · exact .error (hP _ (Problem.isRefusal_unknown _ _ _))
    · exact .ok _
    · rename_i nodes hvalues _
      exact (FailsOnly.mapM (h nodes hvalues)).bind fun _ => .ok _
    · exact .error (hP _ (Problem.isRefusal_missing _ _ _))
  have hbatch : FailsOnly (i.batch.mapM (·.build entry)) P := by
    cases i.batch with
    | none => exact .ok none
    | some b => exact ((b.failsOnly_build entry).mono hP).bind fun _ => .ok _
  unfold build
  dsimp only
  split
  · exact .error (hP _ (Problem.isRefusal_missing _ _ _))
  · exact hrow.bind fun _ => hbatch.bind fun _ => .ok _

/-- An entry is refused, unless it is that of an INSERT statement with a problem of its own. -/
lemma StatementEntry.failsOnly_build {e : StatementEntry}
    (h : e.alterTable = none → e.createIndex = none →
      ∀ i ∈ e.insert, FailsOnly (i.build entry) P) : FailsOnly (e.build entry) P := by
  unfold build
  split
  · exact .error (hP _ (Problem.isRefusal_missing _ _ _))
  · rename_i a _ _ _
    have hmissing := (a.failsOnly_build entry).mono fun _ hp => hP _ hp.isRefusal
    exact hmissing.bind fun _ => .ok _
  · rename_i c _ _ _
    exact ((c.failsOnly_build entry).mono hP).bind fun _ => .ok _
  · rename_i i ha hc hi
    exact (h ha hc i hi).bind fun _ => .ok _
  · exact .error (hP _ (Problem.isRefusal_unknown _ _ _))

end

/-! ### Problems that can be reported -/

/-- A refusal can be reported. -/
lemma Problem.IsRefusal.crash?_eq_none {p : Problem} (h : p.IsRefusal) : p.crash? = none := by
  cases p with
  | unknown entry what kind | missing entry what required => rfl
  | undecodable failure | badMapEntry failure => rcases h with h | h <;> cases h
  | endless => rcases h with h | h <;> exact absurd h (by decide)

/-- The first problem in an orderly node can be reported. -/
lemma FirstProblem.crash?_eq_none {entry : Nat} {v : Visit} {p : Problem}
    (h : FirstProblem entry v p) : v.node.Orderly → p.crash? = none := by
  induction h with
  | @here v p hoffends =>
    intro hn
    cases hoffends with
    | @unreadable n failure hrun =>
      have hfails : FailsOnly (readMapEntry n) Failure.Reported :=
        readMapEntry_failsOnly Failure.reported_of_plain hn.acyclic hn.mergesOnly
      refine hfails failure ?_
      rw [readMapEntry, hrun]
      rfl
    | number _ _ _ _ | tag _ _ | sequence _ | noKind _ _ | kinds _ _ | args _ _ | kind _ _
    | items _ _ _ | arguments _ _ | literal _ _ | incomplete _ _ => rfl
  | within hparts _ _ ih =>
    intro hn
    exact ih (hn.of_contains (hparts.contains (by simp)))

/-- The operands of an INSERT statement are orderly. -/
def InsertEntry.Orderly (i : InsertEntry) : Prop :=
  ∀ nodes ∈ i.values, ∀ n ∈ nodes, n.Orderly

/-- The operands that an entry gives are orderly. -/
def StatementEntry.Orderly (e : StatementEntry) : Prop :=
  ∀ i ∈ e.insert, i.Orderly

def StatementEntry.isOrderly (e : StatementEntry) : Bool :=
  e.insert.all fun i => i.values.all Node.areOrderly

lemma StatementEntry.orderly_of_isOrderly {e : StatementEntry} (h : e.isOrderly = true) :
    e.Orderly := by
  intro i hi nodes hnodes n hn
  rw [Option.mem_def] at hi hnodes
  rw [isOrderly, hi, Option.all_some, hnodes, Option.all_some] at h
  exact Node.orderly_of_areOrderly h n hn

/-- An entry whose operands are orderly gives a statement, or its problem can be reported. -/
lemma StatementEntry.Orderly.crash?_eq_none {e : StatementEntry} (h : e.Orderly) {entry : Nat}
    {p : Problem} (hp : e.build entry = .error p) : p.crash? = none := by
  have hfails : FailsOnly (e.build entry) fun p => p.crash? = none := by
    refine failsOnly_build (fun p hp => hp.crash?_eq_none) fun _ _ i hi => ?_
    refine InsertEntry.failsOnly_build (fun p hp => hp.crash?_eq_none) fun nodes hnodes n hn => ?_
    have horderly := h i hi nodes hnodes n hn
    intro p hp
    exact ((Visit.firstProblem_of_fails horderly.acyclic).1 hp).crash?_eq_none horderly
  exact hfails p hp

end CqlWriter.Document
