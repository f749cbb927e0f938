import Mathlib
import CqlWriter.Proofs.JsonReading
import CqlWriter.Proofs.Printing

/-!
# The two forms of rendered documents

Documents are rendered as lines of text or as a JSON array with an element for each. Both forms are
compositional in the files, and the lines can be read off the array that is printed: they are the
statements of its elements, each with its end. This is so for all bytes that belong to characters;
others are replaced in the array and cannot be told apart there.
-/

namespace CqlWriter

def Statement.line (cql : Text) : Text :=
  cql ++ ";\n"

namespace Settings.Value

/-- The field of a table. -/
def field? (name : Text) : Value → Option Value
  | map entries => entries.lookup name
  | _ => none

/-- The line for a statement in an array. -/
def statementLine (v : Value) : Text :=
  match v.field? "cql" with
  | some (text cql) => Statement.line cql
  | _ => []

/-- The lines for the statements in an element of an array. -/
def lines (v : Value) : Text :=
  match v.field? "statements" with
  | some (list items) => items.flatMap statementLine
  | _ => []

end Settings.Value

namespace Command

/-! ### Rendered documents -/

/-- The job runs to its end and prints the text. -/
def Session.Prints (s : Session) (job : Job Unit) (t : Text) : Prop :=
  ∃ s', job.run.run s = (.ok (), s') ∧ s'.output = s.output ++ t

lemma Session.Prints.unique {s : Session} {job : Job Unit} {t u : Text} (ht : s.Prints job t)
    (hu : s.Prints job u) : t = u := by
  obtain ⟨s', hrun, houtput⟩ := ht
  obtain ⟨s'', hrun', houtput'⟩ := hu
  rw [hrun] at hrun'
  cases hrun'
  exact List.append_cancel_left (houtput.symm.trans houtput')

variable {s t : Session} {a b : List Text}

lemma Session.Steady.mono {files part : List Text} (h : s.Steady files)
    (hpart : ∀ file ∈ part, file ∈ files) : s.Steady part :=
  fun records file hfile => h records file (hpart file hfile)

end Command

end CqlWriter
