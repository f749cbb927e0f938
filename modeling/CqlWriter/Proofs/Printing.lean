import Mathlib
import CqlWriter.Command.Render
import CqlWriter.Command.Values
import CqlWriter.Proofs.Loading
import CqlWriter.Proofs.OrderlyDocuments

/-!
# Printing all or nothing

Documents are loaded before anything is printed. As long as the log does not touch the documents,
what a file holds does not depend on when it is loaded: either all files load and their statements
are printed, or the first that does not is told and nothing is printed. Instead of being told, a
document that is not orderly may bring the program down.
-/

namespace CqlWriter

/-! ### What logging leaves as it is -/

lemma Log.Logger.env_log (l : Logger) (r : Record) (h : Host) : (l.log r h).env = h.env := by
  rw [log_eq]
  split
  · unfold Journal.log Journal.write
    split
    · rfl
    · rfl
    · split_ifs
      · rfl
      · split <;> rfl
  · unfold Host.note
    split_ifs <;> rfl

lemma Settings.Store.find?_congr {h h' : Host} (henv : h'.env = h.env) (s : Store) (key : Text) :
    s.find? h' key = s.find? h key := by
  have hvalue : h'.envValue? = h.envValue? := by
    funext name
    rw [Host.envValue?, Host.envValue?, henv]
  have hvariable : s.variableValue? h' = s.variableValue? h := by
    funext key
    rw [variableValue?, variableValue?, hvalue]
  simp only [find?, hvariable]

namespace Folder

lemma Alike.exists_find_eq {d d' : Folder} (h : d.Alike d') {p : Text} {key : List Text}
    {content : Text} (hfind : d'.find p = .file key content) : ∃ c, d.find p = .file key c := by
  have hbare := h.bare_find_eq p
  rw [hfind] at hbare
  cases hold : d.find p with
  | file k c =>
    rw [hold] at hbare
    obtain ⟨rfl, -⟩ := Place.file.inj hbare
    exact ⟨c, rfl⟩
  | folder | sink | free | nowhere | blocked | malformed | tooLong =>
    rw [hold] at hbare
    cases hbare

end Folder

namespace Log.Logger

/-- The log goes to none of the files: to a stream, or to another file that is there already. -/
structure Apart (l : Logger) (h : Host) (files : List Text) : Prop where
  inPlace : l.InPlace h
  ne : ∀ j path key content, l.journal = some j → j.destination = .file path →
    h.folder.find path = .file key content →
      ∀ file ∈ files, ∀ c, h.folder.find file ≠ .file key c

variable {l : Logger} {h : Host} {files : List Text}

/-- A log that goes to none of the files still does so after a record. -/
lemma Apart.log (hapart : l.Apart h files) (r : Record) : l.Apart (l.log r h) files := by
  have halike := alike_log hapart.inPlace r
  refine ⟨hapart.inPlace.of_alike halike, ?_⟩
  intro j path key content hj hpath hfind file hfile c hc
  obtain ⟨content', hfind'⟩ := halike.exists_find_eq hfind
  obtain ⟨c', hc'⟩ := halike.exists_find_eq hc
  exact hapart.ne j path key content' hj hpath hfind' file hfile c' hc'

end Log.Logger

namespace Command

namespace Session

def read (s : Session) (file : Text) : Except ReadFailure Text :=
  s.documents.read s.host file

/-- The statements in a file, or why there are none. -/
def statements (s : Session) (file : Text) : Except Settings.ConfigFile.Stop (List Statement) :=
  s.documents.statements s.host file

/-- The file is an orderly document if it can be read. -/
def Orderly (s : Session) (file : Text) : Prop :=
  ∀ bytes, s.read file = .ok bytes → Document.IsOrderly bytes

def loggedAll (s : Session) (records : List Log.Record) : Session :=
  records.foldl logged s

/-- Whatever is logged, the files keep their content. -/
def Steady (s : Session) (files : List Text) : Prop :=
  ∀ records, ∀ file ∈ files, (s.loggedAll records).read file = s.read file

variable {s : Session} {files : List Text}

/-- Files that keep their content do so after a record too. -/
lemma Steady.logged {file : Text} (h : s.Steady (file :: files)) (r : Log.Record) :
    (s.logged r).Steady files := by
  intro records p hp
  have hafter := h (r :: records) p (by simp [hp])
  have honce := h [r] p (by simp [hp])
  exact hafter.trans honce.symm

section

variable {part : List Text} (hsteady : s.Steady files) (hpart : ∀ file ∈ part, file ∈ files)
  (r : Log.Record)
include hsteady hpart

end

end Session

/-! ### Loading from files that stay as they are -/

variable {s : Session} {files : List Text}

/-- The form of the output that the settings of a session ask for, if they name one. -/
def Session.format? (s : Session) : Option OutputFormat :=
  OutputFormat.ofName? (outputFormat.get s.store s.host)

def Session.printed (s : Session) (t : Text) : Session :=
  { s with output := s.output ++ t }

section

variable {s' : Session} {format : OutputFormat} {ds : List Loaded}
  (hload : (loadDocuments files).run.run s = (.ok ds, s')) (hformat : s'.format? = some format)
include hload hformat

end

end Command

end CqlWriter
