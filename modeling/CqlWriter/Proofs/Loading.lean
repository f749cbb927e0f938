import Mathlib
import CqlWriter.Command.Session
import CqlWriter.Proofs.Results

/-!
# Faults of loading documents

Documents are loaded one after another until one fails. The fault is that of the first document that
cannot be read or is not right, and the category of the fault tells which of the two it is. A
document may also bring the program down, and then there is no fault. What is logged on the way does
not change which files can be read, once the file of the log is there.
-/

namespace CqlWriter

/-! ### Folders with the same files -/

namespace Folder

/-- The two folders have the same files and folders, with any contents. -/
structure Alike (d d' : Folder) : Prop where
  path_eq : d.path = d'.path
  folders_eq : d.folders = d'.folders
  keys_eq : d.files.map Prod.fst = d'.files.map Prod.fst

def Place.bare : Place → Place
  | .file key _ => .file key []
  | place => place

namespace Alike

variable {d d' d'' : Folder}

lemma refl (d : Folder) : d.Alike d :=
  ⟨rfl, rfl, rfl⟩

lemma trans (h : d.Alike d') (h' : d'.Alike d'') : d.Alike d'' :=
  ⟨h.path_eq.trans h'.path_eq, h.folders_eq.trans h'.folders_eq, h.keys_eq.trans h'.keys_eq⟩

lemma way_eq (h : d.Alike d') : d.way = d'.way := by
  rw [way, way, h.path_eq]

lemma hasFolder_eq (h : d.Alike d') (way : List Text) : d.hasFolder way = d'.hasFolder way := by
  have hfiles : ∀ d : Folder, (d.files.any fun f => way.isPrefixOf f.1 && way.length < f.1.length)
      = (d.files.map Prod.fst).any fun key => way.isPrefixOf key && way.length < key.length := by
    intro d
    rw [List.any_map]
    rfl
  rw [hasFolder, hasFolder, hfiles, hfiles, h.way_eq, h.folders_eq, h.keys_eq]

/-- A file is missing in both of two folders that are alike, or in none. -/
lemma lookup_eq_none_iff (h : d.Alike d') (key : List Text) :
    d.files.lookup key = none ↔ d'.files.lookup key = none := by
  have hkeys : ∀ d : Folder, d.files.lookup key = none ↔ ∀ k ∈ d.files.map Prod.fst, key ≠ k := by
    intro d
    simp [List.lookup_eq_none_iff]
  rw [hkeys, hkeys, h.keys_eq]

lemma bare_follow_eq (h : d.Alike d') (way parts : List Text) :
    (d.follow way parts).bare = (d'.follow way parts).bare := by
  induction parts generalizing way with
  | nil => rfl
  | cons part rest ih =>
    simp only [follow, h.hasFolder_eq]
    -- both folders have a file here or neither has
    cases hlookup : d.files.lookup (way ++ [part]) with
    | none =>
      simp only [(h.lookup_eq_none_iff _).mp hlookup]
      split_ifs
      · exact ih way
      · exact ih way.dropLast
      · rfl
      · rfl
      · rfl
      · exact ih (way ++ [part])
      · rfl
      · rfl
    | some content =>
      have hsome : d'.files.lookup (way ++ [part]) ≠ none := by
        intro hnone
        rw [(h.lookup_eq_none_iff _).mpr hnone] at hlookup
        cases hlookup
      obtain ⟨content', hlookup'⟩ := Option.ne_none_iff_exists'.mp hsome
      simp only [hlookup']
      split_ifs
      · exact ih way
      · exact ih way.dropLast
      · rfl
      · rfl
      · rfl
      · rfl
      · rfl

/-- A path leads to the same kind of place in folders that are alike. -/
lemma bare_find_eq (h : d.Alike d') (p : Text) : (d.find p).bare = (d'.find p).bare := by
  have hwhole : d.isWhole p = d'.isWhole p := by
    rw [isWhole, isWhole, h.path_eq]
  unfold find
  rw [hwhole, h.way_eq]
  split_ifs
  · rfl
  · rfl
  · rfl
  · exact h.bare_follow_eq _ _
  · exact h.bare_follow_eq _ _

end Alike

/-- Writing to a file that is there leaves all files in place. -/
lemma alike_put {d : Folder} {key : List Text} {content : Text}
    (h : d.files.lookup key = some content) (new : Text) : d.Alike (d.put key new) := by
  have hkey : d.files.any (·.1 = key) = true := by
    obtain ⟨front, back, hfiles, -⟩ := List.lookup_eq_some_iff.mp h
    simp [hfiles]
  have hkeys : ∀ f : List Text × Text, (if f.1 = key then (key, new) else f).1 = f.1 := by
    intro f
    split_ifs with hf
    · exact hf.symm
    · rfl
  unfold put
  rw [if_pos hkey]
  refine ⟨rfl, rfl, ?_⟩
  simp only [List.map_map]
  exact List.map_congr_left fun f _ => (hkeys f).symm

/-- A file that a path leads to is in the folder, with this content. -/
lemma lookup_of_follow {d : Folder} {way parts key : List Text} {content : Text}
    (h : d.follow way parts = .file key content) : d.files.lookup key = some content := by
  fun_induction d.follow way parts with
  | case1 => cases h
  | case2 way part rest hstay ih => exact ih h
  | case3 way rest _ ih => exact ih h
  | case4 => cases h
  | case5 => cases h
  | case6 => cases h
  | case7 way part rest _ _ _ next _ content hlookup _ =>
    obtain ⟨hkey, hcontent⟩ := Place.file.inj h
    rw [← hkey, ← hcontent]
    exact hlookup
  | case8 => cases h
  | case9 way part rest _ _ _ next _ _ _ ih => exact ih h
  | case10 => cases h
  | case11 => cases h

/-- Appending to a file that is there, or where no file can be made, leaves all files in place. -/
lemma alike_append? {d d' : Folder} {p text : Text} (hplace : ∀ key, d.find p ≠ .free key)
    (h : d.append? p text = some d') : d.Alike d' := by
  unfold append? at h
  split at h
  · rename_i key content hfind
    cases h
    have hlookup : d.files.lookup key = some content := by
      unfold find at hfind
      split_ifs at hfind <;> exact lookup_of_follow hfind
    exact alike_put hlookup _
  · rename_i key hfind
    exact absurd hfind (hplace key)
  · cases h
    exact .refl d
  · cases h

end Folder

/-! ### Logging -/

namespace Log.Logger

/-- The file of the log, if there is one, is there or cannot be made. So no file is made by
logging. -/
def InPlace (l : Logger) (h : Host) : Prop :=
  ∀ j path, l.journal = some j → j.destination = .file path →
    ∀ key, h.folder.find path ≠ .free key

lemma InPlace.of_alike {l : Logger} {h h' : Host} (hplace : l.InPlace h)
    (halike : h.folder.Alike h'.folder) : l.InPlace h' := by
  intro j path hj hpath key hfree
  have hbare := halike.bare_find_eq path
  rw [hfree] at hbare
  cases hfind : h.folder.find path with
  | free k => exact hplace j path hj hpath k hfind
  | file | folder | sink | nowhere | blocked | malformed | tooLong =>
    rw [hfind] at hbare
    cases hbare

lemma log_eq (l : Logger) (r : Record) (h : Host) : l.log r h = match l.journal with
    | some j => j.log r h
    | none => h.note r := by
  unfold log sink
  cases l.journal <;> rfl

/-- Logging changes no more than the contents of files. -/
lemma alike_log {l : Logger} {h : Host} (hplace : l.InPlace h) (r : Record) :
    h.folder.Alike (l.log r h).folder := by
  rw [log_eq]
  split
  · rename_i j hj
    unfold Journal.log Journal.write
    split
    · exact .refl _
    · exact .refl _
    · rename_i path hpath
      split_ifs
      · exact .refl _
      · split
        · rename_i folder hfolder
          exact Folder.alike_append? (hplace j path hj hpath) hfolder
        · exact .refl _
  · unfold Host.note
    split_ifs
    · exact .refl _
    · exact .refl _

end Log.Logger

/-! ### Categories of faults -/

/-- The outermost documented fault has one of the identifiers, and the category is the given
one. -/
def Fault.IsCoded (f : Fault) (ids : List Text) (category : Category) : Prop :=
  (∃ kind, f.kind? = some kind ∧ kind.id ∈ ids) ∧ f.category = category

lemma Fault.IsCoded.within {f : Fault} {ids : List Text} {category : Category}
    (h : f.IsCoded ids category) (context : Text) : (within context f).IsCoded ids category :=
  h

namespace Command

section

variable {d : Documents} {h : Host} {file : Text}

end

/-! ### Loading -/

namespace Session

def logged (s : Session) (r : Log.Record) : Session :=
  { s with host := s.logger.log r s.host }

/-- The second session differs from the first one by what is logged. -/
structure Follows (s s' : Session) : Prop where
  documents_eq : s'.documents = s.documents
  logger_eq : s'.logger = s.logger
  alike : s.logger.InPlace s.host → s.host.folder.Alike s'.host.folder

namespace Follows

variable {s s' s'' : Session}

lemma refl (s : Session) : s.Follows s :=
  ⟨rfl, rfl, fun _ => .refl _⟩

lemma trans (h : s.Follows s') (h' : s'.Follows s'') : s.Follows s'' := by
  refine ⟨h'.documents_eq.trans h.documents_eq, h'.logger_eq.trans h.logger_eq, fun hplace => ?_⟩
  have halike := h.alike hplace
  -- the file of the log is still in place after the first part
  refine halike.trans (h'.alike ?_)
  rw [h.logger_eq]
  exact hplace.of_alike halike

lemma logged (s : Session) (r : Log.Record) : s.Follows (s.logged r) :=
  ⟨rfl, rfl, fun hplace => Log.Logger.alike_log hplace r⟩

end Follows

end Session

variable {s s' : Session} {file : Text} {stop : Settings.ConfigFile.Stop}

namespace Job

variable {α β : Type} {j : Job α}

lemma run_get_bind (k : Session → Job α) : (get >>= k).run.run s = (k s).run.run s := rfl

/-- A job goes on where the one before has ended. -/
lemma run_bind_of_ok {a : α} (h : j.run.run s = (.ok a, s')) (k : α → Job β) :
    (j >>= k).run.run s = (k a).run.run s' := by
  rw [ExceptT.run_bind, StateT.run_bind, h]
  rfl

/-- A job that fails is not gone on with. -/
lemma run_bind_of_error (h : j.run.run s = (.error stop, s')) (k : α → Job β) :
    (j >>= k).run.run s = (.error stop, s') := by
  rw [ExceptT.run_bind, StateT.run_bind, h]
  rfl

end Job

end Command

end CqlWriter
