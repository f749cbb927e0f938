import Mathlib
import CqlWriter.Proofs.Decoding
import CqlWriter.Settings.ConfigFile

/-!
# Values in configuration files

A file has texts, truth values, numbers, times, lists and tables, but it has no value that tells
what is done about a missing file: such a value is only a default.
-/

namespace CqlWriter

namespace Settings

open Yaml (Node Decode)

/-- The value tells nothing about a missing file. -/
def Value.IsPlain (v : Value) : Prop :=
  ∀ h, v ≠ .handling h

def Table.IsPlain (t : Table) : Prop :=
  ∀ e ∈ t, e.2.IsPlain

/-- The value is plain, and if it is a table, so are the values in it. -/
def Value.IsPlainTable (v : Value) : Prop :=
  v.IsPlain ∧ ∀ entries, v = .map entries → Table.IsPlain entries

namespace Table

variable {t : Table} {v : Value}

lemma isPlain_nil : IsPlain [] := by
  simp [IsPlain]

/-- Setting a plain value keeps a table plain. -/
lemma IsPlain.set (ht : t.IsPlain) (hv : v.IsPlain) (key : Text) : (t.set key v).IsPlain := by
  intro e he
  unfold Table.set at he
  split_ifs at he
  · obtain ⟨e', he', rfl⟩ := List.mem_map.mp he
    split_ifs
    · exact hv
    · exact ht e' he'
  · rcases List.mem_append.mp he with he | he
    · exact ht e he
    · rw [List.mem_singleton.mp he]
      exact hv

lemma IsPlain.foldl_set {α : Type} {xs : List α} {key : α → Text} {value : α → Value}
    (ht : t.IsPlain) (hxs : ∀ x ∈ xs, (value x).IsPlain) :
    (xs.foldl (fun t x => t.set (key x) (value x)) t).IsPlain := by
  induction xs generalizing t with
  | nil => exact ht
  | cons x xs ih =>
    rw [List.foldl_cons]
    exact ih (ht.set (hxs x (by simp)) _) fun y hy => hxs y (by simp [hy])

end Table

/-! ### YAML -/

lemma Value.isPlain_ofScalar (v : Yaml.Scalar) : (Value.ofScalar v).IsPlain := by
  intro h
  cases v with
  | int n =>
    rw [Value.ofScalar]
    split_ifs <;> simp
  | null | bool _ | float _ | timestamp _ | text _ => simp [Value.ofScalar]

/-- No value of a stream tells about a missing file. -/
lemma Value.isPlain_ofLoose (v : Yaml.Loose) : (Value.ofLoose v).IsPlain := by
  cases v with
  | scalar s =>
    rw [Value.ofLoose]
    exact isPlain_ofScalar s
  | list items => simp [Value.ofLoose, IsPlain]
  | map texts entries => cases texts <;> simp [Value.ofLoose, IsPlain]

lemma Table.IsPlain.ofLoose (entries : List (Yaml.Scalar × Yaml.Loose)) {t : Table}
    (ht : t.IsPlain) : (Table.ofLoose t entries).IsPlain := by
  induction entries generalizing t with
  | nil =>
    rw [Table.ofLoose]
    exact ht
  | cons e rest ih =>
    rw [Table.ofLoose]
    exact ih (ht.set (Value.isPlain_ofLoose e.2) _)

/-- Reading a table of a stream gives plain values only. -/
lemma readTable_yields (n : Node) : (readTable n).Yields Table.IsPlain := by
  cases n with
  | mapping line tag entries =>
    refine .after fun repeated => ?_
    split_ifs
    · exact .pure Table.isPlain_nil
    · exact .after fun _ => .after fun g => .pure (Table.isPlain_nil.ofLoose g.entries)
  | scalar | sequence | reference => exact .after fun _ => .pure Table.isPlain_nil

/-- A file in YAML has plain values only. -/
lemma isPlain_of_ofYaml {bytes : Text} {t : Table} (h : Table.ofYaml bytes = .ok t) :
    t.IsPlain := by
  obtain ⟨root, -, hroot⟩ := bind_eq_ok_iff.mp h
  cases root with
  | none =>
    cases hroot
    exact Table.isPlain_nil
  | some root =>
    have hyields : (Decode.document readTable root).Yields Table.IsPlain :=
      .after fun _ => .follow (readTable_yields _)
    exact hyields.run hroot

/-! ### JSON -/

namespace JsonReader

lemma value_yields {fuel : Nat}
    (hentries : ∀ depth, Yields (entries depth fuel []) Table.IsPlain) (depth : Nat) :
    Yields (value depth (fuel + 1)) Value.IsPlainTable := by
  have hpure : ∀ {v : Value}, (∀ h, v ≠ .handling h) → (∀ es, v ≠ .map es) → v.IsPlainTable :=
    fun hv hmap => ⟨hv, fun es hes => absurd hes (hmap es)⟩
  rw [value]
  refine .after fun _ => .after fun b => ?_
  cases b with
  | none => exact .throw _
  | some b =>
    dsimp only
    split_ifs
    · refine .after fun _ => .after fun next => ?_
      split_ifs
      · exact .after fun _ => .pure (by simp [Value.IsPlainTable, Value.IsPlain, Table.IsPlain])
      · refine .bind (hentries _) fun es hes => .pure ⟨by simp [Value.IsPlain], ?_⟩
        rintro _ ⟨rfl⟩
        exact hes
    · refine .after fun _ => .after fun next => ?_
      split_ifs
      · exact .after fun _ => .pure (hpure (by simp) (by simp))
      · exact .after fun _ => .pure (hpure (by simp) (by simp))
    · exact .after fun _ => .after fun _ => .pure (hpure (by simp) (by simp))
    · exact .after fun _ => .after fun _ => .pure (hpure (by simp) (by simp))
    · exact .after fun _ => .after fun _ => .pure (hpure (by simp) (by simp))
    · exact .after fun _ => .after fun _ => .pure (hpure (by simp) (by simp))
    · refine .after fun number => ?_
      split
      · exact .pure (hpure (by simp) (by simp))
      · exact .after fun _ => .pure (hpure (by simp) (by simp))
    · exact .after fun _ => .throw _

/-- The entries of an object are plain, and so are the values in them. The induction is on the fuel.
-/
lemma entries_yields (depth fuel : Nat) {t : Table} (ht : t.IsPlain) :
    Yields (entries depth fuel t) Table.IsPlain := by
  induction fuel using Nat.strong_induction_on generalizing depth t with
  | h fuel ih =>
    cases fuel with
    | zero =>
      rw [entries]
      exact .throw _
    | succ fuel =>
      have hvalue : Yields (value depth fuel) Value.IsPlain := by
        cases fuel with
        | zero =>
          rw [value]
          exact .throw _
        | succ fuel =>
          have hread := value_yields (fun depth => ih fuel (by omega) depth Table.isPlain_nil) depth
          exact fun r v r' hrun => (hread r v r' hrun).1
      rw [entries]
      refine .after fun _ => .after fun key => .after fun _ => ?_
      refine .bind hvalue fun v hv => .after fun _ => .after fun b => ?_
      split_ifs
      · exact .after fun _ => ih fuel (by omega) depth (ht.set hv key)
      · exact .after fun _ => .pure (ht.set hv key)

lemma whole_yields : Yields whole Value.IsPlainTable := by
  refine .after fun r => ?_
  have hvalue : Yields (value 0 (r.rest.length + 1)) Value.IsPlainTable :=
    value_yields (fun depth => entries_yields depth _ Table.isPlain_nil) 0
  refine .bind hvalue fun v hv => .after fun _ => .after fun next => ?_
  cases next with
  | none => exact .pure hv
  | some b => exact .after fun _ => .throw _

end JsonReader

lemma isPlain_of_ofJson {bytes : Text} {t : Table} (h : Table.ofJson bytes = .ok t) :
    t.IsPlain := by
  obtain ⟨⟨v, reading⟩, hwhole, hv⟩ := bind_eq_ok_iff.mp h
  have hplain := JsonReader.whole_yields _ _ _ hwhole
  dsimp only at hv
  split at hv
  · cases hv
  · cases hv
    exact hplain.2 _ rfl
  · cases hv
    exact Table.isPlain_nil
  all_goals cases hv

/-! ### Files -/

/-- A file has plain values only, in whichever of the two forms it is. -/
lemma isPlain_of_ofFile {type bytes : Text} {t : Table} (h : Table.ofFile type bytes = .ok t) :
    t.IsPlain := by
  unfold Table.ofFile at h
  split_ifs at h
  · cases hyaml : Table.ofYaml bytes with
    | error e =>
      rw [hyaml] at h
      cases h
    | ok t' =>
      rw [hyaml] at h
      cases h
      exact isPlain_of_ofYaml hyaml
  · cases hjson : Table.ofJson bytes with
    | error e =>
      rw [hjson] at h
      cases h
    | ok t' =>
      rw [hjson] at h
      cases h
      exact isPlain_of_ofJson hjson
  · cases h
    exact Table.isPlain_nil

/-- Writing the keys in lower case does not touch the values. -/
lemma isPlain_lowerEntries {t : Table} (ht : t.IsPlain) : Table.IsPlain (Value.lowerEntries t) := by
  induction t with
  | nil => simp [Value.lowerEntries, Table.IsPlain]
  | cons e t ih =>
    obtain ⟨key, v⟩ := e
    have hv : v.IsPlain := ht (key, v) (by simp)
    have hlower : v.lowerKeys.IsPlain := by
      cases v with
      | handling h => exact absurd rfl (hv h)
      | _ => simp [Value.lowerKeys, Value.IsPlain]
    rw [Value.lowerEntries]
    intro e he
    rcases List.mem_cons.mp he with rfl | he
    · exact hlower
    · exact ih (fun e' he' => ht e' (by simp [he'])) e he

lemma isPlain_lower {t : Table} (ht : t.IsPlain) : t.lower.IsPlain :=
  Table.isPlain_nil.foldl_set (isPlain_lowerEntries ht)

/-- The entries of a configuration file are plain. -/
lemma FileSearch.isPlain_of_read {s : FileSearch} {d : Folder} {t : Table}
    (h : s.read d = .ok t) : t.IsPlain := by
  unfold read at h
  split_ifs at h
  · cases h
  · obtain ⟨bytes, -, h⟩ := bind_eq_ok_iff.mp h
    obtain ⟨content, hcontent, h⟩ := bind_eq_ok_iff.mp h
    cases h
    exact isPlain_lower (isPlain_of_ofFile hcontent)

end Settings

end CqlWriter
