import Mathlib
import CqlWriter.Proofs.LowerCase
import CqlWriter.Settings.Store

/-!
# Settings in a store and in its table

A store can be asked for one key, or for the table of all settings that have a value. A key of one
part that a flag belongs to has the same value in both, since the flag hides all keys below it.
-/

namespace CqlWriter

/-! ### Keys and their parts -/

namespace Text

lemma split_ne_nil (b : UInt8) (t : Text) : split b t ≠ [] := by
  cases t with
  | nil => simp [split]
  | cons x rest =>
    rw [split]
    split_ifs
    · simp
    · split <;> simp

lemma split_of_not_mem {b : UInt8} {t : Text} (h : b ∉ t) : split b t = [t] := by
  induction t with
  | nil => rfl
  | cons x rest ih =>
    rw [List.mem_cons, not_or] at h
    rw [split, if_neg (Ne.symm h.1), ih h.2]

/-- A text is split at its first separator. -/
lemma split_append {b : UInt8} {t : Text} (h : b ∉ t) (rest : Text) :
    split b (t ++ b :: rest) = t :: split b rest := by
  induction t with
  | nil => rw [List.nil_append, split, if_pos rfl]
  | cons x t ih =>
    rw [List.mem_cons, not_or] at h
    rw [List.cons_append, split, if_neg (Ne.symm h.1), ih h.2]

/-- A text is its first part, or that is followed by the separator and the other parts. -/
lemma eq_of_split_eq_cons {b : UInt8} {t part : Text} {parts : List Text}
    (h : split b t = part :: parts) : t = part ∨ ∃ rest, t = part ++ b :: rest := by
  induction t generalizing part parts with
  | nil =>
    cases h
    exact .inl rfl
  | cons x rest ih =>
    rw [split] at h
    split_ifs at h with hx
    · cases h
      exact .inr ⟨rest, by simp [hx]⟩
    · cases hsplit : split b rest with
      | nil => exact absurd hsplit (split_ne_nil b rest)
      | cons part' parts' =>
        rw [hsplit] at h
        cases h
        rcases ih hsplit with rfl | ⟨rest', rfl⟩
        · exact .inl rfl
        · exact .inr ⟨rest', rfl⟩

end Text

/-- ASCII without capitals. -/
def Text.IsSmall (t : Text) : Prop :=
  ∀ b ∈ t, b.toNat < 0x80 ∧ (b.toNat < 0x41 ∨ 0x5a < b.toNat)

instance (t : Text) : Decidable t.IsSmall :=
  List.decidableBAll _ t

/-- Small ASCII is its own lower case, in front of anything. -/
lemma Text.IsSmall.lower_append {t : Text} (ht : t.IsSmall) (rest : Text) :
    Text.lower (t ++ rest) = t ++ rest.lower := by
  have hsame : ∀ n < 0x80, (n < 0x41 ∨ 0x5a < n) → lowerChar (Char.ofNat n) = Char.ofNat n := by
    decide
  induction t with
  | nil => rfl
  | cons b t ih =>
    obtain ⟨hascii, hcapital⟩ := ht b (by simp)
    have hrest := ih fun x hx => ht x (by simp [hx])
    have hnat : (Char.ofNat b.toNat).toNat = b.toNat := by
      rw [Char.toNat_ofNat, if_pos (by left; omega)]
    have hbyte : byte (Char.ofNat b.toNat) = b := by
      rw [← UInt8.toNat_inj, toNat_byte (by omega), hnat]
    have hlead : Glyph.lead? b (t ++ rest) = some (Char.ofNat b.toNat, 0) := by
      simp [Glyph.lead?, hascii]
    have hglyphs : glyphs (b :: (t ++ rest))
        = .char (Char.ofNat b.toNat) :: glyphs (t ++ rest) := by
      rw [glyphs, Glyph.readFrom, hlead]
      rfl
    rw [List.cons_append, lower, hglyphs, List.map_cons, ← List.singleton_append, ofChars_append,
      Glyph.shown, hsame _ hascii hcapital, ofChars_singleton (by omega), hbyte]
    exact congrArg (b :: ·) hrest

namespace Settings

/-- A key of one part, in ASCII and in lower case. -/
structure IsName (key : Text) : Prop where
  isSmall : key.IsSmall
  not_mem : Text.byte '.' ∉ key

variable {key : Text}

lemma IsName.lower_eq (hkey : IsName key) : key.lower = key := by
  have h := hkey.isSmall.lower_append []
  rwa [List.append_nil, show Text.lower [] = [] from rfl, List.append_nil] at h

lemma IsName.keyPath_eq (hkey : IsName key) : keyPath key = [key] :=
  Text.split_of_not_mem hkey.not_mem

lemma IsName.lower_below (hkey : IsName key) (rest : Text) :
    Text.lower (key ++ Text.byte '.' :: rest) = key ++ Text.byte '.' :: rest.lower := by
  have hdot : Text.IsSmall [Text.byte '.'] := by decide
  rw [hkey.isSmall.lower_append, ← List.singleton_append, hdot.lower_append]
  rfl

/-- A key below a name has a path of two parts or more. -/
lemma IsName.keyPath_below (hkey : IsName key) (rest : Text) :
    ∃ second others, keyPath (key ++ Text.byte '.' :: rest) = key :: second :: others := by
  rw [keyPath, Text.split_append hkey.not_mem]
  cases hsplit : Text.split (Text.byte '.') rest with
  | nil => exact absurd hsplit (Text.split_ne_nil _ rest)
  | cons second others => exact ⟨second, others, rfl⟩

/-! ### Tables -/

namespace Table

variable {t : Table} {v : Value}

lemma lookup_set_self (t : Table) (key : Text) (v : Value) :
    (t.set key v).lookup key = some v := by
  unfold set
  split_ifs with hany
  · induction t with
    | nil => simp at hany
    | cons e t ih =>
      by_cases he : e.1 = key
      · simp [he]
      · have hne : (key == e.1) = false := by simpa using Ne.symm he
        rw [List.map_cons, if_neg he, List.lookup_cons, hne]
        exact ih (by simpa [he] using hany)
  · have hnone : t.lookup key = none := by
      rw [List.lookup_eq_none_iff]
      intro e he
      simp only [Bool.not_eq_true, List.any_eq_false, decide_eq_true_eq] at hany
      simpa using Ne.symm (hany e he)
    simp [List.lookup_append, hnone]

lemma lookup_set_of_ne {other : Text} (h : other ≠ key) :
    (t.set key v).lookup other = t.lookup other := by
  have hne : (other == key) = false := by simpa using h
  unfold set
  split_ifs with hany
  · clear hany
    induction t with
    | nil => rfl
    | cons e t ih =>
      obtain ⟨k, w⟩ := e
      by_cases hk : k = key
      · simp [hk, List.lookup_cons, hne, ih]
      · simp [hk, List.lookup_cons, ih]
  · simp [List.lookup_append, List.lookup_cons, hne]

/-- Assigning below another key does not touch a key. -/
lemma lookup_assign_of_ne {first : Text} {rest : List Text} (h : key ≠ first) :
    (t.assign v (first :: rest)).lookup key = t.lookup key := by
  cases rest with
  | nil => rw [assign, lookup_set_of_ne h]
  | cons second rest =>
    rw [assign, lookup_set_of_ne h]
    simp

lemma dig_name (hv : t.dig [key] = some v) :
    t.lookup key = some v := by
  have hdig : t.dig [key]
      = ((t.lookup key).bind fun inner => Value.dig 6 inner []).or none := by
    have hkey : pathKey [key] = key := List.append_nil key
    conv_rhs => rw [← hkey]
    rfl
  rw [hdig, Option.or_none, Option.bind_eq_some_iff] at hv
  obtain ⟨w, hlookup, hw⟩ := hv
  rw [hlookup]
  cases w with
  | null => cases hw
  | _ => exact hw

/-- What is found for a name stands in the table itself. -/
lemma search_name (hv : t.search [key] = some v) :
    t.lookup key = some v := by
  rw [Table.search] at hv
  split at hv
  · cases hv
  · cases hv
  · rename_i w hlookup
    rw [hlookup, hv]

mutual

/-- Keys that are found stay found. -/
lemma mem_keys {found : List Text} (hkey : key ∈ found) (above : Text) :
    (t : Table) → key ∈ keys found above t
  | [] => by
    rw [keys]
    exact hkey
  | (k, v) :: rest => by
    rw [keys]
    exact mem_keys (mem_valueKeys hkey (above ++ k) v) above rest

/-- Keys that are found are not lost. -/
lemma mem_valueKeys {found : List Text} (hkey : key ∈ found) (other : Text) :
    (v : Value) → key ∈ valueKeys found other v
  | .map entries => by
    rw [valueKeys]
    split_ifs
    · exact hkey
    · exact mem_keys hkey _ entries
  | .null | .text _ | .flag _ | .int _ | .wide _ | .word _ | .float _ | .timestamp _ | .handling _
  | .texts _ | .list _ | .mixed _ => by
    rw [valueKeys]
    · split_ifs
      · exact hkey
      · exact List.mem_append_left _ hkey
    · nofun

end

lemma mem_flatKeys_of_mem {found : List Text} (hkey : key ∈ found) (flat : List Text) :
    key ∈ flatKeys found flat := by
  unfold flatKeys
  induction flat generalizing found with
  | nil => exact hkey
  | cons k flat ih =>
    rw [List.foldl_cons]
    apply ih
    split_ifs
    · exact hkey
    · exact List.mem_append_left _ hkey

/-- A key of one part is below no other key, so it is found. -/
lemma mem_flatKeys {flat : List Text} (hname : IsName key) (hkey : key ∈ flat)
    (found : List Text) : key ∈ flatKeys found flat := by
  have hparents : parentKeys (keyPath key) = [] := by
    rw [hname.keyPath_eq]
    rfl
  obtain ⟨before, after, rfl⟩ := List.append_of_mem hkey
  have hsplit : flatKeys found (before ++ key :: after)
      = flatKeys (flatKeys (flatKeys found before) [key]) after := by
    simp only [flatKeys, List.foldl_append, List.foldl_cons, List.foldl_nil]
  rw [hsplit]
  apply mem_flatKeys_of_mem
  simp only [flatKeys, List.foldl_cons, List.foldl_nil, hparents, List.any_nil, Bool.or_false]
  split_ifs with hfound
  · simpa using hfound
  · simp

end Table

/-! ### Stores -/

namespace Store

def flagKeys (s : Store) : List Text :=
  s.flags.map Prod.fst

/-- Binding a flag puts its key in front. -/
lemma flagKeys_addFlag (s : Store) (key : Text) (f : Flag) :
    (s.addFlag key f).flagKeys = key.lower :: s.flagKeys.filter (· ≠ key.lower) := by
  simp only [flagKeys, addFlag, List.map_cons, List.filter_map]
  rfl

/-- Only a flag, a variable, the file and the default give the value of a key, and no flag belongs
to a key below. -/
structure Direct (s : Store) (key : Text) : Prop where
  isName : IsName key
  aliases : s.aliases = []
  overrides : s.overrides = []
  mem : key ∈ s.flagKeys
  apart : ∀ other ∈ s.flagKeys, ¬ key ++ [Text.byte '.'] <+: other

def put (s : Store) (h : Host) (t : Table) (key : Text) : Table :=
  (s.find? h key).elim t fun v => t.assign v (keyPath key)

lemma all_eq_foldl (s : Store) (h : Host) : s.all h = s.keys.foldl (s.put h) [] := by
  unfold all
  congr 1
  funext t k
  unfold put
  cases s.find? h k <;> rfl

variable {s : Store} (hs : s.Direct key) (h : Host)
include hs

lemma Direct.isSome_lookup : (s.flags.lookup key).isSome := by
  rw [Option.isSome_iff_ne_none, Ne, List.lookup_eq_none_iff]
  intro hnone
  obtain ⟨e, he, hkey⟩ := List.mem_map.mp hs.mem
  exact absurd (hnone e he) (by simp [hkey])

lemma Direct.realKey_eq (k : Text) : s.realKey k = k := by
  rw [realKey, hs.aliases]
  rfl

/-- The flag of a key hides what is below the key. -/
lemma Direct.find?_below (rest : Text) : s.find? h (key ++ Text.byte '.' :: rest) = none := by
  obtain ⟨second, others, hpath⟩ := hs.isName.keyPath_below rest.lower
  have hflag : s.flagValue? (key ++ Text.byte '.' :: rest.lower) = none := by
    have hlookup : s.flags.lookup (key ++ Text.byte '.' :: rest.lower) = none := by
      rw [List.lookup_eq_none_iff]
      intro e he
      have hne : key ++ Text.byte '.' :: rest.lower ≠ e.1 := by
        intro heq
        refine hs.apart e.1 (List.mem_map_of_mem he) ?_
        rw [← heq]
        exact ⟨rest.lower, by simp⟩
      simpa using hne
    rw [flagValue?, hlookup]
    rfl
  have hshadow : s.flagsShadow (key :: second :: others) = true := by
    rw [flagsShadow, List.any_eq_true]
    refine ⟨key, List.mem_map.mpr ⟨1, ?_, List.append_nil key⟩, hs.isSome_lookup⟩
    simp [List.range_succ_eq_map]
  simp only [find?, hs.isName.lower_below, hs.realKey_eq, hpath, hs.aliases, hs.overrides, hflag,
    hshadow]
  rfl

/-- Where the value of a key comes from. -/
lemma Direct.find?_cases {v : Value} (hv : s.find? h key = some v) :
    (∃ f : Flag, v = f.setting) ∨ (∃ t, v = .text t) ∨ s.config.lookup key = some v ∨
      s.defaults.lookup key = some v := by
  simp only [find?, hs.isName.lower_eq, hs.realKey_eq, hs.isName.keyPath_eq, hs.overrides,
    Bool.false_eq_true, if_false] at hv
  have hsearch : Table.search [] [key] = none := rfl
  have hshadows : ∀ t : Table, t.shadows [key] = false := fun _ => rfl
  have hflags : s.flagsShadow [key] = false := rfl
  simp only [hsearch, hshadows, hflags, Bool.false_eq_true, if_false] at hv
  cases hflag : s.flagValue? key with
  | some w =>
    rw [hflag] at hv
    cases hv
    obtain ⟨f, -, hf⟩ := Option.bind_eq_some_iff.mp hflag
    split_ifs at hf
    cases hf
    exact .inl ⟨f, rfl⟩
  | none =>
    rw [hflag] at hv
    cases hvariable : s.variableValue? h key with
    | some w =>
      rw [hvariable] at hv
      cases hv
      obtain ⟨t, -, ht⟩ := Option.map_eq_some_iff.mp hvariable
      exact .inr (.inl ⟨t, ht.symm⟩)
    | none =>
      rw [hvariable] at hv
      cases hconfig : s.config.dig [key] with
      | some w =>
        rw [hconfig] at hv
        cases hv
        exact .inr (.inr (.inl (Table.dig_name hconfig)))
      | none =>
        rw [hconfig] at hv
        exact .inr (.inr (.inr (Table.search_name hv)))

/-- A key with a flag is among the keys. -/
lemma Direct.mem_keys : key ∈ s.keys := by
  unfold keys
  apply Table.mem_keys
  apply Table.mem_keys
  apply Table.mem_flatKeys_of_mem
  exact Table.mem_flatKeys hs.isName hs.mem _

/-- Putting a key in sets it alone. -/
lemma Direct.lookup_put (t : Table) (other : Text) : (s.put h t other).lookup key
    = if other = key then (s.find? h key).or (t.lookup key) else t.lookup key := by
  unfold put
  by_cases hother : other = key
  · subst hother
    rw [if_pos rfl, hs.isName.keyPath_eq]
    cases s.find? h other with
    | none => rfl
    | some v => exact Table.lookup_set_self t other v
  · rw [if_neg hother]
    cases hfind : s.find? h other with
    | none => rfl
    | some v =>
      cases hpath : keyPath other with
      | nil => exact absurd hpath (Text.split_ne_nil _ other)
      | cons first rest =>
        refine Table.lookup_assign_of_ne ?_
        -- a key below would have no value
        rintro rfl
        rcases Text.eq_of_split_eq_cons hpath with rfl | ⟨rest', rfl⟩
        · exact hother rfl
        · rw [hs.find?_below] at hfind
          cases hfind

/-- In the table of all settings, the key has the value that it has in the store. -/
lemma Direct.lookup_all : (s.all h).lookup key = s.find? h key := by
  have hfold : ∀ (ks : List Text) (t : Table), (ks.foldl (s.put h) t).lookup key
      = if key ∈ ks then (s.find? h key).or (t.lookup key) else t.lookup key := by
    intro ks
    induction ks with
    | nil => simp
    | cons k ks ih =>
      intro t
      rw [List.foldl_cons, ih, hs.lookup_put]
      by_cases hk : k = key
      · cases s.find? h key <;> simp [hk]
      · simp [hk, Ne.symm hk]
  rw [all_eq_foldl, hfold, if_pos hs.mem_keys]
  simp

end Store

end Settings

end CqlWriter
