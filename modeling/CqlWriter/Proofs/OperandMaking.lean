import Mathlib
import CqlWriter.Proofs.OperandGrammar

/-!
# Making operands

The operand of a node is made of its shape and of the operands of its parts. So making an operand of
a node without cycles gives what the grammar says: the operand that the node spells, or else the
first problem on a walk through its parts.
-/

namespace CqlWriter.Document

open Yaml

/-! ### The operand of a node from those of its parts -/

lemma HasKeyAndValue.unique {n k v k' v' : Node} (h : HasKeyAndValue n k v)
    (h' : HasKeyAndValue n k' v') : k = k' ∧ v = v' := by
  unfold HasKeyAndValue at h h'
  rw [h] at h'
  cases h'
  exact ⟨rfl, rfl⟩

/-- An entry is read as a key and a value exactly when the grammar says that it has them. -/
lemma keyAndValue_eq_ok_iff {entry : Nat} {n k v : Node} :
    keyAndValue entry n = .ok (k, v) ↔ HasKeyAndValue n k v := by
  rw [hasKeyAndValue_iff]
  unfold keyAndValue
  constructor
  · intro h
    split at h
    · cases h
    · cases h
      assumption
    · cases h
  · intro h
    rw [h]

/-- A failure that needs no cycle is reported as one of the entry. -/
lemma unreadable_of_acyclic (n : Node) {failure : Failure} (h : failure.Acyclic) :
    unreadable n failure = .badMapEntry failure := by
  unfold unreadable
  split
  · exact absurd rfl (h _)
  · rfl

/-- What is wrong with an entry of a map literal without cycles is so by the grammar. -/
lemma keyAndValue_eq_error_iff {entry : Nat} {n : Node} {p : Problem} (hn : n.Acyclic) :
    keyAndValue entry n = .error p ↔ (Visit.mapEntry n).Offends entry p := by
  have hfails := readMapEntry_failsOnly Failure.acyclic_of_plain hn hn.mergesOnly
  unfold keyAndValue
  unfold readMapEntry at hfails ⊢
  constructor
  · intro h
    cases hrun : (Decode.follow (mapEntryRecord.decode {}) n).run with
    | error failure =>
      rw [hrun] at h hfails
      cases h
      rw [unreadable_of_acyclic n (hfails failure rfl)]
      exact .unreadable hrun
    | ok e =>
      rw [hrun] at h
      rcases e with _ | ⟨_ | key, _ | value⟩ <;> cases h <;> exact .incomplete hrun (by simp)
  · intro h
    cases h with
    | @unreadable _ failure hrun =>
      rw [hrun] at hfails ⊢
      rw [← unreadable_of_acyclic n (hfails failure rfl)]
      rfl
    | @incomplete _ e hrun hnone =>
      rw [hrun]
      rcases e with _ | ⟨_ | key, _ | value⟩ <;> first | rfl | exact absurd rfl (hnone _ _)

section

variable {entry : Nat} {n : Node} {f g : Node → Except Problem Operand}

lemma mapElement_congr (h : ∀ m, n.Contains m → f m = g m) :
    mapElement f entry n = mapElement g entry n := by
  unfold mapElement
  cases hread : keyAndValue entry n with
  | error problem => rfl
  | ok p =>
    obtain ⟨hk, hv⟩ := (keyAndValue_eq_ok_iff.mp hread).contains
    simp only [bind, Except.bind, h p.1 hk, h p.2 hv]

/-- The operand of a shape depends on the builder only inside the node. -/
lemma Shape.Agrees.operand_congr {s : Shape} (hs : s.Agrees entry n)
    (h : ∀ m, n.Contains m → f m = g m) : s.operand f entry = s.operand g entry := by
  cases hs with
  | leaf _ | refused _ | endless _ => rfl
  | elements hs =>
    rw [operand, operand, mapM_congr fun m hm => h m (hs.contains hm)]
  | entries hs =>
    rw [operand, operand, mapM_congr fun m hm => mapElement_congr fun k hk => ?_]
    exact h k (.trans (hs.contains hm) hk)

end

/-- Fuel beyond the height of a node makes no difference. -/
lemma operandWithin_eq {entry fuel fuel' : Nat} {n : Node} (h : height n ≤ fuel)
    (h' : height n ≤ fuel') : operandWithin entry fuel n = operandWithin entry fuel' n := by
  induction fuel generalizing fuel' n with
  | zero => exact absurd (height_pos n) (by omega)
  | succ fuel ih =>
    -- no node has the height zero, so the other fuel is not used up either
    have hpos := height_pos n
    obtain ⟨fuel', rfl⟩ : ∃ k, fuel' = k + 1 := ⟨fuel' - 1, by omega⟩
    rw [operandWithin, operandWithin]
    refine (Shape.agrees_of entry n).operand_congr fun m hm => ?_
    have hlt := height_lt_of_contains hm
    exact ih (by omega) (by omega)

/-- The operand of a node comes from its shape and the operands of its parts. -/
lemma operand_eq (entry : Nat) (n : Node) :
    operand entry n = (Shape.of entry n).operand (operand entry) entry := by
  have hpos := height_pos n
  obtain ⟨fuel, hfuel⟩ : ∃ k, height n = k + 1 := ⟨height n - 1, by omega⟩
  rw [operand, hfuel, operandWithin]
  refine (Shape.agrees_of entry n).operand_congr fun m hm => ?_
  have hlt := height_lt_of_contains hm
  exact operandWithin_eq (by omega) le_rfl

/-- An element is made of an entry exactly when operands are made of its key and of its value. -/
lemma mapElement_eq_ok_iff {entry : Nat} {n : Node} {build : Node → Except Problem Operand}
    {e : Operand × Operand} :
    mapElement build entry n = .ok e ↔
      ∃ k v, HasKeyAndValue n k v ∧ build k = .ok e.1 ∧ build v = .ok e.2 := by
  obtain ⟨o, o'⟩ := e
  unfold mapElement
  rw [bind_eq_ok_iff]
  constructor
  · rintro ⟨⟨k, v⟩, hread, hrest⟩
    obtain ⟨a, ha, hrest⟩ := bind_eq_ok_iff.mp hrest
    obtain ⟨b, hb, hpair⟩ := bind_eq_ok_iff.mp hrest
    cases hpair
    exact ⟨k, v, keyAndValue_eq_ok_iff.mp hread, ha, hb⟩
  · rintro ⟨k, v, hread, ha, hb⟩
    refine ⟨(k, v), keyAndValue_eq_ok_iff.mpr hread, ?_⟩
    exact bind_eq_ok_iff.mpr ⟨o, ha, bind_eq_ok_iff.mpr ⟨o', hb, rfl⟩⟩

/-! ### Accepted nodes -/

/-- Whatever the grammar spells is made. The induction is on the grammar. -/
lemma operand_eq_ok {entry : Nat} {n : Node} {o : Operand} (h : Spells n o) :
    operand entry n = .ok o := by
  induction h with
  | leaf h =>
    rw [operand_eq, Shape.of_eq_leaf h]
    rfl
  | @elements n make items os h hlength _ ih =>
    have hitems : items.mapM (operand entry) = .ok os :=
      mapM_eq_ok_iff.mpr (List.forall₂_iff_zip.mpr ⟨hlength, ih⟩)
    rw [operand_eq, Shape.of_eq_elements h, Shape.operand, hitems]
    rfl
  | @entries n items es key value h hlength hread _ _ ihKey ihValue =>
    have hitems : items.mapM (mapElement (operand entry) entry) = .ok es := by
      refine mapM_eq_ok_iff.mpr (List.forall₂_iff_zip.mpr ⟨hlength, fun {m e} hm => ?_⟩)
      exact mapElement_eq_ok_iff.mpr
        ⟨key m, value m, hread m (List.of_mem_zip hm).1, ihKey hm, ihValue hm⟩
    rw [operand_eq, Shape.of_eq_entries h, Shape.operand, hitems]
    rfl

/-- Nothing else is made. The induction is on what the node contains. -/
lemma spells_of_operand {entry : Nat} {n : Node} {o : Operand} (h : operand entry n = .ok o) :
    Spells n o := by
  induction n using contains_induction generalizing o with
  | step n ih =>
    rw [operand_eq] at h
    have hagrees := Shape.agrees_of entry n
    generalize Shape.of entry n = s at h hagrees
    cases hagrees with
    | leaf hspells =>
      cases h
      exact .leaf hspells
    | refused _ | endless _ => cases h
    | elements hspells =>
      obtain ⟨os, hos, hmake⟩ := bind_eq_ok_iff.mp h
      cases hmake
      obtain ⟨hlength, hzip⟩ := List.forall₂_iff_zip.mp (mapM_eq_ok_iff.mp hos)
      refine .elements hspells hlength fun {m o} hm => ?_
      exact ih _ (hspells.contains (List.of_mem_zip hm).1) (hzip hm)
    | @entries items hspells =>
      obtain ⟨es, hes, hmake⟩ := bind_eq_ok_iff.mp h
      cases hmake
      obtain ⟨hlength, hzip⟩ := List.forall₂_iff_zip.mp (mapM_eq_ok_iff.mp hes)
      have hexists : ∀ m ∈ items, ∃ k v, HasKeyAndValue m k v := by
        intro m hm
        obtain ⟨e, he⟩ := exists_eq_ok_of_mapM hes hm
        obtain ⟨k, v, hread, -, -⟩ := mapElement_eq_ok_iff.mp he
        exact ⟨k, v, hread⟩
      choose! key value hread using hexists
      have hparts : ∀ {m e}, (m, e) ∈ items.zip es →
          Spells (key m) e.1 ∧ Spells (value m) e.2 := by
        intro m e hm
        have hmem := (List.of_mem_zip hm).1
        obtain ⟨k, v, hkv, hk, hv⟩ := mapElement_eq_ok_iff.mp (hzip hm)
        obtain ⟨rfl, rfl⟩ := (hread m hmem).unique hkv
        have hinside := hspells.contains hmem
        obtain ⟨hkey, hvalue⟩ := (hread m hmem).contains
        exact ⟨ih _ (.trans hinside hkey) hk, ih _ (.trans hinside hvalue) hv⟩
      exact .entries hspells hlength hread (fun hm => (hparts hm).1) fun hm => (hparts hm).2

/-- An entry fails by itself, or with the problem of its key, or with that of its value. -/
lemma mapElement_eq_error_iff {entry : Nat} {n : Node} {build : Node → Except Problem Operand}
    {p : Problem} :
    mapElement build entry n = .error p ↔ keyAndValue entry n = .error p ∨
      ∃ k v, HasKeyAndValue n k v ∧
        (build k = .error p ∨ ∃ o, build k = .ok o ∧ build v = .error p) := by
  unfold mapElement
  cases hread : keyAndValue entry n with
  | error p' =>
    have hnone : ∀ k v, ¬ HasKeyAndValue n k v := by
      intro k v hkv
      rw [keyAndValue_eq_ok_iff.mpr hkv] at hread
      cases hread
    simp [hnone, bind, Except.bind]
  | ok pair =>
    obtain ⟨k, v⟩ := pair
    have hkv := keyAndValue_eq_ok_iff.mp hread
    have hparts : ∀ k' v', HasKeyAndValue n k' v' ↔ k' = k ∧ v' = v :=
      fun k' v' => ⟨fun h => h.unique hkv, fun h => h.1 ▸ h.2 ▸ hkv⟩
    cases hk : build k with
    | error p' => simp [hparts, hk, bind, Except.bind]
    | ok o =>
      cases hv : build v with
      | error p' => simp [hparts, hk, hv, bind, Except.bind]
      | ok o' => simp [hparts, hk, hv, bind, Except.bind, pure, Except.pure]

/-! ### The first problem -/

namespace Visit

/-- Making an operand of what is met fails with the problem. -/
def Fails (entry : Nat) (p : Problem) : Visit → Prop
  | operand n => Document.operand entry n = .error p
  | mapEntry n => mapElement (Document.operand entry) entry n = .error p

lemma fits_operand_iff (entry : Nat) {n : Node} :
    (operand n).Fits ↔ ∃ o, Document.operand entry n = .ok o :=
  exists_congr fun _ => ⟨operand_eq_ok, spells_of_operand⟩

/-- An entry fits the grammar exactly when an element is made of it. -/
lemma fits_mapEntry_iff (entry : Nat) {n : Node} :
    (mapEntry n).Fits ↔ ∃ e, mapElement (Document.operand entry) entry n = .ok e := by
  constructor
  · rintro ⟨key, value, k, v, hread, hk, hv⟩
    exact ⟨(k, v), mapElement_eq_ok_iff.mpr ⟨key, value, hread, operand_eq_ok hk, operand_eq_ok hv⟩⟩
  · rintro ⟨⟨k, v⟩, he⟩
    obtain ⟨key, value, hread, hk, hv⟩ := mapElement_eq_ok_iff.mp he
    exact ⟨key, value, k, v, hread, spells_of_operand hk, spells_of_operand hv⟩

lemma HasParts.contains {v w : Visit} {ws : List Visit} (h : v.HasParts ws) (hw : w ∈ ws) :
    v.node.Contains w.node := by
  cases h with
  | leaf _ => cases hw
  | elements h =>
    obtain ⟨m, hm, rfl⟩ := List.mem_map.mp hw
    exact h.contains hm
  | entries h =>
    obtain ⟨m, hm, rfl⟩ := List.mem_map.mp hw
    exact h.contains hm
  | keyAndValue h =>
    rcases List.mem_pair.mp hw with rfl | rfl
    · exact h.contains.1
    · exact h.contains.2

/-- What is met and fails has a first problem: it offends itself, or else one of its parts fails. -/
lemma firstProblem_of_fails {entry : Nat} {n : Node} (hn : n.Acyclic) {p : Problem} :
    ((operand n).Fails entry p → FirstProblem entry (operand n) p) ∧
      ((mapEntry n).Fails entry p → FirstProblem entry (mapEntry n) p) := by
  induction n using contains_induction with
  | step n ih =>
    -- a map literal goes on with entries, and an entry with operands: both are shown together
    refine ⟨fun h => ?_, fun h => ?_⟩
    · rw [Fails, operand_eq] at h
      have hagrees := Shape.agrees_of entry n
      generalize Shape.of entry n = s at h hagrees
      cases hagrees with
      | leaf _ => cases h
      | refused hoffends =>
        cases h
        exact .here hoffends
      | endless hcyclic => exact absurd hn hcyclic
      | elements hspells =>
        obtain ⟨before, m, after, rfl, hbefore, hm⟩ :=
          mapM_eq_error_iff.mp (bind_pure_eq_error_iff.mp h)
        have hparts := HasParts.elements hspells
        have hinside := hspells.contains (m := m) (by simp)
        rw [List.map_append, List.map_cons] at hparts
        refine .within hparts (fun u hu => ?_) ((ih m hinside (hn.of_contains hinside)).1 hm)
        obtain ⟨m', hm', rfl⟩ := List.mem_map.mp hu
        exact (fits_operand_iff entry).mpr (hbefore m' hm')
      | entries hspells =>
        obtain ⟨before, m, after, rfl, hbefore, hm⟩ :=
          mapM_eq_error_iff.mp (bind_pure_eq_error_iff.mp h)
        have hparts := HasParts.entries hspells
        have hinside := hspells.contains (m := m) (by simp)
        rw [List.map_append, List.map_cons] at hparts
        refine .within hparts (fun u hu => ?_) ((ih m hinside (hn.of_contains hinside)).2 hm)
        obtain ⟨m', hm', rfl⟩ := List.mem_map.mp hu
        exact (fits_mapEntry_iff entry).mpr (hbefore m' hm')
    · rcases mapElement_eq_error_iff.mp h with hread | ⟨k, v, hkv, hk | ⟨o, hk, hv⟩⟩
      · exact .here ((keyAndValue_eq_error_iff hn).mp hread)
      · have hinside := hkv.contains.1
        have hfirst := (ih k hinside (hn.of_contains hinside)).1 hk
        have hparts : (mapEntry n).HasParts ([] ++ operand k :: [operand v]) := .keyAndValue hkv
        exact .within hparts (by simp) hfirst
      · have hinside := hkv.contains.2
        have hfirst := (ih v hinside (hn.of_contains hinside)).1 hv
        have hparts : (mapEntry n).HasParts ([operand k] ++ operand v :: []) := .keyAndValue hkv
        refine .within hparts (fun u hu => ?_) hfirst
        rw [List.mem_singleton.mp hu]
        exact (fits_operand_iff entry).mpr ⟨o, hk⟩

end Visit

end CqlWriter.Document
