import Mathlib

/-!
# Results

A computation that may fail is run on the items of a list until one fails. The results are those of
the items in order, or the error of the first item that has one. What a computation with a state
gives when it does not fail is told by a postcondition.
-/

namespace CqlWriter

variable {ε α β : Type}

/-- The error of a result, if it is one. -/
def errorOf : Except ε α → Option ε
  | .error e => some e
  | .ok _ => none

@[simp] lemma errorOf_eq_some_iff {x : Except ε α} {e : ε} : errorOf x = some e ↔ x = .error e := by
  cases x <;> simp [errorOf]

@[simp] lemma errorOf_bind_pure (x : Except ε α) (f : α → β) :
    errorOf (x >>= fun a => pure (f a)) = errorOf x := by
  cases x <;> rfl

/-- A result fails as before when its value is changed. -/
lemma bind_pure_eq_error_iff {x : Except ε α} {f : α → β} {e : ε} :
    (x >>= fun a => pure (f a)) = .error e ↔ x = .error e := by
  cases x <;> simp [bind, Except.bind, pure, Except.pure]

/-- A result that goes on from another one is there if both are. -/
lemma bind_eq_ok_iff {x : Except ε α} {f : α → Except ε β} {b : β} :
    x >>= f = .ok b ↔ ∃ a, x = .ok a ∧ f a = .ok b := by
  cases x with
  | error e => simp [bind, Except.bind]
  | ok a => simp [bind, Except.bind]

lemma exists_eq_ok_of_toOption {x : Except ε α} {f : α → β} {b : β}
    (h : x.toOption.map f = some b) : ∃ a, x = .ok a ∧ f a = b := by
  cases x with
  | error e => cases h
  | ok a => exact ⟨a, rfl, Option.some.inj h⟩

/-- The results of a list are its items' results in order. -/
lemma mapM_eq_ok_iff {f : α → Except ε β} {xs : List α} {ys : List β} :
    xs.mapM f = .ok ys ↔ List.Forall₂ (fun x y => f x = .ok y) xs ys := by
  induction xs generalizing ys with
  | nil =>
    rw [List.mapM_nil, List.forall₂_nil_left_iff]
    constructor
    · rintro ⟨⟩
      rfl
    · rintro rfl
      rfl
  | cons x xs ih =>
    rw [List.mapM_cons, bind_eq_ok_iff, List.forall₂_cons_left_iff]
    constructor
    · rintro ⟨y, hy, hrest⟩
      obtain ⟨ys', hys, hcons⟩ := bind_eq_ok_iff.mp hrest
      cases hcons
      exact ⟨y, ys', hy, ih.mp hys, rfl⟩
    · rintro ⟨y, ys', hy, hys, rfl⟩
      exact ⟨y, hy, bind_eq_ok_iff.mpr ⟨ys', ih.mpr hys, rfl⟩⟩

/-- The error of a list is that of an item, where all items in front have results. -/
lemma mapM_eq_error_iff {f : α → Except ε β} {xs : List α} {e : ε} :
    xs.mapM f = .error e ↔ ∃ before x after, xs = before ++ x :: after ∧
      (∀ y ∈ before, ∃ b, f y = .ok b) ∧ f x = .error e := by
  induction xs with
  | nil => exact iff_of_false (by rintro ⟨⟩) (by simp)
  | cons x xs ih =>
    rw [List.mapM_cons]
    cases hx : f x with
    | error e' =>
      constructor
      · rintro ⟨⟩
        exact ⟨[], x, xs, rfl, by simp, hx⟩
      · rintro ⟨before, y, after, hsplit, hbefore, hy⟩
        cases before with
        | nil =>
          cases hsplit
          rw [hx] at hy
          cases hy
          rfl
        | cons z before =>
          cases hsplit
          obtain ⟨b, hb⟩ := hbefore x (by simp)
          rw [hx] at hb
          cases hb
    | ok b =>
      have hrest : (do let ys ← xs.mapM f; pure (b :: ys)) = .error e ↔ xs.mapM f = .error e :=
        bind_pure_eq_error_iff
      change (do let ys ← xs.mapM f; pure (b :: ys)) = .error e ↔ _
      rw [hrest, ih]
      constructor
      · rintro ⟨before, y, after, rfl, hbefore, hy⟩
        refine ⟨x :: before, y, after, rfl, ?_, hy⟩
        simpa [hx] using hbefore
      · rintro ⟨before, y, after, hsplit, hbefore, hy⟩
        cases before with
        | nil =>
          cases hsplit
          rw [hx] at hy
          cases hy
        | cons z before =>
          cases hsplit
          exact ⟨before, y, after, rfl, fun w hw => hbefore w (by simp [hw]), hy⟩

/-- In lists that are related item by item, every item of the first one is related to some item. -/
lemma exists_of_forall₂ {R : α → β → Prop} {xs : List α} {ys : List β} (h : List.Forall₂ R xs ys)
    {x : α} (hx : x ∈ xs) : ∃ y, R x y := by
  induction h with
  | nil => cases hx
  | @cons x' y xs ys hxy _ ih =>
    rcases List.mem_cons.mp hx with rfl | hx
    · exact ⟨y, hxy⟩
    · exact ih hx

/-- If a list can be mapped, each of its elements can be. -/
lemma exists_eq_ok_of_mapM {f : α → Except ε β} {xs : List α} {ys : List β}
    (h : xs.mapM f = .ok ys) {x : α} (hx : x ∈ xs) : ∃ y, f x = .ok y :=
  exists_of_forall₂ (mapM_eq_ok_iff.mp h) hx

/-- What holds of the second part of every pair in a zipped list holds of the second list. -/
lemma forall_of_zip {xs : List α} {ys : List β} {p : β → Prop} (hlength : xs.length = ys.length)
    (h : ∀ {x y}, (x, y) ∈ xs.zip ys → p y) : ∀ y ∈ ys, p y := by
  intro y hy
  rw [← List.map_snd_zip hlength.ge] at hy
  obtain ⟨e, he, rfl⟩ := List.mem_map.mp hy
  exact h he

/-- What holds of every result of an item holds of all results of a list. -/
lemma forall_of_mapM {f : α → Except ε β} {xs : List α} {ys : List β} {p : β → Prop}
    (h : xs.mapM f = .ok ys) (hp : ∀ x y, f x = .ok y → p y) : ∀ y ∈ ys, p y := by
  obtain ⟨hlength, hzip⟩ := List.forall₂_iff_zip.mp (mapM_eq_ok_iff.mp h)
  exact forall_of_zip hlength fun hm => hp _ _ (hzip hm)

/-- In lists that are related item by item, all items are such as `q` or `p` says at once if related
items are. -/
lemma forall_iff_of_forall₂ {R : α → β → Prop} {q : α → Prop} {p : β → Prop} {xs : List α}
    {ys : List β} (h : List.Forall₂ R xs ys) (hR : ∀ x y, R x y → (p y ↔ q x)) :
    (∀ y ∈ ys, p y) ↔ ∀ x ∈ xs, q x := by
  induction h with
  | nil => simp
  | cons hxy _ ih => simp [hR _ _ hxy, ih]

/-- A map depends on the function only through the elements. -/
lemma mapM_congr {m : Type → Type} [Monad m] [LawfulMonad m] {f g : α → m β} {xs : List α}
    (h : ∀ x ∈ xs, f x = g x) : xs.mapM f = xs.mapM g := by
  induction xs with
  | nil => rfl
  | cons x xs ih =>
    rw [List.mapM_cons, List.mapM_cons, h x (by simp), ih fun y hy => h y (by simp [hy])]

/-- Where every item has a result, the results of a list are known. -/
lemma mapM_eq_ok_map {f : α → Except ε β} {g : α → β} {xs : List α}
    (h : ∀ x ∈ xs, f x = .ok (g x)) : xs.mapM f = .ok (xs.map g) := by
  rw [mapM_congr h]
  exact List.mapM_pure

/-! ### Errors of one kind -/

/-- Every error that a result can be satisfies `P`. -/
def FailsOnly (x : Except ε α) (P : ε → Prop) : Prop :=
  ∀ e, x = .error e → P e

namespace FailsOnly

variable {P : ε → Prop}

lemma ok (a : α) : FailsOnly (.ok a : Except ε α) P := by
  intro e h
  cases h

lemma error {e : ε} (h : P e) : FailsOnly (.error e : Except ε α) P := by
  intro e' he'
  cases he'
  exact h

lemma mono {Q : ε → Prop} {x : Except ε α} (hx : FailsOnly x P) (h : ∀ e, P e → Q e) :
    FailsOnly x Q :=
  fun e he => h e (hx e he)

lemma bind {x : Except ε α} {f : α → Except ε β} (hx : FailsOnly x P)
    (hf : ∀ a, FailsOnly (f a) P) : FailsOnly (x >>= f) P := by
  cases x with
  | error e => exact error (hx e rfl)
  | ok a => exact hf a

/-- A list fails with what its elements fail with. -/
lemma mapM {f : α → Except ε β} {xs : List α} (hf : ∀ x ∈ xs, FailsOnly (f x) P) :
    FailsOnly (xs.mapM f) P := by
  induction xs with
  | nil => exact ok []
  | cons x xs ih =>
    rw [List.mapM_cons]
    have hrest := ih fun y hy => hf y (by simp [hy])
    exact (hf x (by simp)).bind fun y => hrest.bind fun ys => ok (y :: ys)

end FailsOnly

/-! ### Computations with a state -/

variable {σ : Type}

/-- Every error that a computation ends with satisfies `P`, whatever the state is before. -/
def EndsOnly (m : StateT σ (Except ε) α) (P : ε → Prop) : Prop :=
  ∀ s, FailsOnly (m.run s) P

namespace EndsOnly

variable {m : StateT σ (Except ε) α} {P : ε → Prop}

lemma pure (a : α) : EndsOnly (Pure.pure a : StateT σ (Except ε) α) P :=
  fun _ => .ok _

lemma throw {e : ε} (h : P e) : EndsOnly (throw e : StateT σ (Except ε) α) P :=
  fun _ => .error h

lemma get : EndsOnly (get : StateT σ (Except ε) σ) P :=
  fun _ => .ok _

lemma modify (f : σ → σ) : EndsOnly (modify f : StateT σ (Except ε) Unit) P :=
  fun _ => .ok _

lemma bind {f : α → StateT σ (Except ε) β} (hm : EndsOnly m P) (hf : ∀ a, EndsOnly (f a) P) :
    EndsOnly (m >>= f) P := by
  intro s
  rw [StateT.run_bind]
  exact (hm s).bind fun p => hf p.1 p.2

end EndsOnly

/-- Every value that a computation gives satisfies `post`, whatever the state is before. -/
def Yields (m : StateT σ (Except ε) α) (post : α → Prop) : Prop :=
  ∀ s a s', m.run s = .ok (a, s') → post a

namespace Yields

variable {m : StateT σ (Except ε) α} {P : α → Prop} {Q : β → Prop}

lemma pure {a : α} (h : P a) : Yields (Pure.pure a : StateT σ (Except ε) α) P := by
  intro s a' s' hrun
  cases hrun
  exact h

lemma throw (e : ε) : Yields (throw e : StateT σ (Except ε) α) P := by
  intro s a s' hrun
  cases hrun

lemma bind {f : α → StateT σ (Except ε) β} (hm : Yields m P) (hf : ∀ a, P a → Yields (f a) Q) :
    Yields (m >>= f) Q := by
  intro s b s'' hrun
  rw [StateT.run_bind] at hrun
  obtain ⟨p, hfirst, hrest⟩ := bind_eq_ok_iff.mp hrun
  exact hf p.1 (hm s p.1 p.2 hfirst) p.2 b s'' hrest

/-- What a computation gives after another one whose value does not matter. -/
lemma after {f : α → StateT σ (Except ε) β} (hf : ∀ a, Yields (f a) Q) : Yields (m >>= f) Q :=
  bind (P := fun _ => True) (fun _ _ _ _ => True.intro) fun a _ => hf a

end Yields

end CqlWriter
