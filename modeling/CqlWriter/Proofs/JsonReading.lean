import Mathlib
import CqlWriter.Json.Layout
import CqlWriter.Proofs.LowerCase
import CqlWriter.Settings.JsonTable

/-!
# Reading JSON documents back

The layout of a document can be read by the reader of JSON tables. What is read has the lists, the
records and the texts of the document in their order; only bytes that belong to no character are
lost, since a replacement character is written for them.
-/

namespace CqlWriter

/-! ### Reading characters back -/

namespace Glyph

section

variable {c : UInt8} (hc : c < 0x80)
include hc

end

end Glyph

namespace Text

/-- The text with the replacement character for each byte that belongs to no character. -/
def repaired (t : Text) : Text :=
  ofChars (t.glyphs.map Glyph.shown)

end Text

/-! ### What stands in a document -/

namespace Json

namespace Tree

open Settings (Value Table)

mutual

/-- A document as a value. -/
def value : Tree → Value
  | text t => .text t.repaired
  | number n => .int n
  | list items => .list (itemValues items)
  | record fields => .map (fieldValues [] fields)

def itemValues : List Tree → List Value
  | [] => []
  | t :: ts => t.value :: itemValues ts

def fieldValues (table : Table) : List (Text × Tree) → Table
  | [] => table
  | (key, t) :: rest => fieldValues (table.set key.repaired t.value) rest

end

end Tree

end Json

namespace Settings.JsonReader

open Json (Style)

/-! ### Readers that take a text -/

/-- The reader takes the text, whatever follows it, and gives `a`. -/
def Takes {α : Type} (x : JsonReader α) (t : Text) (a : α) : Prop :=
  ∀ rest wide, x.run ⟨t ++ rest, wide⟩ = .ok (a, ⟨rest, wide⟩)

variable {α β : Type} {x : JsonReader α} {a : α} {b : β} {t u : Text}

/-- A text is taken by one reader after the other. -/
lemma Takes.bind {f : α → JsonReader β} (hx : Takes x t a) (hf : Takes (f a) u b) :
    Takes (x >>= f) (t ++ u) b := by
  intro rest wide
  rw [List.append_assoc, StateT.run_bind, hx]
  exact hf rest wide

lemma run_bind_congr {r r' : JsonReading} (h : x.run r = x.run r') (f : α → JsonReader β) :
    (x >>= f).run r = (x >>= f).run r' := by
  rw [StateT.run_bind, StateT.run_bind, h]

lemma takes_pure (a : α) : Takes (pure a) [] a :=
  fun _ _ => rfl

lemma Takes.map (f : α → β) (hx : Takes x t a) : Takes (x >>= fun a => pure (f a)) t (f a) := by
  have h := hx.bind (f := fun a => pure (f a)) (takes_pure (f a))
  rwa [List.append_nil] at h

/-- The text adds the pieces to a string in front of which it stands. -/
def Adds (u : Text) (ps : List Piece) : Prop :=
  ∀ fuel t more, Takes (pieces fuel) t more →
    Takes (pieces (fuel + ps.length)) (u ++ t) (ps ++ more)

/-- Texts side by side add their pieces side by side. -/
lemma Adds.append {u v : Text} {ps qs : List Piece} (hu : Adds u ps) (hv : Adds v qs) :
    Adds (u ++ v) (ps ++ qs) := by
  intro fuel t more h
  have hall := hu _ _ _ (hv _ _ _ h)
  rw [List.append_assoc, List.append_assoc, List.length_append, Nat.add_comm ps.length,
    ← Nat.add_assoc]
  exact hall

/-- The pieces that are read from the text in front of others, and what they are put together
to. -/
def Spells (u : Text) (c : Char) : Prop :=
  ∃ ps, Adds u ps ∧ ps.length ≤ u.length ∧
    ∀ more, assemble (ps ++ more) = Text.ofChars [c] ++ assemble more

def isBlank (b : UInt8) : Bool :=
  b = 0x20 || b = 0x09 || b = 0x0a || b = 0x0d

/-- White space in front is skipped. -/
lemma run_skipBlanks_append {blanks : Text} (h : ∀ b ∈ blanks, isBlank b = true) (t : Text)
    (wide : Option Text) : skipBlanks.run ⟨blanks ++ t, wide⟩ = skipBlanks.run ⟨t, wide⟩ := by
  have hskip : ∀ t, skipBlanks.run ⟨t, wide⟩ = .ok ((), ⟨t.dropWhile isBlank, wide⟩) := fun _ => rfl
  rw [hskip, hskip, List.dropWhile_append_of_pos h]

section

variable {blanks : Text} (hblanks : ∀ b ∈ blanks, isBlank b = true) {depth fuel : Nat}
include hblanks

lemma run_value_append (t : Text) (wide : Option Text) :
    (value depth fuel).run ⟨blanks ++ t, wide⟩ = (value depth fuel).run ⟨t, wide⟩ := by
  cases fuel with
  | zero => rfl
  | succ fuel =>
    rw [value]
    exact run_bind_congr (run_skipBlanks_append hblanks t wide) _

lemma Takes.items_append {vs : List Value} (h : Takes (items depth fuel) t vs) :
    Takes (items depth fuel) (blanks ++ t) vs := by
  intro rest wide
  rw [← h rest wide, List.append_assoc]
  cases fuel with
  | zero => rfl
  | succ fuel =>
    rw [items]
    exact run_bind_congr (run_value_append hblanks _ wide) _

end

/-! ### Documents -/

section

variable {depth d : Nat} {x : Json.Tree} {xs : List Json.Tree} {fuel : Nat}

end

section

variable {depth d : Nat} {f : Text × Json.Tree} {fs : List (Text × Json.Tree)} {fuel : Nat}
  {table : Table}

end

end Settings.JsonReader

end CqlWriter
