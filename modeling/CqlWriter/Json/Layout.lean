import CqlWriter.Json.Quoted

/-!
# JSON documents

A document is laid out over lines: each item of a list and each field of a record stands on a line
of its own, two blanks further in than what it is a part of. What is empty takes no lines.
-/

namespace CqlWriter.Json

/-- A JSON document. The fields of a record are in order. -/
inductive Tree where
  | text (t : Text)
  | number (n : Int)
  | list (items : List Tree)
  | record (fields : List (Text × Tree))
  deriving Inhabited, Repr

/-- The start of a line at a depth. -/
def newLine (depth : Nat) : Text :=
  Text.byte '\n' :: List.replicate (2 * depth) (Text.byte ' ')

/-- Parts between brackets, each on a line of its own, at a depth. -/
def bracketed (opening closing : Text) (depth : Nat) (parts : List Text) : Text :=
  if parts.isEmpty then opening ++ closing
  else
    opening ++ Text.join "," (parts.map (newLine (depth + 1) ++ ·)) ++ newLine depth ++ closing

namespace Tree

mutual

/-- The layout of a document that is a part at a depth. -/
def layoutAt (depth : Nat) : Tree → Text
  | text t => Style.document.quoted t
  | number n => Text.ofInt n
  | list items => bracketed "[" "]" depth (layoutItems (depth + 1) items)
  | record fields => bracketed "\x7b" "\x7d" depth (layoutFields (depth + 1) fields)

/-- The layouts of the items of a list. -/
def layoutItems (depth : Nat) : List Tree → List Text
  | [] => []
  | item :: rest => layoutAt depth item :: layoutItems depth rest

/-- The layouts of the fields of a record. -/
def layoutFields (depth : Nat) : List (Text × Tree) → List Text
  | [] => []
  | (key, value) :: rest =>
    (Style.document.quoted key ++ ": " ++ layoutAt depth value) :: layoutFields depth rest

end

/-- The layout of a whole document, which ends a line. -/
def layout (t : Tree) : Text :=
  t.layoutAt 0 ++ "\n"

end Tree

end CqlWriter.Json
