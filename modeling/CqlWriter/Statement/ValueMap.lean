import CqlWriter.Statement.Insert

/-!
# Value maps

The operand that an INSERT statement assigns to each of its columns, ordered by column. A column
that is named twice keeps its first spelling and its last operand.
-/

namespace CqlWriter

/-- A column with the operand inserted into it. -/
structure ColumnValue where
  column : Identifier
  value : Operand
  deriving Repr

/-- The columns of an insertion with their operands, in increasing order of the columns. -/
structure ValueMap where
  entries : List ColumnValue := []
  deriving Repr

namespace ValueMap

/-- The assignments made so far: the entries in the order in which their columns were first named,
and the place of each among them under the normalized spelling of its column. -/
structure Assigned where
  index : List (Identifier × Nat) := []
  entries : List ColumnValue := []
  deriving Repr

/-- Assign an operand to a column. A column that was named before keeps its place and spelling. -/
def Assigned.assign (s : Assigned) (column : Identifier) (value : Operand) : Assigned :=
  match s.index.lookup column.normalized with
  | some n => { s with entries := s.entries.modify n fun e => ⟨e.column, value⟩ }
  | none => ⟨(column.normalized, s.entries.length) :: s.index, s.entries ++ [⟨column, value⟩]⟩

/-- The operands assigned to the columns from left to right. -/
def assignAll (pairs : List (Identifier × Operand)) : Assigned :=
  pairs.foldl (fun s (c, v) => s.assign c v) {}

/-- Whether an entry may stand in front of another. -/
def inOrder (a b : ColumnValue) : Bool :=
  a.column.compare b.column != .gt

/-- The map obtained by assigning the operands to the columns from left to right. -/
def ofAssignments (pairs : List (Identifier × Operand)) : ValueMap :=
  ⟨(assignAll pairs).entries.mergeSort inOrder⟩

/-- The number of columns. -/
def size (m : ValueMap) : Nat :=
  m.entries.length

/-- The columns in order. -/
def columns (m : ValueMap) : List Identifier :=
  m.entries.map (·.column)

/-- The first place between `low` and `high` at which the column is not below the given one, found
by halving. -/
def lowerBound (entries : List ColumnValue) (column : Identifier) (low high : Nat) : Nat :=
  if low < high then
    let middle := (low + high) / 2
    if entries[middle]?.any (·.column.compare column == .lt) then
      lowerBound entries column (middle + 1) high
    else lowerBound entries column low middle
  else low
termination_by high - low

/-- The operand assigned to a column. -/
def get? (m : ValueMap) (column : Identifier) : Option Operand :=
  (m.entries[lowerBound m.entries column 0 m.size]?.filter (·.column.same column)).map (·.value)

/-- The entries up to and including the first on which `more` answers false. The answer may depend
on how many entries came before. -/
def rangeFrom (more : Nat → ColumnValue → Bool) : Nat → List ColumnValue → List ColumnValue
  | _, [] => []
  | n, e :: es => e :: if more n e then rangeFrom more (n + 1) es else []

/-- The entries that a visit meets when it stops after the first on which `more` answers false. -/
def range (more : Nat → ColumnValue → Bool) (m : ValueMap) : List ColumnValue :=
  rangeFrom more 0 m.entries

end ValueMap

/-- The operands of an INSERT statement by column. A JSON row, and a row with more or fewer operands
than columns, assigns nothing. -/
def Insert.valueMap (i : Insert) : ValueMap :=
  match i.values with
  | .operands values =>
    if values.length = i.columns.length then .ofAssignments (i.columns.zip values) else {}
  | _ => {}

end CqlWriter
