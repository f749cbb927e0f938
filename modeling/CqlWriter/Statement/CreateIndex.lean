import CqlWriter.Statement.TableName

/-!
# CREATE INDEX

A statement that creates a secondary index on one column of a table.
-/

namespace CqlWriter

/-- How a column is indexed: by its values, by the keys or the entries of a map, or as a whole. -/
inductive IndexKind where
  | values
  | keys
  | entries
  | full
  deriving DecidableEq, Repr

namespace IndexKind

/-- A word for the kind in descriptions. -/
def name : IndexKind → Text
  | values => "Column"
  | keys => "Keys"
  | entries => "Entries"
  | full => "Full"

/-- The CQL text of a column indexed in this way. -/
def apply : IndexKind → Text → Text
  | values, column => column
  | keys, column => "KEYS( " ++ column ++ " )"
  | entries, column => "ENTRIES( " ++ column ++ " )"
  | full, column => "FULL( " ++ column ++ " )"

end IndexKind

/-- The indexed column and how it is indexed, or a hole. -/
inductive IndexTarget where
  | hole
  | column (kind : IndexKind) (name : Identifier)
  deriving DecidableEq, Repr

namespace IndexTarget

/-- The indexed column. -/
def column? : IndexTarget → Option Identifier
  | hole => none
  | column _ name => some name

/-- The CQL text of an index target. -/
def cql : IndexTarget → Text
  | hole => ""
  | column kind name => kind.apply name.cql

/-- A description of an index target for logs. -/
def describe : IndexTarget → Text
  | hole => "%!s(<nil>)"
  | column kind name => kind.name ++ "(" ++ name.cql ++ ")"

end IndexTarget

/-- A CREATE INDEX statement. Without a name the server chooses one. -/
structure CreateIndex where
  ifNotExists : Bool := false
  name : Option Identifier := none
  table : TableName
  target : IndexTarget
  deriving DecidableEq, Repr

namespace CreateIndex

/-- The CQL text of a CREATE INDEX statement. -/
def cql (c : CreateIndex) : Text :=
  "CREATE INDEX " ++ (if c.ifNotExists then "IF NOT EXISTS " else "")
    ++ (match c.name with
      | some name => name.cql ++ " "
      | none => "")
    ++ "ON " ++ c.table.cql ++ "( " ++ c.target.cql ++ " )"

/-- A description of a CREATE INDEX statement for logs. -/
def describe (c : CreateIndex) : Text :=
  "CreateIndex(" ++ (match c.name with
    | some name => name.cql
    | none => "<default>")
    ++ " on " ++ c.table.cql ++ ")"

end CreateIndex

end CqlWriter
