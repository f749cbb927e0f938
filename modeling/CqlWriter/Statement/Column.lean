import CqlWriter.Statement.Identifier

/-!
# Column definitions

The type of a column and the definition of a column that is added to a table.
-/

namespace CqlWriter

/-- A column type such as `int`, `list<text>` or `frozen<map<int, text>>`. -/
structure DataType where
  name : Text
  params : List Text := []
  frozen : Bool := false
  deriving DecidableEq, Repr

namespace DataType

/-- The CQL text of a data type. -/
def cql (d : DataType) : Text :=
  let plain := if d.params.isEmpty then d.name else d.name ++ "<" ++ Text.join ", " d.params ++ ">"
  if d.frozen then "frozen<" ++ plain ++ ">" else plain

/-- A description of a data type for logs. -/
def describe (d : DataType) : Text :=
  "DataType(" ++ d.cql ++ ")"

end DataType

/-- A column that is added to a table. -/
structure ColumnDefinition where
  name : Identifier
  type : DataType
  isStatic : Bool := false
  primaryKey : Bool := false
  deriving DecidableEq, Repr

namespace ColumnDefinition

/-- The CQL text of a column definition. -/
def cql (c : ColumnDefinition) : Text :=
  c.name.cql ++ " " ++ c.type.cql ++ (if c.isStatic then " STATIC" else "")
    ++ (if c.primaryKey then " PRIMARY KEY" else "")

/-- A description of a column definition for logs. -/
def describe (c : ColumnDefinition) : Text :=
  "ColumnDefinition(" ++ c.name.cql ++ " " ++ c.type.cql ++ ")"

end ColumnDefinition

end CqlWriter
