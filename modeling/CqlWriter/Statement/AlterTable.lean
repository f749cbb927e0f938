import CqlWriter.Statement.Column
import CqlWriter.Statement.TableName

/-!
# ALTER TABLE

A statement that applies one alteration to a table: adding, dropping or renaming columns, dropping
compact storage, or setting table options.
-/

namespace CqlWriter

/-- A column of a clustering order. -/
structure OrderColumn where
  name : Identifier
  descending : Bool := false
  deriving DecidableEq, Repr

/-- The CQL text of a column of a clustering order. -/
def OrderColumn.cql (c : OrderColumn) : Text :=
  c.name.cql ++ (if c.descending then " DESC" else " ASC")

/-- A table option. The value of a property and of an `ID` is written as it is. -/
inductive WithItem where
  | hole
  | property (name value : Text)
  | clusteringOrder (columns : List OrderColumn)
  | id (value : Text)
  | compactStorage
  deriving DecidableEq, Repr

namespace WithItem

/-- The CQL text of a table option. -/
def cql : WithItem → Text
  | hole => ""
  | property name value => name ++ " = " ++ value
  | clusteringOrder columns =>
    "CLUSTERING ORDER BY (" ++ Text.join ", " (columns.map OrderColumn.cql) ++ ")"
  | id value => "ID = " ++ value
  | compactStorage => "COMPACT STORAGE"

/-- A description of a table option for logs. -/
def describe : WithItem → Text
  | hole => "%!s(<nil>)"
  | property name _ => "Property(" ++ name ++ ")"
  | clusteringOrder columns => "ClusteringOrder[" ++ Text.ofNat columns.length ++ "]"
  | id value => "IDItem(" ++ value ++ ")"
  | compactStorage => "CompactStorage"

end WithItem

/-- What an ALTER TABLE statement does to its table. -/
inductive Alteration where
  | hole
  | add (columns : List ColumnDefinition)
  | drop (columns : List Identifier)
  | dropCompactStorage
  | rename (source target : Identifier)
  | options (items : List WithItem)
  deriving DecidableEq, Repr

namespace Alteration

/-- The CQL text of an alteration. -/
def cql : Alteration → Text
  | hole => ""
  | add columns => "ADD " ++ Text.join ", " (columns.map ColumnDefinition.cql)
  | drop columns => "DROP " ++ Text.join ", " (columns.map Identifier.cql)
  | dropCompactStorage => "DROP COMPACT STORAGE"
  | rename source target => "RENAME " ++ source.cql ++ " TO " ++ target.cql
  | options items => "WITH " ++ Text.join " AND " (items.map WithItem.cql)

/-- A description of an alteration for logs. -/
def describe : Alteration → Text
  | hole => "%!s(<nil>)"
  | add columns => "Add[" ++ Text.ofNat columns.length ++ "]"
  | drop columns => "DropColumns[" ++ Text.ofNat columns.length ++ "]"
  | dropCompactStorage => "DropCompactStorage"
  | rename source target => "Rename(" ++ source.cql ++ ", " ++ target.cql ++ ")"
  | options items => "With[" ++ Text.ofNat items.length ++ "]"

end Alteration

/-- An ALTER TABLE statement. -/
structure AlterTable where
  table : TableName
  alteration : Alteration
  deriving DecidableEq, Repr

namespace AlterTable

/-- The CQL text of an ALTER TABLE statement. -/
def cql (a : AlterTable) : Text :=
  "ALTER TABLE " ++ a.table.cql ++ " " ++ a.alteration.cql

/-- A description of an ALTER TABLE statement for logs. -/
def describe (a : AlterTable) : Text :=
  "AlterTable(" ++ a.table.cql ++ ", " ++ a.alteration.describe ++ ")"

end AlterTable

end CqlWriter
