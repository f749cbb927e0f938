import CqlWriter.Statement.AlterTable
import CqlWriter.Statement.CreateIndex
import CqlWriter.Statement.Insert

/-!
# Statements

The three kinds of statement, and the text of a list of statements.
-/

namespace CqlWriter

/-- A top-level statement. -/
inductive Statement where
  | alterTable (a : AlterTable)
  | createIndex (c : CreateIndex)
  | insert (i : Insert)
  deriving Repr

namespace Statement

/-- The leading words that name the kind of a statement. -/
def kind : Statement → Text
  | alterTable _ => "ALTER TABLE"
  | createIndex _ => "CREATE INDEX"
  | insert _ => "INSERT"

/-- The CQL text of a statement, without a terminator. -/
def cql : Statement → Text
  | alterTable a => a.cql
  | createIndex c => c.cql
  | insert i => i.cql

/-- A description of a statement for logs. -/
def describe : Statement → Text
  | alterTable a => a.describe
  | createIndex c => c.describe
  | insert i => i.describe

/-- The text of a list of statements: each ends with a semicolon, and a newline separates them. -/
def script (statements : List Statement) : Text :=
  Text.join "\n" (statements.map fun s => s.cql ++ ";")

end Statement

end CqlWriter
