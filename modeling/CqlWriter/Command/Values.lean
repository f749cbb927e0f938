import CqlWriter.Command.Session
import CqlWriter.Json.Layout
import CqlWriter.Statement.ValueMap

/-!
# Values of inserts

The values that insert statements give to columns are printed, in lines of text or as a JSON
document.
-/

namespace CqlWriter.Command

/-- The values of an insert statement: its document, its number there, and its columns with their
values. -/
structure InsertReport where
  file : Text
  number : Nat
  insert : Insert

namespace InsertReport

/-- The columns with their values, in order. -/
def values (r : InsertReport) : List (Text × Text) :=
  r.insert.valueMap.entries.map fun e => (e.column.cql, e.value.cql)

/-- Whether columns are given without values for them. -/
def lacksValues (r : InsertReport) : Bool :=
  r.insert.valueMap.size = 0 && !r.insert.columns.isEmpty

/-- The record about columns without values. -/
def lackRecord (r : InsertReport) : Log.Record where
  level := .warn
  message := "insert has no column values"
  attributes := [("file", .text r.file), ("statement", .number r.number),
    ("values", .text r.insert.values.describe)]

/-- A column and its value on a line. -/
def valueLine (v : Text × Text) : Text :=
  "  " ++ v.1 ++ " = " ++ v.2 ++ "\n"

/-- A report as text. -/
def text (r : InsertReport) : Text :=
  r.file ++ "#" ++ Text.ofNat r.number ++ " " ++ r.insert.table.cql ++ "\n"
    ++ r.values.flatMap valueLine

/-- A report as JSON. -/
def tree (r : InsertReport) : Json.Tree :=
  .record [("file", .text r.file), ("statement", .number r.number),
    ("table", .text r.insert.table.cql),
    ("values", .list (r.values.map fun v => .record [("column", .text v.1), ("value", .text v.2)]))]

end InsertReport

/-- The reports about statements of a document, which are numbered from `n`. -/
def reportsFrom (file : Text) : (n : Nat) → List Statement → List InsertReport
  | _, [] => []
  | n, .insert i :: rest => ⟨file, n, i⟩ :: reportsFrom file (n + 1) rest
  | n, _ :: rest => reportsFrom file (n + 1) rest

/-- The reports about documents. -/
def reports (documents : List Loaded) : List InsertReport :=
  documents.flatMap fun d => reportsFrom d.file 0 d.statements

/-- Reports in a form. -/
def reported (found : List InsertReport) : OutputFormat → Text
  | .text => found.flatMap InsertReport.text
  | .json => (Json.Tree.list (found.map InsertReport.tree)).layout

/-- Print the values of the insert statements of documents. -/
def printValues (files : List Text) : Job Unit := do
  let found := reports (← loadDocuments files)
  (found.filter InsertReport.lacksValues).forM fun r => Job.log r.lackRecord
  Job.print (reported found (← chosenFormat))

end CqlWriter.Command
