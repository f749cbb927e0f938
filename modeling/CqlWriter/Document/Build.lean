import CqlWriter.Document.Entry
import CqlWriter.Document.Operand
import CqlWriter.Statement.Basic

/-!
# Statements of a document

An entry of a document is checked and made a statement. All entries of a document have to be right;
otherwise the first that is not tells the problem.
-/

namespace CqlWriter.Document

/-! ### ALTER TABLE -/

/-- The definition of a column to be added. -/
def ColumnEntry.build (entry : Nat) (c : ColumnEntry) : Except Problem ColumnDefinition :=
  if c.name.isEmpty || c.type.isEmpty then .error (.missing entry "add column" "name and type")
  else .ok ⟨.ofText c.name, ⟨c.type, c.params, c.frozen⟩, c.isStatic, c.primaryKey⟩

/-- The options that an entry gives. -/
def WithEntry.items (w : WithEntry) : List WithItem :=
  (w.property.map fun p => WithItem.property p.name p.value).toList
  ++ (w.clusteringOrder.map fun os =>
      WithItem.clusteringOrder (os.map fun o => ⟨.ofText o.column, o.descending⟩)).toList
  ++ (w.id.map WithItem.id).toList
  ++ (if w.compactStorage then [.compactStorage] else [])

/-- The one option that an entry gives. -/
def WithEntry.build (entry : Nat) (w : WithEntry) : Except Problem WithItem :=
  match w.items with
  | [item] => .ok item
  | _ => .error (.missing entry "with item"
      "exactly one of property, clustering_order, id, compact_storage")

/-- The renaming of a column. -/
def RenameEntry.build (entry : Nat) (r : RenameEntry) : Except Problem Alteration :=
  if r.source.isEmpty || r.target.isEmpty then .error (.missing entry "rename" "from and to")
  else .ok (.rename (.ofText r.source) (.ofText r.target))

/-- Make a value that may be left out into a list of at most one. -/
def given (value : Option α) (build : α → Except Problem β) : Except Problem (List β) :=
  match value with
  | some a => do pure [← build a]
  | none => .ok []

/-- The alterations that an entry gives. -/
def AlterTableEntry.alterations (entry : Nat) (a : AlterTableEntry) :
    Except Problem (List Alteration) := do
  let added ← given a.add fun cs => do pure (.add (← cs.mapM (·.build entry)))
  let dropped ← given a.drop fun names => .ok (.drop (names.map Identifier.ofText))
  let compact : List Alteration := if a.dropCompactStorage then [.dropCompactStorage] else []
  let renamed ← given a.rename (·.build entry)
  let options ← given a.options fun ws => do pure (.options (← ws.mapM (·.build entry)))
  pure (added ++ dropped ++ compact ++ renamed ++ options)

/-- The ALTER TABLE statement of an entry. -/
def AlterTableEntry.build (entry : Nat) (a : AlterTableEntry) : Except Problem AlterTable := do
  if a.table.isEmpty then throw (.missing entry "alter_table" "table")
  match ← a.alterations entry with
  | [alteration] => pure ⟨.ofText a.table, alteration⟩
  | _ => throw (.missing entry "alter_table"
      "exactly one of add, drop, drop_compact_storage, rename, with")

/-! ### CREATE INDEX -/

/-- The ways to index a column, by name. -/
def indexKinds : List (Text × IndexKind) :=
  [("column", .values), ("keys", .keys), ("entries", .entries), ("full", .full)]

/-- The CREATE INDEX statement of an entry. -/
def CreateIndexEntry.build (entry : Nat) (c : CreateIndexEntry) : Except Problem CreateIndex := do
  if c.table.isEmpty then throw (.missing entry "create_index" "table")
  if c.column.name.isEmpty then throw (.missing entry "create_index" "column")
  match indexKinds.lookup c.column.kind.lower with
  | none => throw (.unknown entry "index column" c.column.kind)
  | some kind =>
    pure {
      ifNotExists := c.ifNotExists
      name := if c.name.isEmpty then none else some (.ofText c.name)
      table := .ofText c.table
      target := .column kind (.ofText c.column.name) }

/-! ### INSERT -/

/-- The kinds of batches, by name; a batch is logged if no kind is named. -/
def batchKinds : List (Text × BatchKind) :=
  [("", .logged), ("logged", .logged), ("unlogged", .unlogged), ("counter", .counter)]

/-- The batch that an entry opens. -/
def BatchEntry.build (entry : Nat) (b : BatchEntry) : Except Problem Batch :=
  match batchKinds.lookup b.kind.lower with
  | some kind => .ok ⟨kind, b.timestamp⟩
  | none => .error (.unknown entry "batch" b.kind)

/-- The row that an entry gives, as operands or as JSON but not both. -/
def InsertEntry.row (entry : Nat) (i : InsertEntry) : Except Problem InsertValues :=
  match i.values, i.json with
  | some _, some _ => .error (.unknown entry "insert values" "values+json")
  | none, some text => .ok (.json text)
  | some nodes, none => do pure (.operands (← nodes.mapM (operand entry)))
  | none, none => .error (.missing entry "insert" "values or json")

/-- The INSERT statement of an entry. -/
def InsertEntry.build (entry : Nat) (i : InsertEntry) : Except Problem Insert := do
  if i.table.isEmpty then throw (.missing entry "insert" "table")
  let values ← i.row entry
  let batch ← i.batch.mapM (·.build entry)
  pure {
    batch
    table := .ofText i.table
    columns := i.columns.map Identifier.ofText
    values
    usage := if i.ttl.isSome || i.timestamp.isSome then some ⟨i.ttl, i.timestamp⟩ else none
    ifNotExists := i.ifNotExists }

/-! ### Statements -/

/-- The kinds of statement that an entry gives. -/
def StatementEntry.kinds (s : StatementEntry) : List Text :=
  let all : List (Bool × Text) := [(s.alterTable.isSome, "alter_table"),
    (s.createIndex.isSome, "create_index"), (s.insert.isSome, "insert")]
  (all.filter (·.1)).map (·.2)

/-- The statement of an entry. -/
def StatementEntry.build (entry : Nat) (s : StatementEntry) : Except Problem Statement :=
  match s.alterTable, s.createIndex, s.insert with
  | none, none, none =>
    .error (.missing entry "statement" "one of alter_table, create_index, insert")
  | some a, none, none => do pure (.alterTable (← a.build entry))
  | none, some c, none => do pure (.createIndex (← c.build entry))
  | none, none, some i => do pure (.insert (← i.build entry))
  | _, _, _ => .error (.unknown entry "statement" (Text.join "+" s.kinds))

/-- The statements of entries that are numbered from `entry` on. -/
def buildFrom (entry : Nat) : List StatementEntry → Except Problem (List Statement)
  | [] => .ok []
  | s :: rest => do
    let statement ← s.build entry
    pure (statement :: (← buildFrom (entry + 1) rest))

/-- The statements of a document, in its order. -/
def parse (bytes : Text) : Except Problem (List Statement) :=
  match readEntries bytes with
  | .error failure => .error (.undecodable failure)
  | .ok entries => buildFrom 0 entries

end CqlWriter.Document
