import CqlWriter.Yaml.Decode

/-!
# Entries of a statement document

What a document says about each statement, before it is checked: every field may be missing.
-/

namespace CqlWriter.Document

open Yaml

/-- A column to be added. -/
structure ColumnEntry where
  name : Text := []
  type : Text := []
  params : List Text := []
  frozen : Bool := false
  isStatic : Bool := false
  primaryKey : Bool := false
  deriving DecidableEq, Repr

/-- A column to be renamed. -/
structure RenameEntry where
  source : Text := []
  target : Text := []
  deriving DecidableEq, Repr

/-- A table property. -/
structure PropertyEntry where
  name : Text := []
  value : Text := []
  deriving DecidableEq, Repr

/-- A column of a clustering order. -/
structure OrderEntry where
  column : Text := []
  descending : Bool := false
  deriving DecidableEq, Repr

/-- A table option, of which exactly one kind is to be given. -/
structure WithEntry where
  property : Option PropertyEntry := none
  clusteringOrder : Option (List OrderEntry) := none
  id : Option Text := none
  compactStorage : Bool := false
  deriving DecidableEq, Repr

/-- An ALTER TABLE statement, of which exactly one alteration is to be given. -/
structure AlterTableEntry where
  table : Text := []
  add : Option (List ColumnEntry) := none
  drop : Option (List Text) := none
  dropCompactStorage : Bool := false
  rename : Option RenameEntry := none
  options : Option (List WithEntry) := none
  deriving DecidableEq, Repr

/-- The column of an index and how it is indexed. -/
structure IndexColumnEntry where
  kind : Text := []
  name : Text := []
  deriving DecidableEq, Repr

/-- A CREATE INDEX statement. -/
structure CreateIndexEntry where
  ifNotExists : Bool := false
  name : Text := []
  table : Text := []
  column : IndexColumnEntry := {}
  deriving DecidableEq, Repr

/-- The batch that a statement opens. -/
structure BatchEntry where
  kind : Text := []
  timestamp : Option UInt64 := none
  deriving DecidableEq, Repr

/-- An INSERT statement. Its operands are kept as nodes. -/
structure InsertEntry where
  batch : Option BatchEntry := none
  table : Text := []
  columns : List Text := []
  values : Option (List Node) := none
  json : Option Text := none
  ttl : Option UInt64 := none
  timestamp : Option UInt64 := none
  ifNotExists : Bool := false
  deriving Repr

/-- A statement, of which exactly one kind is to be given. -/
structure StatementEntry where
  alterTable : Option AlterTableEntry := none
  createIndex : Option CreateIndexEntry := none
  insert : Option InsertEntry := none
  deriving Repr

/-! ### Reading entries -/

/-- A field that may be left out, with the name of its kind. -/
def optionalField (wanted : Text) (read : Node → Decode (Option β)) (set : β → α → α) :
    Node → α → Decode α :=
  Field.of (Decode.optional wanted read) set

/-- A list of texts. -/
def texts (n : Node) : Decode (Option (List Text)) :=
  Decode.list "string" Decode.text n

/-- The fields of a column to be added. -/
def columnRecord : Record ColumnEntry where
  typeName := "document.columnDoc"
  fields := [
    ("name", Field.of Decode.text fun t e => { e with name := t }),
    ("type", Field.of Decode.text fun t e => { e with type := t }),
    ("params", Field.of texts fun ts e => { e with params := ts }),
    ("frozen", Field.of Decode.flag fun b e => { e with frozen := b }),
    ("static", Field.of Decode.flag fun b e => { e with isStatic := b }),
    ("primary_key", Field.of Decode.flag fun b e => { e with primaryKey := b })]

/-- The fields of a renaming. -/
def renameRecord : Record RenameEntry where
  typeName := "document.renameDoc"
  fields := [
    ("from", Field.of Decode.text fun t e => { e with source := t }),
    ("to", Field.of Decode.text fun t e => { e with target := t })]

/-- The fields of a table property. -/
def propertyRecord : Record PropertyEntry where
  typeName := "document.propertyDoc"
  fields := [
    ("name", Field.of Decode.text fun t e => { e with name := t }),
    ("value", Field.of Decode.text fun t e => { e with value := t })]

/-- The fields of a column of a clustering order. -/
def orderRecord : Record OrderEntry where
  typeName := "document.orderDoc"
  fields := [
    ("column", Field.of Decode.text fun t e => { e with column := t }),
    ("desc", Field.of Decode.flag fun b e => { e with descending := b })]

/-- The fields of a table option. -/
def withRecord : Record WithEntry where
  typeName := "document.withItemDoc"
  fields := [
    ("property", optionalField propertyRecord.typeName (propertyRecord.decode {})
      fun p e => { e with property := some p }),
    ("clustering_order", Field.of (Decode.list orderRecord.typeName (orderRecord.decode {}))
      fun os e => { e with clusteringOrder := some os }),
    ("id", optionalField "string" Decode.text fun t e => { e with id := some t }),
    ("compact_storage", Field.of Decode.flag fun b e => { e with compactStorage := b })]

/-- The fields of an ALTER TABLE statement. -/
def alterTableRecord : Record AlterTableEntry where
  typeName := "document.alterTableDoc"
  fields := [
    ("table", Field.of Decode.text fun t e => { e with table := t }),
    ("add", Field.of (Decode.list columnRecord.typeName (columnRecord.decode {}))
      fun cs e => { e with add := some cs }),
    ("drop", Field.of texts fun ts e => { e with drop := some ts }),
    ("drop_compact_storage", Field.of Decode.flag fun b e => { e with dropCompactStorage := b }),
    ("rename", optionalField renameRecord.typeName (renameRecord.decode {})
      fun r e => { e with rename := some r }),
    ("with", Field.of (Decode.list withRecord.typeName (withRecord.decode {}))
      fun ws e => { e with options := some ws })]

/-- The fields of an index column that is written out as a record. -/
def indexColumnRecord : Record IndexColumnEntry where
  typeName := "document.indexColumnDoc"
  fields := [
    ("kind", Field.of Decode.text fun t e => { e with kind := t }),
    ("name", Field.of Decode.text fun t e => { e with name := t })]

/-- Read an index column: a name, or a mapping of one kind to a name. What is tagged as a null is
read as a record. -/
def indexColumn (n : Node) : Decode (Option IndexColumnEntry) := do
  match n with
  | .reference .. => pure none
  | .scalar _ .null _ | .sequence _ .null _ | .mapping _ .null _ => indexColumnRecord.decode {} n
  | .scalar _ _ text => pure (some ⟨"column", text⟩)
  | .mapping line _ entries =>
    match entries with
    | [(k, v)] => pure (some ⟨k.text, v.text⟩)
    | _ => throw (.refused (Misfit.atLine line ++ "index column must have exactly one kind"))
  | .sequence line _ _ =>
    throw (.refused (Misfit.atLine line ++ "index column must be a name or a mapping"))

/-- The fields of a CREATE INDEX statement. -/
def createIndexRecord : Record CreateIndexEntry where
  typeName := "document.createIndexDoc"
  fields := [
    ("if_not_exists", Field.of Decode.flag fun b e => { e with ifNotExists := b }),
    ("name", Field.of Decode.text fun t e => { e with name := t }),
    ("table", Field.of Decode.text fun t e => { e with table := t }),
    ("column", Field.of indexColumn fun c e => { e with column := c })]

/-- The fields of a batch. -/
def batchRecord : Record BatchEntry where
  typeName := "document.batchDoc"
  fields := [
    ("type", Field.of Decode.text fun t e => { e with kind := t }),
    ("timestamp", optionalField "uint64" Decode.word fun w e => { e with timestamp := some w })]

/-- The fields of an INSERT statement. -/
def insertRecord : Record InsertEntry where
  typeName := "document.insertDoc"
  fields := [
    ("batch", optionalField batchRecord.typeName (batchRecord.decode {})
      fun b e => { e with batch := some b }),
    ("table", Field.of Decode.text fun t e => { e with table := t }),
    ("columns", Field.of texts fun ts e => { e with columns := ts }),
    ("values", Field.of (Decode.items "yaml.Node" Decode.raw)
      fun ns e => { e with values := some ns }),
    ("json", optionalField "string" Decode.text fun t e => { e with json := some t }),
    ("ttl", optionalField "uint64" Decode.word fun w e => { e with ttl := some w }),
    ("timestamp", optionalField "uint64" Decode.word fun w e => { e with timestamp := some w }),
    ("if_not_exists", Field.of Decode.flag fun b e => { e with ifNotExists := b })]

/-- The fields of a statement. -/
def statementRecord : Record StatementEntry where
  typeName := "document.statementDoc"
  fields := [
    ("alter_table", optionalField alterTableRecord.typeName (alterTableRecord.decode {})
      fun a e => { e with alterTable := some a }),
    ("create_index", optionalField createIndexRecord.typeName (createIndexRecord.decode {})
      fun c e => { e with createIndex := some c }),
    ("insert", optionalField insertRecord.typeName (insertRecord.decode {})
      fun i e => { e with insert := some i })]

/-- The fields of a whole document. -/
def documentRecord : Record (List StatementEntry) where
  typeName := "document.fileDoc"
  fields := [
    ("statements", Field.of (Decode.list statementRecord.typeName (statementRecord.decode {}))
      fun es _ => es)]

/-- The statements of a document with the given root. -/
def entriesOf (root : Node) : Except Failure (List StatementEntry) := do
  pure ((← (Decode.document (documentRecord.decode []) root).run).getD [])

/-- Read the statements of a document; an empty stream has none. -/
def readEntries (bytes : Text) : Except Failure (List StatementEntry) := do
  match ← Node.ofBytes bytes with
  | none => pure []
  | some root => entriesOf root

end CqlWriter.Document
