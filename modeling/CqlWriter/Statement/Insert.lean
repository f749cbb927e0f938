import CqlWriter.Statement.Operand
import CqlWriter.Statement.TableName

/-!
# INSERT

A statement that writes one row, given by operands for named columns or by a JSON document, possibly
as the first statement of a batch.
-/

namespace CqlWriter

/-- The kind of batch that a statement opens; a code outside the three kinds is kept as it is. -/
inductive BatchKind where
  | logged
  | unlogged
  | counter
  | other (code : Int)
  deriving DecidableEq, Repr

namespace BatchKind

/-- The kind with a given code. -/
def ofCode : Int → BatchKind
  | 0 => logged
  | 1 => unlogged
  | 2 => counter
  | n => other n

/-- The name of a kind. -/
def name : BatchKind → Text
  | logged => "LOGGED"
  | unlogged => "UNLOGGED"
  | counter => "COUNTER"
  | other n => "BatchType(" ++ Text.ofInt n ++ ")"

end BatchKind

/-- The opening of a batch in front of a statement. -/
structure Batch where
  kind : BatchKind := .logged
  timestamp : Option UInt64 := none
  deriving DecidableEq, Repr

namespace Batch

/-- The CQL text of a batch opening, which ends with a space. -/
def cql (b : Batch) : Text :=
  "BEGIN " ++ (match b.kind with
    | .unlogged => "UNLOGGED "
    | .counter => "COUNTER "
    | _ => "")
    ++ "BATCH " ++ (match b.timestamp with
      | some t => "USING TIMESTAMP " ++ Text.ofNat t.toNat ++ " "
      | none => "")

/-- A description of a batch opening for logs. -/
def describe (b : Batch) : Text :=
  "BeginBatch(" ++ b.kind.name ++ ")"

end Batch

/-- The lifetime and the time stamp of a written row. -/
structure Usage where
  ttl : Option UInt64 := none
  timestamp : Option UInt64 := none
  deriving DecidableEq, Repr

namespace Usage

/-- The settings of the clause, in order. -/
def parts (u : Usage) : List Text :=
  (match u.ttl with
    | some n => ["TTL " ++ Text.ofNat n.toNat]
    | none => [])
  ++ (match u.timestamp with
    | some n => ["TIMESTAMP " ++ Text.ofNat n.toNat]
    | none => [])

/-- The USING clause without the space in front of it; nothing when it sets nothing. -/
def clause (u : Usage) : Text :=
  if u.parts.isEmpty then "" else "USING " ++ Text.join " AND " u.parts

/-- The CQL text of a USING clause, which starts with a space unless it is empty. -/
def cql (u : Usage) : Text :=
  if u.parts.isEmpty then "" else " " ++ u.clause

/-- A description of a USING clause for logs. -/
def describe (u : Usage) : Text :=
  "TtlTimestamp(" ++ u.clause ++ ")"

end Usage

/-- The row that an INSERT statement writes. The text of a JSON row is written as it is. -/
inductive InsertValues where
  | hole
  | operands (values : List Operand)
  | json (text : Text)
  deriving Repr

namespace InsertValues

/-- The CQL text of a row. -/
def cql : InsertValues → Text
  | hole => ""
  | operands values => "VALUES (" ++ Text.join ", " (Operand.cqlList values) ++ ")"
  | json text => "JSON " ++ text

/-- A description of a row for logs. -/
def describe : InsertValues → Text
  | hole => "%!s(<nil>)"
  | operands values => "Values[" ++ Text.ofNat values.length ++ "]"
  | json text => "Json(" ++ Text.ofNat text.length ++ " bytes)"

end InsertValues

/-- An INSERT statement. The number of operands may differ from the number of columns. -/
structure Insert where
  batch : Option Batch := none
  table : TableName
  columns : List Identifier := []
  values : InsertValues
  usage : Option Usage := none
  ifNotExists : Bool := false
  deriving Repr

namespace Insert

/-- The CQL text of an INSERT statement. -/
def cql (i : Insert) : Text :=
  (match i.batch with
    | some b => b.cql
    | none => "")
  ++ "INSERT INTO " ++ i.table.cql ++ " (" ++ Text.join ", " (i.columns.map Identifier.cql) ++ ") "
  ++ i.values.cql ++ (if i.ifNotExists then " IF NOT EXISTS" else "")
  ++ (match i.usage with
    | some u => u.cql
    | none => "")

/-- A description of an INSERT statement for logs. -/
def describe (i : Insert) : Text :=
  "Insert(" ++ i.table.cql ++ "[" ++ Text.ofNat i.columns.length ++ " cols])"

end Insert

end CqlWriter
