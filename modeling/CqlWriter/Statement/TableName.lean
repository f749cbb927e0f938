import CqlWriter.Statement.Identifier

/-!
# Table names

A table name, optionally qualified by a keyspace.
-/

namespace CqlWriter

/-- The name of a table, with the keyspace it is in when that is written. -/
structure TableName where
  keyspace : Option Identifier := none
  name : Identifier
  deriving DecidableEq, Repr

namespace TableName

/-- A table name without a keyspace. -/
def simple (name : Text) : TableName :=
  ⟨none, ⟨name, false⟩⟩

/-- A table name in a keyspace. -/
def qualified (keyspace name : Text) : TableName :=
  ⟨some ⟨keyspace, false⟩, ⟨name, false⟩⟩

/-- The CQL text of a table name. -/
def cql (t : TableName) : Text :=
  match t.keyspace with
  | some ks => ks.cql ++ "." ++ t.name.cql
  | none => t.name.cql

/-- A description of a table name for logs. -/
def describe (t : TableName) : Text :=
  "FQName(" ++ t.cql ++ ")"

/-- The parts before and after the first dot outside double quotes; `inQuotes` tells whether the
text starts inside them. -/
def splitDot? : (inQuotes : Bool) → Text → Option (Text × Text)
  | _, [] => none
  | inQuotes, b :: rest =>
    if b = Text.byte '.' ∧ inQuotes = false then some ([], rest)
    else (splitDot? (if b = Text.byte '"' then !inQuotes else inQuotes) rest).map
      fun (l, r) => (b :: l, r)

/-- Read a table name, split at the first dot outside double quotes. -/
def ofText (t : Text) : TableName :=
  match splitDot? false t with
  | some (keyspace, name) => ⟨some (.ofText keyspace), .ofText name⟩
  | none => ⟨none, .ofText t⟩

end TableName

end CqlWriter
