import CqlWriter.Text.Quoted

/-!
# Identifiers

A column, table, keyspace or index name. An unquoted identifier ignores case; a quoted one keeps it
and may contain any character. Identifiers are ordered by the name they stand for, so that `a` and
`A` are the same column while `a` and `"a"` are two.
-/

namespace CqlWriter

/-- A name as it is written in a statement. -/
structure Identifier where
  name : Text
  quoted : Bool := false
  deriving DecidableEq, Repr

/-- A quoted name: the part before the first zero byte, each quote doubled, between quotes. -/
def quoteName (name : Text) : Text :=
  "\"" ++ Text.replaceByte (Text.byte '"') "\"\"" (name.takeWhile (· ≠ 0)) ++ "\""

/-- A string literal: each single quote doubled, between single quotes. -/
def quoteLiteral (value : Text) : Text :=
  "'" ++ Text.replaceByte (Text.byte '\'') "''" value ++ "'"

/-- The text with each pair of neighbouring double quotes made one, from the left. -/
def undouble : Text → Text
  | 0x22 :: 0x22 :: rest => 0x22 :: undouble rest
  | b :: rest => b :: undouble rest
  | [] => []

namespace Identifier

/-- The CQL text of an identifier. -/
def cql (i : Identifier) : Text :=
  if i.quoted then quoteName i.name else i.name

/-- A description of an identifier for logs. -/
def describe (i : Identifier) : Text :=
  "Identifier(" ++ (if i.quoted then i.name.quoted else i.name) ++ ")"

/-- The name that an identifier stands for. -/
def key (i : Identifier) : Text :=
  if i.quoted then i.name else i.name.lower

/-- The spelling shared by all identifiers that stand for the same thing. -/
def normalized (i : Identifier) : Identifier :=
  { i with name := i.key }

/-- Identifiers are ordered by the name they stand for; of two with the same one, the unquoted
identifier comes first. -/
def compare (i j : Identifier) : Ordering :=
  match Text.order i.key j.key with
  | .eq =>
    match i.quoted, j.quoted with
    | false, true => .lt
    | true, false => .gt
    | _, _ => .eq
  | o => o

/-- Whether two identifiers stand for the same thing. -/
def same (i j : Identifier) : Bool :=
  i.compare j == .eq

/-- Whether a text begins and ends with a double quote, by two different bytes. -/
def isQuotedName (t : Text) : Bool :=
  t.length ≥ 2 && t.head? == some 0x22 && t.getLast? == some 0x22

/-- Read a name: between double quotes it is a quoted identifier, otherwise an unquoted one. -/
def ofText (t : Text) : Identifier :=
  if isQuotedName t then ⟨undouble (t.drop 1).dropLast, true⟩ else ⟨t, false⟩

end Identifier

end CqlWriter
