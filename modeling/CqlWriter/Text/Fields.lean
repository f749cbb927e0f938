import CqlWriter.Text.Words

/-!
# Fields divided by commas

A record is a line of fields with commas between them. A field in quotes may hold commas and line
breaks, and a quote that is written twice.
-/

namespace CqlWriter

/-- A place in a text: its line and column, from one on, and the line on which the record starts. -/
structure FieldPlace where
  start : Nat
  line : Nat
  column : Nat
  deriving DecidableEq, Repr

/-- Why a text holds no record. -/
inductive FieldsFailure where
  /-- There is nothing but empty lines. -/
  | empty
  /-- A quote inside a field without quotes. -/
  | bareQuote (place : FieldPlace)
  /-- A quote inside a field in quotes, or one that is missing at its end. -/
  | loneQuote (place : FieldPlace)
  deriving DecidableEq, Repr

namespace FieldsFailure

/-- The text of a place in front of a message. -/
def placed (p : FieldPlace) (message : Text) : Text :=
  let here := "parse error on line " ++ Text.ofNat p.line ++ ", column " ++ Text.ofNat p.column
    ++ ": " ++ message
  if p.start = p.line then here else "record on line " ++ Text.ofNat p.start ++ "; " ++ here

/-- The message about a failure. -/
def message : FieldsFailure → Text
  | empty => "EOF"
  | bareQuote p => placed p "bare \" in non-quoted field"
  | loneQuote p => placed p "extraneous or missing \" in quoted-field"

end FieldsFailure

namespace Text

/-- The text with line breaks of one byte only, and without a carriage return at its end. -/
def plainBreaks : Text → Text
  | 0x0d :: 0x0a :: rest => 0x0a :: plainBreaks rest
  | [0x0d] => []
  | b :: rest => b :: plainBreaks rest
  | [] => []

/-- How far a field has been read. -/
inductive FieldState where
  /-- Nothing of it yet. -/
  | start
  /-- A part of it, without quotes. -/
  | plain
  /-- A part of it, within quotes. -/
  | quoted
  /-- A quote within quotes, which ends the field or is the first of two. -/
  | quote
  deriving DecidableEq, Repr

/-- Read the fields of a record. The fields that are done and the bytes of the current one come last
first. -/
def fieldsFrom (done : List Text) (current : Text) :
    FieldState → FieldPlace → Text → Except FieldsFailure (List Text)
  | .quoted, p, [] => .error (.loneQuote p)
  | _, _, [] => .ok (current.reverse :: done).reverse
  | state, p, b :: rest =>
    let next := { p with column := p.column + 1 }
    match state with
    | .quoted =>
      if b = byte '"' then fieldsFrom done current .quote next rest
      else if b = byte '\n' && !rest.isEmpty then
        fieldsFrom done (b :: current) .quoted { p with line := p.line + 1, column := 1 } rest
      else fieldsFrom done (b :: current) .quoted next rest
    | .start | .plain | .quote =>
      if b = byte '"' then
        match state with
        | .start => fieldsFrom done current .quoted next rest
        | .quote => fieldsFrom done (b :: current) .quoted next rest
        | _ => .error (.bareQuote p)
      else if b = byte ',' then fieldsFrom (current.reverse :: done) [] .start next rest
      else if b = byte '\n' then .ok (current.reverse :: done).reverse
      else if state = .quote then .error (.loneQuote { p with column := p.column - 1 })
      else fieldsFrom done (b :: current) .plain next rest

/-- The fields of the first record of a text. Empty lines in front of it do not count, and an empty
text has no fields. -/
def fields (t : Text) : Except FieldsFailure (List Text) :=
  if t.isEmpty then .ok [] else
    let plain := plainBreaks t
    let rest := plain.dropWhile (· = byte '\n')
    let line := plain.length - rest.length + 1
    if rest.isEmpty then .error .empty else fieldsFrom [] [] .start ⟨line, line, 1⟩ rest

/-- Whether a field has to be written in quotes. -/
def fieldNeedsQuotes (t : Text) : Bool :=
  t = "\\." || (t.any fun b => b = byte '\n' || b = byte '\x0d' || b = byte '"' || b = byte ',')
  || (match t.glyphs with
    | g :: _ => g.isBlank
    | [] => false)

/-- A field as it is written. -/
def field (t : Text) : Text :=
  if fieldNeedsQuotes t then "\"" ++ replaceByte (byte '"') "\"\"" t ++ "\"" else t

/-- The record of a list of fields. -/
def ofFields (ts : List Text) : Text :=
  join "," (ts.map field)

end Text

end CqlWriter
