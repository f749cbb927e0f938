import CqlWriter.Settings.Table
import CqlWriter.Text.Glyph

/-!
# Tables in JSON

An object is read as a table. Numbers are of double precision, and of two entries with the same key
the later one counts.
-/

namespace CqlWriter.Settings

/-- Why a text is no JSON table. -/
inductive JsonFailure where
  | endsEarly
  /-- A byte that cannot stand where it does. -/
  | unexpected (b : UInt8) (context : Text)
  /-- A number beyond double precision. -/
  | tooWide (number : Text)
  /-- A value that is no object. -/
  | noObject (kind : Text)
  deriving DecidableEq, Repr

namespace JsonFailure

/-- A byte between single quotes. -/
def byteText (b : UInt8) : Text :=
  if b = Text.byte '\'' then "'\\''"
  else if b = Text.byte '"' then "'\"'"
  else "'" ++ Text.quotedGlyph (.char (Char.ofNat b.toNat)) ++ "'"

/-- The message about a failure. -/
def message : JsonFailure → Text
  | endsEarly => "unexpected end of JSON input"
  | unexpected b context => "invalid character " ++ byteText b ++ " " ++ context
  | tooWide number => "json: cannot unmarshal number " ++ number ++ " into Go value of type float64"
  | noObject kind =>
    "json: cannot unmarshal " ++ kind ++ " into Go value of type map[string]interface \x7b\x7d"

end JsonFailure

/-- How far a text has been read. -/
structure JsonReading where
  /-- What has not been read yet. -/
  rest : Text
  /-- The first number that is beyond double precision. It is reported only of a text without
  flaws. -/
  tooWide : Option Text := none

/-- A reader of JSON: it takes a part of a text and leaves the rest. -/
abbrev JsonReader (α : Type) := StateT JsonReading (Except JsonFailure) α

namespace JsonReader

/-- Fail inside a token. A text that ends there is one with a blank there. -/
def fail (context : Text) : JsonReader α := do
  throw (.unexpected ((← get).rest.head?.getD 0x20) context)

/-- Pass over white space. -/
def skipBlanks : JsonReader Unit :=
  modify fun r =>
    { r with rest := r.rest.dropWhile fun b => b = 0x20 || b = 0x09 || b = 0x0a || b = 0x0d }

/-- The next byte, which stays there. -/
def peek? : JsonReader (Option UInt8) :=
  return (← get).rest.head?

/-- Pass over a byte. -/
def advance : JsonReader Unit :=
  modify fun r => { r with rest := r.rest.drop 1 }

/-- Pass over white space and a given byte behind it. -/
def expect (c : Char) (context : Text) : JsonReader Unit := do
  skipBlanks
  match ← peek? with
  | none => throw .endsEarly
  | some b => if b = Text.byte c then advance else fail context

/-- Take digits, of which there has to be at least one. -/
def digits (context : Text) : JsonReader Text := do
  let taken := (← get).rest.takeWhile Integer.isDigit
  if taken.isEmpty then fail context
  modify fun r => { r with rest := r.rest.drop taken.length }
  pure taken

/-- Take one of some bytes, if it is next. -/
def oneOf (bytes : Text) : JsonReader Text := do
  match ← peek? with
  | some b =>
    if bytes.contains b then do
      advance
      pure [b]
    else pure []
  | none => pure []

/-- Read the rest of a literal. -/
def literal (whole : Text) : (rest : Text) → JsonReader Unit
  | [] => pure ()
  | b :: rest => do
    if (← peek?) = some b then
      advance
      literal whole rest
    else fail ("in literal " ++ whole ++ " (expecting '" ++ [b] ++ "')")

/-- Read a number and give it as it is written. -/
def number : JsonReader Text := do
  let sign ← oneOf "-"
  let whole ← do
    if (← peek?) = some 0x30 then
      advance
      pure ("0" : Text)
    else digits "in numeric literal"
  let point ← oneOf "."
  let fraction ← if point.isEmpty then pure [] else digits "after decimal point in numeric literal"
  let mark ← oneOf "eE"
  if mark.isEmpty then pure (sign ++ whole ++ point ++ fraction)
  else do
    let exponentSign ← oneOf "+-"
    let exponent ← digits "in exponent of numeric literal"
    pure (sign ++ whole ++ point ++ fraction ++ mark ++ exponentSign ++ exponent)

/-- The value of a digit in base sixteen. -/
def hexDigit : JsonReader Nat := do
  match (← peek?).bind (Integer.digit? 16) with
  | some n => do
    advance
    pure n
  | none => fail "in \\u hexadecimal character escape"

/-- Read four digits in base sixteen. -/
def hexCode : JsonReader Nat := do
  let a ← hexDigit
  let b ← hexDigit
  let c ← hexDigit
  let d ← hexDigit
  pure (((a * 16 + b) * 16 + c) * 16 + d)

/-- The characters behind a backslash that stand for others. -/
def escapeLetters : List (UInt8 × UInt8) :=
  [(Text.byte '"', Text.byte '"'), (Text.byte '\\', Text.byte '\\'), (Text.byte '/', Text.byte '/'),
    (Text.byte 'b', 0x08), (Text.byte 'f', 0x0c), (Text.byte 'n', 0x0a), (Text.byte 'r', 0x0d),
    (Text.byte 't', 0x09)]

/-- One piece of a string: bytes as they stand, or a code unit that is written by number. -/
inductive Piece where
  | byte (b : UInt8)
  | unit (n : Nat)

/-- Read the pieces of a string up to its closing quote, `fuel` of them at most. -/
def pieces : (fuel : Nat) → JsonReader (List Piece)
  | 0 => throw .endsEarly
  | fuel + 1 => do
    match ← peek? with
    | none => throw .endsEarly
    | some b =>
      if b = Text.byte '"' then do
        advance
        pure []
      else if b = Text.byte '\\' then do
        advance
        match (← peek?).bind fun b => escapeLetters.lookup b with
        | some letter => do
          advance
          pure (.byte letter :: (← pieces fuel))
        | none => do
          if (← peek?) ≠ some (Text.byte 'u') then fail "in string escape code"
          advance
          let n ← hexCode
          pure (.unit n :: (← pieces fuel))
      else if b < 0x20 then fail "in string literal"
      else do
        advance
        pure (.byte b :: (← pieces fuel))

/-- The character of a code unit; one of a pair alone has none. -/
def unitChar (n : Nat) : Char :=
  (Glyph.code? 0 n).getD Glyph.replacement

/-- The bytes of the pieces of a string. Two units of a pair make one character. -/
def assemble : List Piece → Text
  | [] => []
  | .byte b :: rest => b :: assemble rest
  | .unit a :: .unit b :: rest =>
    if 0xd800 ≤ a && a < 0xdc00 && 0xdc00 ≤ b && b < 0xe000 then
      Text.ofChars [unitChar (0x10000 + (a - 0xd800) * 0x400 + (b - 0xdc00))] ++ assemble rest
    else Text.ofChars [unitChar a] ++ assemble (.unit b :: rest)
  | .unit a :: rest => Text.ofChars [unitChar a] ++ assemble rest

/-- Read a string whose opening quote has been passed. Bytes that belong to no character are
replaced. -/
def string : JsonReader Text := do
  let found ← pieces ((← get).rest.length + 1)
  pure (Text.ofChars ((Text.glyphs (assemble found)).map Glyph.shown))

/-- How many objects and arrays may be inside of each other. -/
def deepest : Nat := 10000

/-- Pass over the opening bracket of an object or an array that has `depth` others around it. -/
def opening (depth : Nat) : JsonReader Unit := do
  if deepest ≤ depth then fail "exceeded max depth"
  advance
  skipBlanks

mutual

/-- Read a value that has `depth` objects and arrays around it. -/
def value (depth : Nat) : (fuel : Nat) → JsonReader Value
  | 0 => throw .endsEarly
  | fuel + 1 => do
    skipBlanks
    match ← peek? with
    | none => throw .endsEarly
    | some b =>
      if b = 0x7b then do
        opening depth
        if (← peek?) = some 0x7d then
          advance
          pure (.map [])
        else pure (.map (← entries (depth + 1) fuel []))
      else if b = Text.byte '[' then do
        opening depth
        if (← peek?) = some (Text.byte ']') then
          advance
          pure (.list [])
        else pure (.list (← items (depth + 1) fuel))
      else if b = Text.byte '"' then do
        advance
        pure (.text (← string))
      else if b = Text.byte 't' then do
        advance
        literal "true" "rue"
        pure (.flag true)
      else if b = Text.byte 'f' then do
        advance
        literal "false" "alse"
        pure (.flag false)
      else if b = Text.byte 'n' then do
        advance
        literal "null" "ull"
        pure .null
      else if b = Text.byte '-' || Integer.isDigit b then do
        let t ← number
        match Binary64.ofText? t with
        | some x => pure (.float x)
        | none => do
          modify fun r => { r with tooWide := r.tooWide <|> some t }
          pure .null
      else fail "looking for beginning of value"

/-- Read the items of an array that is not empty. -/
def items (depth : Nat) : (fuel : Nat) → JsonReader (List Value)
  | 0 => throw .endsEarly
  | fuel + 1 => do
    let v ← value depth fuel
    skipBlanks
    if (← peek?) = some (Text.byte ',') then
      advance
      pure (v :: (← items depth fuel))
    else
      expect ']' "after array element"
      pure [v]

/-- Read the entries of an object that is not empty. -/
def entries (depth : Nat) : (fuel : Nat) → Table → JsonReader Table
  | 0, _ => throw .endsEarly
  | fuel + 1, t => do
    expect '"' "looking for beginning of object key string"
    let key ← string
    expect ':' "after object key"
    let v ← value depth fuel
    skipBlanks
    let t := Table.set t key v
    if (← peek?) = some (Text.byte ',') then
      advance
      entries depth fuel t
    else
      expect '\x7d' "after object key:value pair"
      pure t

end

/-- Read a whole text. -/
def whole : JsonReader Value := do
  let v ← value 0 ((← get).rest.length + 1)
  skipBlanks
  match ← peek? with
  | none => pure v
  | some _ => fail "after top-level value"

end JsonReader

/-- The table in a JSON text. A null is an empty table. -/
def Table.ofJson (bytes : Text) : Except JsonFailure Table := do
  let (v, reading) ← JsonReader.whole.run ⟨bytes, none⟩
  match v, reading.tooWide with
  | .map _, some number => throw (.tooWide number)
  | .map entries, none => pure entries
  | .null, none => pure []
  | .text _, _ => throw (.noObject "string")
  | .flag _, _ => throw (.noObject "bool")
  | .list _, _ => throw (.noObject "array")
  | _, _ => throw (.noObject "number")

end CqlWriter.Settings
