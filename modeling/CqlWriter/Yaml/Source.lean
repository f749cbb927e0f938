import CqlWriter.Yaml.Encoding

/-!
# The source of a YAML stream

The characters of a stream come into a window block by block, and only when they are wanted, so a
block that cannot be read does no harm if nobody wants it. After its last character a source goes on
with zero characters, which no stream contains.
-/

namespace CqlWriter.Yaml

/-- A position in a stream: lines, columns and characters are counted from zero. -/
structure Mark where
  index : Nat := 0
  line : Nat := 0
  column : Nat := 0
  deriving DecidableEq, Repr

/-- A stream from some position on. -/
structure Source where
  /-- The characters to come, without those of a faulty block and all after it. -/
  rest : List Char
  /-- The numbers of characters in the blocks that are not in the window yet. -/
  blocks : List Nat
  /-- Whether a block that cannot be read comes after them. -/
  faulty : Bool
  /-- A number that is greater than that of the characters to come. -/
  limit : Nat
  /-- How many of the characters to come are in the window. -/
  ahead : Nat := 0
  /-- Whether the window starts with a byte order mark. -/
  marked : Bool := false
  /-- Whether a line break was passed, and since then nothing but blanks. -/
  newLine : Bool := false
  mark : Mark := {}

namespace Source

/-- The source of a stream of bytes. -/
def ofBytes (bytes : Text) : Source :=
  let (blocks, faulty) := Encoding.blocks bytes
  let rest := blocks.flatten
  { rest, blocks := blocks.map (·.length), faulty, limit := rest.length + 8 }

/-! ### Looking ahead -/

/-- The character at the start of a source. -/
def char (s : Source) : Char :=
  match s.rest with
  | [] => endChar
  | c :: _ => c

/-- The character after the first. -/
def next (s : Source) : Char :=
  match s.rest with
  | _ :: c :: _ => c
  | _ => endChar

/-- Whether a source starts with three characters `c` at the start of a line, and then a gap. -/
def atMarker (c : Char) (s : Source) : Bool :=
  s.mark.column = 0 &&
    match s.rest with
    | x :: y :: z :: rest => x = c && y = c && z = c && isGap (rest.headD endChar)
    | _ => false

/-- Whether a source starts with the mark of a document's start or end. -/
def atDocumentMarker (s : Source) : Bool :=
  s.atMarker '-' || s.atMarker '.'

/-! ### The window -/

/-- Take blocks into the window until it has `n` characters. Where the stream ends, one zero
character is taken. -/
def load? (n : Nat) : (blocks : List Nat) → Source → Option Source
  | [], s => if s.faulty then none else some { s with blocks := [], ahead := s.ahead + 1 }
  | size :: blocks, s =>
    let s := { s with blocks, ahead := s.ahead + size }
    if n ≤ s.ahead then some s else load? n blocks s

/-- Have `n` characters in the window. If they are not there yet, the window starts here and grows;
a block that cannot be read makes this fail. -/
def need? (n : Nat) (s : Source) : Option Source :=
  if n ≤ s.ahead then some s
  else load? n s.blocks { s with marked := s.char = byteOrderMark }

/-! ### Passing over characters -/

/-- The source after its first character, on the same line. -/
def skip (s : Source) : Source :=
  { s with
    rest := s.rest.tail
    ahead := s.ahead - 1
    newLine := s.newLine && isBlank s.char
    mark := { s.mark with index := s.mark.index + 1, column := s.mark.column + 1 } }

/-- The source after a line break, of `width` characters, at its start. -/
def startLine (width : Nat) (s : Source) : Source :=
  { s with
    rest := s.rest.drop width
    ahead := s.ahead - width
    newLine := true
    mark := ⟨s.mark.index + width, s.mark.line + 1, 0⟩ }

/-- The source after the line break at its start, if there is one. -/
def skipLine (s : Source) : Source :=
  if s.char = '\r' && s.next = '\n' then s.startLine 2
  else if isBreak s.char then s.startLine 1
  else s

end Source

/-! ### Steps of reading -/

/-- A step of reading a source, which may fail. -/
abbrev Reading (α : Type) := StateT Source Option α

namespace Reading

/-- Have `n` characters in the window. -/
def need (n : Nat) : Reading Unit := fun s =>
  (s.need? n).map fun s => ((), s)

/-- The next character, which stays there. -/
def char : Reading Char := do
  pure (← get).char

/-- The position. -/
def mark : Reading Mark := do
  pure (← get).mark

/-- Pass over a character. -/
def skip : Reading Unit :=
  modify Source.skip

/-- Pass over several characters. -/
def skipMany (n : Nat) : Reading Unit :=
  modify (Nat.repeat Source.skip n)

/-- Pass over a line break. -/
def skipLine : Reading Unit :=
  modify Source.skipLine

/-- Pass over a line break, if there is one, and tell what it contributes to a text. -/
def readLine : Reading (List Char) := do
  let c ← char
  skipLine
  pure (if isBreak c then [breakText c] else [])

/-- Read the characters that satisfy `p`, after those in `read`, the latest first. -/
def takeWhileWithin (p : Char → Bool) : (fuel : Nat) → (read : List Char) → Reading (List Char)
  | 0, _ => failure
  | fuel + 1, read => do
    let c ← char
    if c ≠ endChar && p c then
      skip
      need 1
      takeWhileWithin p fuel (c :: read)
    else pure read.reverse

/-- Read the characters that satisfy `p`. -/
def takeWhile (p : Char → Bool) : Reading (List Char) := do
  need 1
  takeWhileWithin p (← get).limit []

/-- Pass over the characters that satisfy `p`. -/
def skipWhileWithin (p : Char → Bool) : (fuel : Nat) → Reading Unit
  | 0 => failure
  | fuel + 1 => do
    let c ← char
    if c ≠ endChar && p c then
      skip
      need 1
      skipWhileWithin p fuel
    else pure ()

/-- Pass over the characters that satisfy `p`. -/
def skipWhile (p : Char → Bool) : Reading Unit := do
  need 1
  skipWhileWithin p (← get).limit

end Reading

end CqlWriter.Yaml
