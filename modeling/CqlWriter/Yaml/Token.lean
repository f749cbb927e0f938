import CqlWriter.Number.Integer
import CqlWriter.Yaml.FlowScalar
import CqlWriter.Yaml.BlockScalar

/-!
# Tokens

The words of a YAML stream. Besides the indicators and scalars that are written there are tokens for
the start and end of each block collection, which only indentation shows.
-/

namespace CqlWriter.Yaml

/-- What a token is. A scalar is plain, or it is quoted or a block. -/
inductive TokenKind where
  | streamStart
  | streamEnd
  | versionDirective (major minor : Nat)
  | tagDirective (handle start : Text)
  | documentStart
  | documentEnd
  | blockSequenceStart
  | blockMappingStart
  | blockEnd
  | flowSequenceStart
  | flowSequenceEnd
  | flowMappingStart
  | flowMappingEnd
  | blockEntry
  | flowEntry
  | key
  | value
  | reference (name : Text)
  | anchor (name : Text)
  | tag (handle suffix : Text)
  | scalar (text : Text) (plain : Bool)
  deriving DecidableEq, Repr

/-- A token and where it starts. -/
structure Token where
  kind : TokenKind
  mark : Mark
  deriving DecidableEq, Repr

/-- Whether a character may follow the name of an anchor. -/
def endsName (c : Char) : Bool :=
  isGap c || ['?', ':', ',', ']', '\x7d', '%', '@', '`'].contains c

/-- Whether a character may occur in a tag as it is. -/
def isTagChar (c : Char) : Bool :=
  isNameChar c || [';', '/', '?', ':', '@', '&', '=', '+', '$', ',', '.', '!', '~', '*', '\'',
    '(', ')', '[', ']'].contains c

/-- Whether a handle of a tag has a closing `!`. -/
def isClosed (handle : Text) : Bool :=
  1 < handle.length && handle.endsWith "!"

namespace Reading

/-! ### Anchors and aliases -/

/-- Read the name of an anchor or alias from its indicator on. -/
def anchorName : Reading Text := do
  skip
  let name ← takeWhile isNameChar
  if name.isEmpty || !endsName (← char) then failure
  pure (Text.ofChars name)

/-! ### Tags -/

/-- Read a byte that is written as `%` and two hexadecimal digits. -/
def escapedByte : Reading Nat := do
  need 3
  match (← get).rest with
  | '%' :: a :: b :: _ =>
    let byte := (← hexValue? a) * 16 + (← hexValue? b)
    skipMany 3
    pure byte
  | _ => failure

/-- Read the `n` escaped bytes that follow the first of a character. -/
def escapedTail : (n : Nat) → Reading Text
  | 0 => pure []
  | n + 1 => do
    let byte ← escapedByte
    if !(0x80 ≤ byte && byte < 0xc0) then failure
    pure (byte.toUInt8 :: (← escapedTail n))

/-- Read a character whose bytes are escaped. -/
def escapedChar : Reading Text := do
  let byte ← escapedByte
  let n ← tailLength? byte
  pure (byte.toUInt8 :: (← escapedTail n))

/-- Read the characters of a tag after those in `read`, the latest first. -/
def tagCharsWithin : (fuel : Nat) → (read : Text) → Reading Text
  | 0, _ => failure
  | fuel + 1, read => do
    let c ← char
    if c = '%' then
      let bytes ← escapedChar
      need 1
      tagCharsWithin fuel (bytes.reverse ++ read)
    else if isTagChar c then
      skip
      need 1
      tagCharsWithin fuel ((Text.ofChars [c]).reverse ++ read)
    else pure read.reverse

/-- Read the characters of a tag. -/
def tagChars : Reading Text := do
  need 1
  tagCharsWithin (← get).limit []

/-- Read the handle of a tag: `!`, a name, and a closing `!` if there is one. -/
def tagHandle : Reading Text := do
  need 1
  if (← char) ≠ '!' then failure
  skip
  let start := "!" ++ Text.ofChars (← takeWhile isNameChar)
  if (← char) = '!' then
    skip
    pure (start ++ "!")
  else pure start

/-- Read a tag of the form `!<…>`, which is taken as it is. -/
def verbatimTag : Reading TokenKind := do
  skipMany 2
  let t ← tagChars
  if t.isEmpty || (← char) ≠ '>' then failure
  skip
  pure (.tag [] t)

/-- Read a tag that starts with a handle. A tag without a closing `!` in its handle is local, and
`!` alone is a tag of its own. -/
def shorthandTag : Reading TokenKind := do
  let handle ← tagHandle
  let t ← tagChars
  if isClosed handle then
    if t.isEmpty then failure
    pure (.tag handle t)
  else
    let suffix := handle.drop 1 ++ t
    pure (if suffix.isEmpty then .tag [] handle else .tag "!" suffix)

/-- Read a tag. -/
def tag : Reading TokenKind := do
  need 2
  let t ← if (← get).next = '<' then verbatimTag else shorthandTag
  need 1
  if !isGap (← char) then failure
  pure t

/-! ### Directives -/

/-- Read a part of a version number, of one or two digits. -/
def versionNumber : Reading Nat := do
  let digits ← takeWhile Char.isDigit
  if digits.isEmpty || 2 < digits.length then failure
  Integer.digitsFrom? 10 0 (Text.ofChars digits)

/-- Read the value of a version directive. -/
def version : Reading TokenKind := do
  skipWhile isBlank
  let major ← versionNumber
  if (← char) ≠ '.' then failure
  skip
  pure (.versionDirective major (← versionNumber))

/-- Read the value of a tag directive: a handle and what it stands for. -/
def tagDirective : Reading TokenKind := do
  skipWhile isBlank
  let handle ← tagHandle
  if handle ≠ "!" && !isClosed handle then failure
  need 1
  if !isBlank (← char) then failure
  skipWhile isBlank
  let start ← tagChars
  if start.isEmpty then failure
  need 1
  if !isGap (← char) then failure
  pure (.tagDirective handle start)

/-- Read a directive and the end of its line. -/
def directive : Reading TokenKind := do
  skip
  let name ← takeWhile isNameChar
  if name.isEmpty || !isGap (← char) then failure
  let d ←
    if name = ['Y', 'A', 'M', 'L'] then version
    else if name = ['T', 'A', 'G'] then tagDirective
    else failure
  skipWhile isBlank
  if (← char) = '#' then skipWhile (!isBreak ·)
  if !isBreakOrEnd (← char) then failure
  if isBreak (← char) then
    need 2
    skipLine
  pure d

end Reading

end CqlWriter.Yaml
