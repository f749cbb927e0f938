import CqlWriter.Yaml.Comment

/-!
# Block scalars

A literal block keeps its line breaks and a folded block joins neighbouring lines by a space. The
indentation of the block is that of its first line that is not empty, unless the header gives it.
-/

namespace CqlWriter.Yaml

/-- What becomes of the line breaks at the end of a block. -/
inductive Chomping where
  | strip
  | clip
  | keep
  deriving DecidableEq

/-- The header of a block: what becomes of the last breaks, and an indentation if one is given. -/
structure BlockHeader where
  chomping : Chomping := .clip
  increment : Option Nat := none

/-- The chomping that an indicator stands for. -/
def chomping? (c : Char) : Option Chomping :=
  if c = '+' then some .keep else if c = '-' then some .strip else none

/-- The end of a block: the last line break and the empty lines after it. -/
structure BlockEnd where
  lastBreak : List Char := []
  breaks : List Char := []

/-- What a kind of chomping leaves of the end of a block. -/
def BlockEnd.text (e : BlockEnd) : Chomping → List Char
  | .strip => []
  | .clip => e.lastBreak
  | .keep => e.lastBreak ++ e.breaks

namespace Reading

/-- Read an indicator of chomping, if there is one. -/
def chompingIndicator : Reading (Option Chomping) := do
  need 1
  match chomping? (← char) with
  | some chomping =>
    skip
    pure (some chomping)
  | none => pure none

/-- Read an indicator of indentation, if there is one; it cannot be zero. -/
def increment : Reading (Option Nat) := do
  need 1
  let c ← char
  if !c.isDigit then pure none
  else if c = '0' then failure
  else
    skip
    pure (some (c.toNat - '0'.toNat))

/-- Read the indicators of a header, in either order. -/
def blockIndicators : Reading BlockHeader := do
  match ← chompingIndicator with
  | some chomping => pure ⟨chomping, ← increment⟩
  | none =>
    match ← increment with
    | some n => pure ⟨(← chompingIndicator).getD .clip, some n⟩
    | none => pure {}

/-- Read the header of a block after its `|` or `>`, and the end of its line. -/
def blockHeader : Reading BlockHeader := do
  let header ← blockIndicators
  skipWhile isBlank
  if (← char) = '#' then
    lineComment
    skipWhile (!isBreak ·)
  if !isBreakOrEnd (← char) then failure
  if isBreak (← char) then
    need 2
    skipLine
  pure header

/-- Pass over indentation and empty lines. Without an `indent` every space is indentation. The
breaks that have been read, the latest first, are `breaks`, and `widest` is the greatest column at
which the spaces of a line ended. -/
def blockBreaksWithin (indent : Option Nat) :
    (fuel : Nat) → (breaks : List Char) → (widest : Nat) → Reading (List Char × Nat)
  | 0, _, _ => failure
  | fuel + 1, breaks, widest => do
    let c ← char
    let column := (← mark).column
    let inside := indent.all (column < ·)
    if inside && c = ' ' then
      skip
      need 1
      blockBreaksWithin indent fuel breaks widest
    else if inside && c = '\t' then failure
    else if isBreak c then
      need 2
      let read ← readLine
      need 1
      blockBreaksWithin indent fuel (read ++ breaks) (max column widest)
    else pure (breaks.reverse, max column widest)

/-- Pass over indentation and empty lines. Without an `indent` every space is indentation. The
answer has the line breaks, and the greatest column at which the spaces of a line ended. -/
def blockBreaks (indent : Option Nat) : Reading (List Char × Nat) := do
  need 1
  blockBreaksWithin indent (← get).limit [] 0

/-- Read the lines of a block. The characters in `read`, the latest first, have been read of it;
`afterBlank` tells whether the line before started with a blank, and `last` is the end of what has
been read. -/
def blockLines (literal : Bool) (indent : Nat) :
    (fuel : Nat) → (read : List Char) → (afterBlank : Bool) → (last : BlockEnd) →
      Reading (List Char × BlockEnd)
  | 0, _, _, _ => failure
  | fuel + 1, read, afterBlank, last => do
    let c ← char
    if (← mark).column = indent && c ≠ endChar then
      let folds := !literal && last.lastBreak.head? = some '\n' && !afterBlank && !isBlank c
      let joint :=
        if !folds then last.lastBreak else if last.breaks.isEmpty then [' '] else []
      let line ← takeWhile (!isBreak ·)
      need 2
      let lastBreak ← readLine
      let (breaks, _) ← blockBreaks (some indent)
      let read := line.reverse ++ (joint ++ last.breaks).reverse ++ read
      blockLines literal indent fuel read (isBlank c) ⟨lastBreak, breaks⟩
    else pure (read.reverse, last)

/-- Read a block scalar from its `|` or `>` on. Its lines are indented deeper than `outer`, the
indentation of the collection it stands in. -/
def blockScalar (outer : Option Nat) : Reading (List Char) := do
  let literal := (← char) = '|'
  skip
  let header ← blockHeader
  let given := header.increment.map (outer.getD 0 + ·)
  let (breaks, column) ← blockBreaks given
  let least := match outer with
    | some n => n + 1
    | none => 1
  let indent := given.getD (max column least)
  need 1
  let (cs, last) ← blockLines literal indent (← get).limit [] false { breaks }
  pure (cs ++ last.text header.chomping)

end Reading

end CqlWriter.Yaml
