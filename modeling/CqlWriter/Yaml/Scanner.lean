import CqlWriter.Yaml.Token

/-!
# Finding the tokens of a stream

Tokens are read from left to right. A mapping key is known as one only when the `:` behind it is
met, so the place where a key may have started is kept, and the tokens that announce it are put in
there afterwards. Indentation opens and closes block collections.

The tokens are handed out one by one. A token is handed out once two more have been read and it
cannot turn out to start a key any more.
-/

namespace CqlWriter.Yaml

/-- A token that may turn out to start a mapping key: its number, where it starts, and whether it
must be a key. -/
structure PendingKey where
  /-- Whether it may still turn out to. -/
  possible : Bool := false
  required : Bool := false
  number : Nat := 0
  mark : Mark := {}

/-- The state of the scanner. -/
structure Scanner where
  source : Source
  /-- The tokens that have been read and not been handed out. -/
  pending : List Token := [⟨.streamStart, {}⟩]
  /-- The number of tokens that have been handed out. -/
  taken : Nat := 0
  /-- The number of tokens that have been read. -/
  count : Nat := 1
  /-- The column of the innermost block collection. -/
  indent : Option Nat := none
  /-- The columns of the block collections around it. -/
  outer : List (Option Nat) := []
  /-- The number of open flow collections. -/
  depth : Nat := 0
  /-- The possible key of the innermost flow collection, or of the block if none is open. -/
  key : PendingKey := {}
  /-- The possible keys around it, one for each open flow collection. -/
  outerKeys : List PendingKey := []
  /-- The tokens that wait for what follows, by number, with the depth of their possible key. -/
  waiting : List (Nat × Nat) := []
  /-- Whether a key may start here. -/
  keyAllowed : Bool := true

namespace Scanner

/-- Where the scanner stands. -/
def mark (s : Scanner) : Mark :=
  s.source.mark

/-- Whether a flow collection is open. -/
def inFlow (s : Scanner) : Bool :=
  0 < s.depth

/-- The greatest number of open collections. -/
def maxDepth : Nat := 10000

/-- Do a step of reading. -/
def read? (s : Scanner) (step : Reading α) : Option (α × Scanner) :=
  (step.run s.source).map fun (a, source) => (a, { s with source })

/-- Do a step of reading for its effect alone. -/
def pass? (s : Scanner) (step : Reading Unit) : Option Scanner :=
  (s.read? step).map (·.2)

/-! ### Tokens -/

/-- Append a token. -/
def push (s : Scanner) (kind : TokenKind) (mark : Mark) : Scanner :=
  { s with pending := s.pending ++ [⟨kind, mark⟩], count := s.count + 1 }

/-- Put a token in front of the token with the given number. If that has been handed out already,
the token comes last. -/
def insert (s : Scanner) (number : Nat) (kind : TokenKind) (mark : Mark) : Scanner :=
  if number < s.taken then s.push kind mark
  else
    { s with
      pending := s.pending.insertIdx (number - s.taken) ⟨kind, mark⟩
      count := s.count + 1 }

/-- Append the token of an indicator of `width` characters and pass over it. -/
def indicator (s : Scanner) (kind : TokenKind) (width : Nat) : Scanner :=
  { s.push kind s.mark with source := Nat.repeat Source.skip width s.source }

/-! ### Possible keys -/

/-- Whether a key may still be completed here: on one line, within 1024 characters. -/
def fresh (s : Scanner) (k : PendingKey) : Bool :=
  k.mark.line = s.mark.line && s.mark.index ≤ k.mark.index + 1024

/-- Give up a possible key that cannot be completed any more. None if it had to be one. -/
def settle? (s : Scanner) (k : PendingKey) : Option PendingKey :=
  if !k.possible || s.fresh k then some k
  else if k.required then none
  else some { k with possible := false }

/-- The token with the given number does not wait any more. -/
def release (s : Scanner) (number : Nat) : Scanner :=
  { s with waiting := s.waiting.filter (·.1 ≠ number) }

/-- Give up the possible key of the current flow level; a required one cannot be given up. -/
def dropKey? (s : Scanner) : Option Scanner :=
  if !s.key.possible then some s
  else if s.key.required then none
  else some ({ s with key.possible := false }.release s.key.number)

/-- Note that the next token may start a key. -/
def saveKey? (s : Scanner) : Option Scanner :=
  if s.keyAllowed then do
    let s ← s.dropKey?
    let required := !s.inFlow && s.indent = some s.mark.column
    pure { s with
      key := ⟨true, required, s.count, s.mark⟩
      waiting := (s.count, s.depth) :: s.waiting }
  else some s

/-! ### Indentation -/

/-- Open a block collection at a column, unless one is open there already. Its first token goes in
front of the token with the given number, or comes last. -/
def roll? (s : Scanner) (column : Nat) (number : Option Nat) (kind : TokenKind) (mark : Mark) :
    Option Scanner :=
  if s.inFlow || s.indent.any (column ≤ ·) then some s
  else if maxDepth ≤ s.outer.length then none
  else
    let s := { s with indent := some column, outer := s.indent :: s.outer }
    some (match number with
      | some n => s.insert n kind mark
      | none => s.push kind mark)

/-- How many of the nested indentations lie beyond a column, and those that are left. -/
def beyond (column : Option Nat) :
    Option Nat → List (Option Nat) → Nat × Option Nat × List (Option Nat)
  | some n, o :: os =>
    if column.all (· < n) then
      let (count, indent, outer) := beyond column o os
      (count + 1, indent, outer)
    else (0, some n, o :: os)
  | indent, outer => (0, indent, outer)

/-- Close the block collections that are indented beyond a column, or all of them. -/
def unroll (s : Scanner) (column : Option Nat) : Scanner :=
  if s.inFlow then s
  else
    let (closed, indent, outer) := beyond column s.indent s.outer
    let ends := List.replicate closed (Token.mk .blockEnd s.mark)
    { s with indent, outer, pending := s.pending ++ ends, count := s.count + closed }

/-! ### Between tokens -/

/-- Pass over blanks, comments and line breaks. A new line of a block may start a key, and where one
may start a tab is no blank. While the window starts with a byte order mark, one character is left
out at the start of each line. The answer tells whether a key may start. -/
def toTokenWithin (flow : Bool) : (fuel : Nat) → (keyAllowed : Bool) → Reading Bool
  | 0, _ => failure
  | fuel + 1, keyAllowed => do
    Reading.need 1
    let s ← get
    if s.mark.column = 0 && s.marked then Reading.skip
    Reading.skipWhile fun c => c = ' ' || (c = '\t' && (flow || !keyAllowed))
    if (← Reading.char) = '#' then Reading.comments
    if isBreak (← Reading.char) then
      Reading.need 2
      Reading.skipLine
      toTokenWithin flow fuel (keyAllowed || !flow)
    else pure keyAllowed

/-- Pass over what comes before the next token. -/
def toToken? (s : Scanner) : Option Scanner := do
  let (keyAllowed, s) ← s.read? (toTokenWithin s.inFlow s.source.limit s.keyAllowed)
  pure { s with keyAllowed }

/-! ### One token -/

/-- The end of the stream, at which the last line ends. -/
def streamEnd? (s : Scanner) : Option Scanner := do
  let m := s.mark
  let last := if m.column = 0 then m else { m with line := m.line + 1, column := 0 }
  let s := { s with source.mark := last }
  let s ← (s.unroll none).dropKey?
  pure ({ s with keyAllowed := false }.push .streamEnd last)

/-- A directive. -/
def directive? (s : Scanner) : Option Scanner := do
  let start := s.mark
  let s ← (s.unroll none).dropKey?
  let (kind, s) ← s.read? Reading.directive
  pure ({ s with keyAllowed := false }.push kind start)

/-- The start or end of a document. -/
def documentMarker? (s : Scanner) (kind : TokenKind) : Option Scanner := do
  let s ← (s.unroll none).dropKey?
  pure ({ s with keyAllowed := false }.indicator kind 3)

/-- The start of a flow collection, which may itself start a key. -/
def flowStart? (s : Scanner) (kind : TokenKind) : Option Scanner := do
  let s ← s.saveKey?
  if maxDepth ≤ s.depth then none
  let s := { s with
    key := { number := s.count, mark := s.mark }
    outerKeys := s.key :: s.outerKeys
    depth := s.depth + 1
    keyAllowed := true }
  pure (s.indicator kind 1)

/-- The end of a flow collection. The token with which its last possible key started, or its own
first token if there was none, does not wait any more. -/
def flowEnd? (s : Scanner) (kind : TokenKind) : Option Scanner := do
  let s ← s.dropKey?
  let s := match s.outerKeys with
    | k :: ks =>
      { s.release s.key.number with key := k, outerKeys := ks, depth := s.depth - 1 }
    | [] => s
  pure ({ s with keyAllowed := false }.indicator kind 1)

/-- The comma of a flow collection. -/
def flowEntry? (s : Scanner) : Option Scanner := do
  let s ← s.dropKey?
  pure ({ s with keyAllowed := true }.indicator .flowEntry 1)

/-- Open a block collection here for an indicator, which has to stand where a key may start. -/
def openHere? (s : Scanner) (kind : TokenKind) : Option Scanner :=
  if s.inFlow then some s
  else if !s.keyAllowed then none
  else s.roll? s.mark.column none kind s.mark

/-- The dash of a block sequence. -/
def blockEntry? (s : Scanner) : Option Scanner := do
  let s ← (← s.openHere? .blockSequenceStart).dropKey?
  pure ({ s with keyAllowed := true }.indicator .blockEntry 1)

/-- The question mark before a key. -/
def key? (s : Scanner) : Option Scanner := do
  let s ← (← s.openHere? .blockMappingStart).dropKey?
  pure ({ s with keyAllowed := !s.inFlow }.indicator .key 1)

/-- The colon after a key. If the possible key can still be completed, it is one. -/
def value? (s : Scanner) : Option Scanner := do
  let k ← s.settle? s.key
  let s := { s with key := { k with possible := false } }
  if k.possible then
    let s := s.insert k.number .key k.mark
    let s ← s.roll? k.mark.column (some k.number) .blockMappingStart k.mark
    pure ({ s.release k.number with keyAllowed := false }.indicator .value 1)
  else
    let s ← s.openHere? .blockMappingStart
    pure ({ s with keyAllowed := !s.inFlow }.indicator .value 1)

/-- An anchor, alias, tag or scalar, all of which may start a key. -/
def content? (s : Scanner) (step : Reading TokenKind) : Option Scanner := do
  let start := s.mark
  let s ← s.saveKey?
  let (kind, s) ← s.read? step
  pure ({ s with keyAllowed := false }.push kind start)

/-- A plain scalar. If it ends with its line, a key may follow. -/
def plain? (s : Scanner) : Option Scanner := do
  let start := s.mark
  let s ← s.saveKey?
  let indent := match s.indent with
    | some n => n + 1
    | none => 0
  let ((cs, broken), s) ← s.read? (Reading.plain s.inFlow indent)
  pure ({ s with keyAllowed := broken }.push (.scalar (Text.ofChars cs) true) start)

/-- A block scalar, after which a key may follow. -/
def block? (s : Scanner) : Option Scanner := do
  let start := s.mark
  let s ← s.dropKey?
  let (cs, s) ← s.read? (Reading.blockScalar s.indent)
  pure ({ s with keyAllowed := true }.push (.scalar (Text.ofChars cs) false) start)

/-- Whether a plain scalar may start with `c` before `next`. -/
def startsPlain (flow : Bool) (c next : Char) : Bool :=
  !(isGap c || ['-', '?', ':', ',', '[', ']', '\x7b', '\x7d', '#', '&', '*', '!', '|', '>', '\'',
      '"', '%', '@', '`'].contains c)
    || (c = '-' && !isBlank next)
    || (!flow && (c = '?' || c = ':') && !isGap next)

/-- Read a token that is neither an end of the stream nor a part of the frame of a document. -/
def inner? (s : Scanner) : Option Scanner :=
  let c := s.source.char
  let next := s.source.next
  if c = '[' then s.flowStart? .flowSequenceStart
  else if c = '\x7b' then s.flowStart? .flowMappingStart
  else if c = ']' then s.flowEnd? .flowSequenceEnd
  else if c = '\x7d' then s.flowEnd? .flowMappingEnd
  else if c = ',' then s.flowEntry?
  else if c = '-' && isGap next then s.blockEntry?
  else if c = '?' && (s.inFlow || isGap next) then s.key?
  else if c = ':' && (s.inFlow || isGap next) then s.value?
  else if c = '*' then s.content? do pure (.reference (← Reading.anchorName))
  else if c = '&' then s.content? do pure (.anchor (← Reading.anchorName))
  else if c = '!' then s.content? Reading.tag
  else if (c = '|' || c = '>') && !s.inFlow then s.block?
  else if c = '\'' || c = '"' then
    s.content? do pure (.scalar (Text.ofChars (← Reading.quoted)) false)
  else if startsPlain s.inFlow c next then s.plain?
  else none

/-- Whether the last token that was read is the dash of a block sequence. -/
def behindDash (s : Scanner) : Bool :=
  s.pending.getLast?.any (·.kind = .blockEntry)

/-- Read the token at which the scanner stands, and a comment behind it. A comment behind a dash is
one before the next token. -/
def token? (s : Scanner) : Option Scanner :=
  if s.source.char = endChar then s.streamEnd?
  else if s.mark.column = 0 && s.source.char = '%' then s.directive?
  else if s.source.atMarker '-' then s.documentMarker? .documentStart
  else if s.source.atMarker '.' then s.documentMarker? .documentEnd
  else do
    let s ← s.inner?
    if s.behindDash then some s else s.pass? Reading.lineComment

/-- Go on to the next token, close the block collections that end there, and read the token. -/
def step? (s : Scanner) : Option Scanner := do
  let s ← s.toToken?
  let s ← (s.unroll (some s.mark.column)).pass? (Reading.need 4)
  s.token?

/-! ### Handing out tokens -/

/-- The possible key at some depth. -/
def keyAt (s : Scanner) (depth : Nat) : PendingKey :=
  if depth = s.depth then s.key else s.outerKeys.getD (s.depth - 1 - depth) {}

/-- Change the possible key at some depth. -/
def setKeyAt (s : Scanner) (depth : Nat) (k : PendingKey) : Scanner :=
  if depth = s.depth then { s with key := k }
  else { s with outerKeys := s.outerKeys.set (s.depth - 1 - depth) k }

/-- Whether the next token must wait because it may turn out to start a key. None if it had to start
one and cannot. -/
def waits? (s : Scanner) : Option (Bool × Scanner) :=
  match s.waiting.lookup s.taken with
  | none => some (false, s)
  | some depth => do
    let k ← s.settle? (s.keyAt depth)
    pure (k.possible, s.setKeyAt depth k)

/-- Read tokens until the next one can be handed out. -/
def readyWithin : (fuel : Nat) → Scanner → Option Scanner
  | 0, _ => none
  | fuel + 1, s =>
    match s.pending with
    | _ :: _ :: _ :: _ => do
      let (waits, s) ← s.waits?
      if waits then readyWithin fuel (← s.step?) else pure s
    | _ => do readyWithin fuel (← s.step?)

/-- The next token, which stays there. -/
def peek? (s : Scanner) : Option (Token × Scanner) := do
  let s ← readyWithin s.source.limit s
  let t ← s.pending.head?
  pure (t, s)

/-- The scanner after its next token, which does not wait any more. -/
def advance (s : Scanner) : Scanner :=
  { s with
    pending := s.pending.tail
    taken := s.taken + 1
    waiting := s.waiting.filter (s.taken < ·.1) }

end Scanner

end CqlWriter.Yaml
