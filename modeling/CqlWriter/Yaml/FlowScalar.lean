import CqlWriter.Yaml.Folding

/-!
# Plain and quoted scalars

A plain scalar goes on over lines that are indented deep enough, up to a comment or an indicator. A
scalar between single quotes writes a quote twice, and one between double quotes has escapes. In all
three the lines are folded.
-/

namespace CqlWriter.Yaml

/-- Whether a character, before `next`, ends a plain scalar. -/
def endsPlain (flow : Bool) (c next : Char) : Bool :=
  (c = ':' && isGap next) || (flow && [',', '?', '[', ']', '\x7b', '\x7d'].contains c)

/-- The character that a one-letter escape stands for. -/
def escaped? (c : Char) : Option Char :=
  [('0', '\x00'), ('a', '\x07'), ('b', '\x08'), ('t', '\t'), ('\t', '\t'), ('n', '\n'),
    ('v', '\x0b'), ('f', '\x0c'), ('r', '\r'), ('e', '\x1b'), (' ', ' '), ('"', '"'),
    ('\'', '\''), ('\\', '\\'), ('N', '\u0085'), ('_', '\u00a0'), ('L', '\u2028'),
    ('P', '\u2029')].lookup c

/-- The number of hexadecimal digits after the letter of an escape. -/
def escapeWidth? (c : Char) : Option Nat :=
  [('x', 2), ('u', 4), ('U', 8)].lookup c

namespace Reading

/-! ### Plain scalars -/

/-- Read a word of a plain scalar. The characters in `read`, the latest first, come before it. -/
def plainWord (flow : Bool) : (fuel : Nat) → (read : List Char) → Reading (List Char)
  | 0, _ => failure
  | fuel + 1, read => do
    let s ← get
    if isGap s.char || endsPlain flow s.char s.next then pure read
    else
      skip
      need 2
      plainWord flow fuel (s.char :: read)

/-- Read the words of a plain scalar after a gap. The characters in `read`, the latest first, come
before the gap. The answer tells whether the scalar is followed by a line break. -/
def plainWithin (flow : Bool) (indent : Nat) :
    (fuel : Nat) → (read : List Char) → Gap → Reading (List Char × Bool)
  | 0, _, _ => failure
  | fuel + 1, read, before => do
    need 4
    let s ← get
    if s.atDocumentMarker || s.char = '#' then pure (read.reverse, before.broken)
    else
      let word ← plainWord flow s.limit []
      if word.isEmpty then pure (read.reverse, before.broken)
      else
        let read := word ++ before.text.reverse ++ read
        let c ← char
        if !(isBlank c || isBreak c) then pure (read.reverse, false)
        else
          let next ← gap indent false
          if !flow && (← mark).column < indent then pure (read.reverse, next.broken)
          else plainWithin flow indent fuel read next

/-- Read a plain scalar. Outside flow collections its lines are indented by at least `indent`. The
answer tells whether it is followed by a line break. -/
def plain (flow : Bool) (indent : Nat) : Reading (List Char × Bool) := do
  plainWithin flow indent (← get).limit [] {}

/-! ### Quoted scalars -/

/-- Read the digits of an escape. -/
def escapeDigits (width : Nat) : Reading Char := do
  need width
  let digits := (← get).rest.take width
  if digits.length < width then failure
  let c ← (hexNumber? digits).bind (Glyph.code? 0)
  skipMany width
  pure c

/-- Read an escape from its backslash on. -/
def escape : Reading Char := do
  let c := (← get).next
  match escaped? c with
  | some e =>
    skipMany 2
    pure e
  | none =>
    let width ← escapeWidth? c
    skipMany 2
    escapeDigits width

/-- Read a word of a quoted scalar. The characters in `read`, the latest first, come before it. The
answer tells whether the word ends with an escaped line break. -/
def quotedWord (single : Bool) : (fuel : Nat) → (read : List Char) → Reading (List Char × Bool)
  | 0, _ => failure
  | fuel + 1, read => do
    let s ← get
    let c := s.char
    if isGap c || (!single && c = '"') then pure (read, false)
    else if single && c = '\'' then
      if s.next = '\'' then
        skipMany 2
        need 2
        quotedWord single fuel ('\'' :: read)
      else pure (read, false)
    else if !single && c = '\\' then
      if isBreak s.next then
        need 3
        skip
        skipLine
        pure (read, true)
      else
        let e ← escape
        need 2
        quotedWord single fuel (e :: read)
    else
      skip
      need 2
      quotedWord single fuel (c :: read)

/-- Read a quoted scalar after its opening quote. The characters in `read`, the latest first, have
been read of it. -/
def quotedWithin (single : Bool) : (fuel : Nat) → (read : List Char) → Reading (List Char)
  | 0, _ => failure
  | fuel + 1, read => do
    need 4
    let s ← get
    if s.atDocumentMarker || s.char = endChar then failure
    let (read, broken) ← quotedWord single s.limit read
    need 1
    if (← char) = (if single then '\'' else '"') then
      skip
      pure read.reverse
    else
      let g ← gap 0 broken
      let between := if broken then g.breaks else g.text
      quotedWithin single fuel (between.reverse ++ read)

/-- Read a quoted scalar from its opening quote on. -/
def quoted : Reading (List Char) := do
  let single := (← char) = '\''
  skip
  quotedWithin single (← get).limit []

end Reading

end CqlWriter.Yaml
