import CqlWriter.Yaml.Source

/-!
# Comments

A comment goes from `#` to the end of its line. Behind a token, and behind another comment, the next
comment is looked for from there, over blanks of every kind and for some characters only. So a tab
may stand before it even where a tab could not stand before a token.
-/

namespace CqlWriter.Yaml.Reading

/-- How many characters ahead a comment is looked for. -/
def commentReach : Nat := 512

/-- Look for a comment after `n` characters, among the next `room` of those that are left, which
are `cs`. Blanks may come before it, and line breaks if `lines` is set. A line break that takes more
than a byte ends the search. The answer is the number of characters before the comment. -/
def findComment (lines : Bool) : (room n : Nat) → (cs : List Char) → Reading (Option Nat)
  | 0, _, _ => pure none
  | room + 1, n, cs => do
    need (n + 1)
    let c := cs.headD endChar
    if c = '#' then pure (some n)
    else if isBlank c || (lines && isBreak c && c.utf8Size = 1) then
      findComment lines room (n + 1) cs.tail
    else
      if lines && isBreak c && 0 < room then need (n + 2)
      pure none

/-- Pass over everything before the character with number `start`, and then over the rest of the
line. -/
def skipCommentWithin (start : Nat) : (fuel : Nat) → Reading Unit
  | 0 => failure
  | fuel + 1 => do
    need 1
    if isBreakOrEnd (← char) then
      if (← mark).index < start then
        need 2
        skipLine
        skipCommentWithin start fuel
      else pure ()
    else
      skip
      skipCommentWithin start fuel

/-- Pass over a comment that starts after `n` characters. -/
def skipComment (n : Nat) : Reading Unit := do
  skipCommentWithin ((← mark).index + n) (← get).limit

/-- Pass over a comment behind a token, on the same line. -/
def lineComment : Reading Unit := do
  let s ← get
  if s.newLine then pure ()
  else
    match ← findComment false commentReach 0 s.rest with
    | some n => skipComment n
    | none => pure ()

/-- Pass over a comment that starts after `n` characters, and over those that follow it. -/
def commentsWithin : (fuel n : Nat) → Reading Unit
  | 0, _ => failure
  | fuel + 1, n => do
    skipComment n
    let s ← get
    if isBreak s.char && 1 < s.char.utf8Size then need 2
    else
      match ← findComment true (commentReach - 1) 1 s.rest.tail with
      | some n => commentsWithin fuel n
      | none => pure ()

/-- Pass over the comment that starts here, and over those that follow it. -/
def comments : Reading Unit := do
  commentsWithin (← get).limit 0

end CqlWriter.Yaml.Reading
