import CqlWriter.Yaml.Source

/-!
# Folded lines

Inside a flow scalar the line breaks and the blanks around them are folded: one break becomes a
space, and of several breaks all but the first are kept.
-/

namespace CqlWriter.Yaml

/-- The blanks and line breaks between two words of a scalar: the blanks before the first break, and
what each break contributes. -/
structure Gap where
  blanks : List Char := []
  breaks : List Char := []

namespace Gap

/-- Whether a gap goes over the end of a line. -/
def broken (g : Gap) : Bool :=
  !g.breaks.isEmpty

/-- The text that a gap leaves between two words. -/
def text (g : Gap) : List Char :=
  match g.breaks with
  | [] => g.blanks
  | '\n' :: [] => [' ']
  | '\n' :: more => more
  | breaks => breaks

end Gap

namespace Reading

/-- Read the rest of a gap, of which the given blanks and breaks, the latest first, have been read.
If `broken` is set there was a break before it. After a break a tab may not stand in the columns
below `indent`. -/
def gapWithin (indent : Nat) (broken : Bool) : (fuel : Nat) → (blanks breaks : List Char) →
    Reading Gap
  | 0, _, _ => failure
  | fuel + 1, blanks, breaks => do
    let c ← char
    let afterBreak := broken || !breaks.isEmpty
    if isBlank c then
      if afterBreak && c = '\t' && (← mark).column < indent then failure
      skip
      need 1
      gapWithin indent broken fuel (if afterBreak then blanks else c :: blanks) breaks
    else if isBreak c then
      need 2
      let read ← readLine
      need 1
      gapWithin indent broken fuel blanks (read ++ breaks)
    else pure ⟨blanks.reverse, breaks.reverse⟩

/-- Read a gap. If `broken` is set there was a break before it. After a break a tab may not stand in
the columns below `indent`. -/
def gap (indent : Nat) (broken : Bool) : Reading Gap := do
  need 1
  gapWithin indent broken (← get).limit [] []

end Reading

end CqlWriter.Yaml
