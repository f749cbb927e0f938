import CqlWriter.Files.Folder
import CqlWriter.Log.Record

/-!
# The host of a run

What a run of the program meets outside itself: environment variables, the working folder, and the
two standard streams that log lines go to.
-/

namespace CqlWriter

/-- The surroundings of a run. The streams hold what has been written to them so far. -/
structure Host where
  env : List (Text × Text)
  folder : Folder
  out : Text := []
  err : Text := []
  deriving Repr

namespace Host

/-- The value of an environment variable; an empty one counts as absent. -/
def envValue? (h : Host) (name : Text) : Option Text :=
  (h.env.lookup name).filter (!·.isEmpty)

/-- Set an environment variable, or take it away. -/
def setVariable (h : Host) (name : Text) (value : Option Text) : Host :=
  let others := h.env.filter (·.1 ≠ name)
  { h with env := match value with
    | some v => (name, v) :: others
    | none => others }

/-- Write a record plainly to the error stream, as is done as long as no log is set up. Records for
debugging are not written. -/
def note (h : Host) (r : Log.Record) : Host :=
  if Log.Level.info.rank ≤ r.level.rank then { h with err := h.err ++ r.plainLine } else h

end Host

end CqlWriter
