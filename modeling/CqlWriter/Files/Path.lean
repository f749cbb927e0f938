import CqlWriter.Text.Basic

/-!
# Paths

A path is a text in which slashes divide the names of folders. A clean path has no empty parts, no
parts `.`, and parts `..` only in front.
-/

namespace CqlWriter.Path

/-- The byte that divides the parts of a path. -/
def slash : UInt8 := Text.byte '/'

/-- Whether a path starts at the root. -/
def isAbsolute (p : Text) : Bool :=
  p.head? = some slash

/-- The parts of a path that are left when each `..` takes back the part before it. The parts met so
far come last first. -/
def settle (absolute : Bool) : (done : List Text) → List Text → List Text
  | done, [] => done.reverse
  | done, part :: rest =>
    if part.isEmpty || part = "." then settle absolute done rest
    else if part = ".." then
      match done with
      | [] => settle absolute (if absolute then [] else [part]) rest
      | last :: before =>
        if last = ".." then settle absolute (part :: done) rest else settle absolute before rest
    else settle absolute (part :: done) rest

/-- The parts of a clean path. -/
def parts (p : Text) : List Text :=
  settle (isAbsolute p) [] (Text.split slash p)

/-- The clean form of a path. An empty path is the current folder. -/
def clean (p : Text) : Text :=
  let inner := Text.join "/" (parts p)
  if isAbsolute p then slash :: inner else if inner.isEmpty then "." else inner

/-- The clean path of `p` as seen from the folder `base`. -/
def join (base p : Text) : Text :=
  clean (base ++ "/" ++ p)

/-- A clean absolute path for `p`, which is relative to `base` unless it is absolute. -/
def absolute (base p : Text) : Text :=
  if isAbsolute p then clean p else join base p

/-- The folder that a path is in. -/
def folder (p : Text) : Text :=
  clean ((p.reverse.dropWhile (· ≠ slash)).reverse)

/-- The extension of the last name of a path: what stands behind its last point, if it has one. -/
def extension (p : Text) : Text :=
  let last := (p.reverse.takeWhile (· ≠ slash)).reverse
  if last.contains (Text.byte '.') then (last.reverse.takeWhile (· ≠ Text.byte '.')).reverse
  else []

end CqlWriter.Path
