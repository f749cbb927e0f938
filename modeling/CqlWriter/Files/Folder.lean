import CqlWriter.Files.Path

/-!
# Files

Where files are read from and written to: a working folder with the folders inside it, or a store in
memory, which knows its files by their clean paths.
-/

namespace CqlWriter

/-- Why a file cannot be read. The path is the one that the failure names. -/
inductive ReadFailure where
  /-- There is no such file in the working folder. -/
  | missing (path : Text)
  /-- There is no such file in memory. -/
  | unknown (path : Text)
  /-- The path goes through a file as if that were a folder. -/
  | throughFile (path : Text)
  /-- The path leads to a folder. -/
  | isFolder (path : Text)
  /-- The path contains a zero byte. -/
  | malformed (path : Text)
  /-- The path, or a name in it, is too long. -/
  | tooLong (path : Text)
  deriving DecidableEq, Repr

namespace ReadFailure

/-- The text of a failure. -/
def message : ReadFailure → Text
  | missing p => "open " ++ p ++ ": no such file or directory"
  | unknown p => "open " ++ p ++ ": file does not exist"
  | throughFile p => "open " ++ p ++ ": not a directory"
  | isFolder p => "read " ++ p ++ ": is a directory"
  | malformed p => "open " ++ p ++ ": invalid argument"
  | tooLong p => "open " ++ p ++ ": file name too long"

/-- Whether the file does not exist at all. -/
def isMissing : ReadFailure → Bool
  | missing _ | unknown _ => true
  | throughFile _ | isFolder _ | malformed _ | tooLong _ => false

end ReadFailure

/-! ### The working folder -/

/-- A working folder: its own path, and the files and folders that are known. A file or a folder is
known by the names on the way to it from the root. -/
structure Folder where
  path : Text
  files : List (List Text × Text)
  folders : List (List Text) := []
  deriving DecidableEq, Repr

namespace Folder

/-- Where a path leads. -/
inductive Place where
  | file (key : List Text) (content : Text)
  | folder
  /-- The null device: it has no content, and what is written to it is lost. -/
  | sink
  /-- Nothing is there, but a file could be made. -/
  | free (key : List Text)
  /-- Not even the folder is there. -/
  | nowhere
  /-- A file is on the way. -/
  | blocked
  /-- The path contains a zero byte. -/
  | malformed
  /-- The path, or a name that is met on the way, is too long. -/
  | tooLong
  deriving DecidableEq, Repr

/-- The way to the working folder. -/
def way (d : Folder) : List Text :=
  Path.parts d.path

/-- The folder of the null device. -/
def deviceFolder : List Text := ["dev"]

/-- The way to the null device. -/
def nullDevice : List Text := ["dev", "null"]

/-- Whether a way leads to a folder: one that is known, or one on the way to something known. -/
def hasFolder (d : Folder) (way : List Text) : Bool :=
  way.isPrefixOf d.way || way = deviceFolder || d.folders.any (way.isPrefixOf ·)
  || d.files.any fun f => way.isPrefixOf f.1 && way.length < f.1.length

/-- The length of the longest name of a file or a folder. -/
def longestName : Nat := 255

/-- The length of the longest path. -/
def longestPath : Nat := 4095

/-- Follow the parts of a path from a folder. The root is the folder above itself. -/
def follow (d : Folder) : (way : List Text) → List Text → Place
  | _, [] => .folder
  | way, part :: rest =>
    if part.isEmpty || part = "." then follow d way rest
    else if part = ".." then follow d way.dropLast rest
    else if longestName < part.length then .tooLong
    else
      let next := way ++ [part]
      if next = nullDevice then (if rest.isEmpty then .sink else .blocked)
      else match d.files.lookup next with
      | some content => if rest.isEmpty then .file next content else .blocked
      | none =>
        if d.hasFolder next then follow d next rest
        else if rest.isEmpty then .free next
        else .nowhere

/-- Whether a path does not start in the working folder: at the root, or with the path of the
working folder itself. -/
def isWhole (d : Folder) (p : Text) : Bool :=
  Path.isAbsolute p || p = d.path || (d.path ++ "/").isPrefixOf p

/-- Where a path leads. -/
def find (d : Folder) (p : Text) : Place :=
  if p.isEmpty then .nowhere
  else if p.contains 0 then .malformed
  else if longestPath < p.length then .tooLong
  else d.follow (if d.isWhole p then [] else d.way) (Text.split Path.slash p)

/-- Whether a path leads to a file. -/
def hasFile (d : Folder) (p : Text) : Bool :=
  match d.find p with
  | .file .. | .sink => true
  | _ => false

/-- Read a file. -/
def read (d : Folder) (p : Text) : Except ReadFailure Text :=
  match d.find p with
  | .file _ content => .ok content
  | .sink => .ok []
  | .folder => .error (.isFolder p)
  | .blocked => .error (.throughFile p)
  | .malformed => .error (.malformed p)
  | .tooLong => .error (.tooLong p)
  | .free _ | .nowhere => .error (.missing p)

/-- Put the content of a file in place. -/
def put (d : Folder) (key : List Text) (content : Text) : Folder :=
  if d.files.any (·.1 = key) then
    { d with files := d.files.map fun f => if f.1 = key then (key, content) else f }
  else { d with files := d.files ++ [(key, content)] }

/-- Append to a file, which is made if there is none. Nothing is done where no file can be. -/
def append? (d : Folder) (p text : Text) : Option Folder :=
  match d.find p with
  | .file key content => some (d.put key (content ++ text))
  | .free key => some (d.put key text)
  | .sink => some d
  | _ => none

/-- The way that a path stands for. -/
def wayOf (d : Folder) (p : Text) : List Text :=
  if d.isWhole p then Path.parts p else Path.parts (d.path ++ "/" ++ p)

/-- A working folder with files at the given paths. -/
def ofFiles (path : Text) (files : List (Text × Text)) : Folder :=
  let d : Folder := { path, files := [] }
  { d with files := files.map fun (p, content) => (d.wayOf p, content) }

/-- The files in the working folder that are there now and were not there `before`, each with its
path. -/
def newFiles (d before : Folder) : List (Text × Text) :=
  (d.files.filter fun f => d.way.isPrefixOf f.1 && (before.files.lookup f.1).isNone).map
    fun (key, content) => (Text.join "/" (key.drop d.way.length), content)

end Folder

/-! ### Files in memory -/

/-- Files in memory, each with its path. -/
abbrev MemoryFiles := List (Text × Text)

namespace MemoryFiles

/-- The clean form of a path, where the current folder and the one above are the root. -/
def normal (p : Text) : Text :=
  let c := Path.clean p
  if c = "." || c = ".." then "/" else c

/-- Whether a clean path leads to a folder that a file is in. -/
def isFolder (files : MemoryFiles) (p : Text) : Bool :=
  p = "/" || files.any fun f => (p ++ "/").isPrefixOf (normal f.1)

/-- Read a file. A folder is read as if it were empty. -/
def read (files : MemoryFiles) (p : Text) : Except ReadFailure Text :=
  let p := normal p
  match files.find? fun f => normal f.1 = p with
  | some f => .ok f.2
  | none => if files.isFolder p then .ok [] else .error (.unknown p)

end MemoryFiles

end CqlWriter
