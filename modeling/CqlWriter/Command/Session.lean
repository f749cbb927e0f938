import CqlWriter.Command.Line
import CqlWriter.Document.Build

/-!
# Sessions

A session is one run of the program. Its state is all that the run can change: settings, the log,
the host and what has been printed. A job is a part of a run; it may stop the run, and what it did
before that stays done.
-/

namespace CqlWriter.Command

open Settings

/-- Where documents are read from. -/
inductive Documents where
  /-- The files of the host. -/
  | disk
  | memory (files : MemoryFiles)
  deriving Repr

/-- Read a document. -/
def Documents.read (d : Documents) (h : Host) (file : Text) : Except ReadFailure Text :=
  match d with
  | .disk => h.folder.read file
  | .memory files => files.read file

/-- The state of a run. -/
structure Session where
  documents : Documents
  host : Host
  store : Store := settings
  logger : Log.Logger := {}
  /-- What has been printed. -/
  output : Text := []

/-- A part of a run. -/
abbrev Job (α : Type) := ExceptT ConfigFile.Stop (StateM Session) α

namespace Job

/-- Stop with a fault. -/
def fail (f : Fault) : Job α :=
  throw (.fault f)

/-- Print a text. -/
def print (t : Text) : Job Unit :=
  modify fun s => { s with output := s.output ++ t }

/-- Log a record. -/
def log (r : Log.Record) : Job Unit :=
  modify fun s => { s with host := s.logger.log r s.host }

/-- The value of a setting. -/
def setting (x : Setting α) : Job α := do
  let s ← get
  pure (x.get s.store s.host)

/-- Load the configuration file. -/
def loadConfig : Job Unit := do
  let s ← get
  let (store, host, stop) := ConfigFile.load s.store s.host
  set { s with store, host }
  match stop with
  | some stop => throw stop
  | none => pure ()

/-- Set the log up. -/
def setupLog : Job Unit :=
  modify fun s =>
    let (logger, host) := s.logger.setup (Logging.options s.store s.host) s.host
    { s with logger, host }

/-- Close the log. -/
def closeLog : Job Unit := do
  let s ← get
  let (logger, fault) := s.logger.close
  set { s with logger }
  match fault with
  | some f => fail f
  | none => pure ()

end Job

/-! ### Output format -/

/-- The forms of the output. -/
inductive OutputFormat where
  | text
  | json
  deriving DecidableEq, Repr

/-- The form with a name in any case. -/
def OutputFormat.ofName? (name : Text) : Option OutputFormat :=
  let lower := name.lower
  if lower = "text" then some .text else if lower = "json" then some .json else none

/-- The form of the output that the settings ask for. -/
def chosenFormat : Job OutputFormat := do
  let name ← Job.setting outputFormat
  match OutputFormat.ofName? name with
  | some format => pure format
  | none => Job.fail (.plain ("unknown output format " ++ name.quoted ++ " (want text or json)"))

/-! ### Documents -/

/-- The record about a document that is loaded. -/
def loadedRecord (file : Text) (statements : List Statement) : Log.Record where
  level := .debug
  message := "loaded statement document"
  attributes := [("file", .text file), ("statements", .number statements.length)]

/-- How a problem with a document ends a run. -/
def stopOf (p : Document.Problem) : ConfigFile.Stop :=
  p.crash?.elim (.fault p.fault) .crash

/-- The statements of a document, or why there are none. -/
def Documents.statements (d : Documents) (h : Host) (file : Text) :
    Except ConfigFile.Stop (List Statement) := do
  let bytes ← (d.read h file).mapError fun f =>
    .fault (.wrap .unreadableFile (.plain f.message) [.text file])
  (Document.parse bytes).mapError stopOf

/-- A document that is loaded. -/
structure Loaded where
  file : Text
  statements : List Statement

/-- Tell with which file a run ends. -/
def stopWithin (file : Text) : ConfigFile.Stop → ConfigFile.Stop
  | .fault f => .fault (.within file f)
  | stop => stop

/-- Load a document. -/
def loadDocument (file : Text) : Job Loaded := do
  let s ← get
  match s.documents.statements s.host file with
  | .error stop => throw (stopWithin file stop)
  | .ok statements =>
    Job.log (loadedRecord file statements)
    pure ⟨file, statements⟩

/-- Load documents, in order. -/
def loadDocuments (files : List Text) : Job (List Loaded) :=
  files.mapM loadDocument

end CqlWriter.Command
