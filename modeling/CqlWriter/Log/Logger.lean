import CqlWriter.Fault
import CqlWriter.Host

/-!
# Loggers

A logger is set up once, with a level, a form of lines and a destination. Hooks that are registered
before are called then, each of them logging records of its own. Before the setup records are
written plainly to the error stream; after a log file is closed they are dropped.
-/

namespace CqlWriter.Log

/-- What a logger is set up with: texts as they are given. -/
structure Options where
  level : Text
  format : Text
  output : Text
  deriving DecidableEq, Repr

/-- Where log lines go. -/
inductive Destination where
  | out
  | err
  | file (path : Text)
  deriving DecidableEq, Repr

/-- A log that is set up. Lines below its level are not written. -/
structure Journal where
  level : Level
  format : Format
  destination : Destination
  closed : Bool := false
  deriving DecidableEq, Repr

namespace Journal

/-- Write text to the destination. What cannot be written is lost. -/
def write (j : Journal) (t : Text) (h : Host) : Host :=
  match j.destination with
  | .out => { h with out := h.out ++ t }
  | .err => { h with err := h.err ++ t }
  | .file path =>
    if j.closed then h else
      match h.folder.append? path t with
      | some folder => { h with folder }
      | none => h

/-- What is written for a record. -/
def lines (j : Journal) (r : Record) : Text :=
  if j.level.rank ≤ r.level.rank then r.line j.format else []

/-- Log a record. -/
def log (j : Journal) (r : Record) (h : Host) : Host :=
  j.write (j.lines r) h

/-- The destination with a given name: one of the streams or the path of a file, which is made if it
is not there. A file that cannot be opened is replaced by the error stream. -/
def openDestination (output : Text) (h : Host) : Destination × Host :=
  let lower := output.lower
  if lower = "stdout" then (.out, h)
  else if lower.isEmpty || lower = "stderr" then (.err, h)
  else match h.folder.append? output [] with
  | some folder => (.file output, { h with folder })
  | none => (.err, h)

/-- The log that is asked for. -/
def ofOptions (o : Options) (h : Host) : Journal × Host :=
  let (destination, h) := openDestination o.output h
  ({ level := .ofName o.level, format := .ofName o.format, destination }, h)

end Journal

/-- What records are given to: a log, or as long as there is none the error stream. -/
inductive Sink where
  | plain
  | journal (j : Journal)
  deriving DecidableEq, Repr

/-- Log a record. -/
def Sink.log (r : Record) (h : Host) : Sink → Host
  | plain => h.note r
  | journal j => j.log r h

/-- What a hook does with the log that it is given. -/
inductive HookAction where
  | log (r : Record)
  /-- Log a record through the logger that is being set up. -/
  | logThrough (r : Record)
  /-- Register another hook. -/
  | register (name : Text) (actions : List HookAction)
  deriving Repr

instance : Coe Record HookAction := ⟨.log⟩

/-- Something to be done when a logger is set up: a name, and the actions in order. -/
structure Hook where
  name : Text
  actions : List HookAction
  deriving Repr

/-- A logger. -/
structure Logger where
  hooks : List Hook := []
  journal : Option Journal := none
  /-- The hooks that have been called, each with the log that it was given. -/
  calls : List (Hook × Journal) := []
  deriving Repr

namespace Logger

/-- Register a hook. It is called only by a later setup. -/
def addHook (l : Logger) (hook : Hook) : Logger :=
  { l with hooks := l.hooks ++ [hook] }

/-- The names of the hooks that have been called. -/
def fired (l : Logger) : List Text :=
  l.calls.map (·.1.name)

/-- What a logger gives its records to. -/
def sink (l : Logger) : Sink :=
  l.journal.elim .plain .journal

/-- Log a record. -/
def log (l : Logger) (r : Record) (h : Host) : Host :=
  l.sink.log r h

/-- The record that tells how a logger is set up. -/
def setupRecord (o : Options) : Record where
  level := .debug
  message := "logging initialized"
  attributes := [("level", .text o.level), ("format", .text o.format), ("output", .text o.output)]

/-- Do what a hook does with the log `j`. -/
def act (j : Journal) (s : Logger × Host) : HookAction → Logger × Host
  | .log r => (s.1, j.log r s.2)
  | .logThrough r => (s.1, s.1.log r s.2)
  | .register name actions => (s.1.addHook ⟨name, actions⟩, s.2)

/-- Call a hook with the log `j`. -/
def call (j : Journal) (s : Logger × Host) (hook : Hook) : Logger × Host :=
  hook.actions.foldl (act j) ({ s.1 with calls := s.1.calls ++ [(hook, j)] }, s.2)

/-- Set a logger up: the log is there before the hooks are called, and only the hooks that are
registered by then are called. A second setup does nothing. -/
def setup (l : Logger) (o : Options) (h : Host) : Logger × Host :=
  match l.journal with
  | some _ => (l, h)
  | none =>
    let (j, h) := Journal.ofOptions o h
    let (l, h) := l.hooks.foldl (call j) ({ l with journal := some j }, h)
    (l, j.log (setupRecord o) h)

/-- Close the log file, if there is one. It can be closed only once. -/
def close (l : Logger) : Logger × Option Fault :=
  match l.journal with
  | some j =>
    match j.destination with
    | .file path =>
      if j.closed then (l, some (.plain ("close " ++ path ++ ": file already closed")))
      else ({ l with journal := some { j with closed := true } }, none)
    | _ => (l, none)
  | none => (l, none)

end Logger

end CqlWriter.Log
