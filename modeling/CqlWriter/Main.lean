import CqlWriter.Command.Needs

/-!
# The program

The outer layer: it fetches what a run needs, lets the run happen, and carries out what the run has
written.
-/

namespace CqlWriter.Program

open Command

/-- Fetch environment variables. -/
def environment (names : List Text) : IO (List (Text × Text)) :=
  names.filterMapM fun name => do
    pure ((← IO.getEnv name.shown).map fun value => (name, Text.ofString value))

/-- Fetch the file or the folder at a path. Where there is none, the folder that it would be in is
fetched. -/
def fetch (d : Folder) (path : Text) : IO Folder := do
  let folderAt (p : Text) : IO Bool := do
    try (← IO.FS.realPath p.shown).isDir catch _ => pure false
  let withFolder (p : Text) : IO Folder := do
    if ← folderAt p then pure { d with folders := d.folders ++ [d.wayOf p] } else pure d
  if path.isEmpty then pure d
  else if ← folderAt path then withFolder path
  else
    try
      let bytes ← IO.FS.readBinFile path.shown
      pure (d.put (d.wayOf path) bytes.toList)
    catch _ => withFolder (Path.folder path)

/-- Append what was added to the files of a folder. -/
def store (before after : Folder) : IO Unit :=
  after.files.forM fun (way, content) => do
    let old := (before.files.lookup way).getD []
    let path : Text := "/" ++ Text.join "/" way
    if (before.files.lookup way).isNone || old.length < content.length then
      let handle ← IO.FS.Handle.mk path.shown .append
      handle.write (content.drop old.length).toByteArray

/-- Carry out what a run has written, and forget it. -/
def carryOut (before : Folder) (s : Session) : IO Session := do
  (← IO.getStderr).write s.host.err.toByteArray
  (← IO.getStdout).write (s.host.out ++ s.output).toByteArray
  (← IO.getStdout).flush
  store before s.host.folder
  pure { s with output := [], host := { s.host with out := [], err := [] } }

/-- Do a job and carry out what it has written. -/
def act (job : Job α) (s : Session) : IO (Except Settings.ConfigFile.Stop α × Session) := do
  let (result, after) := job.run.run s
  pure (result, ← carryOut s.host.folder after)

/-- Render files again whenever they change, until something stops the run. -/
partial def watchFiles (files : List Text) (s : Session) :
    IO (Settings.ConfigFile.Stop × Session) := do
  IO.sleep 500
  let folder ← files.foldlM fetch s.host.folder
  let changed := files.filter fun f => (folder.read f).toOption ≠ (s.host.folder.read f).toOption
  let (result, s) ← act (changed.forM renderAgain) { s with host := { s.host with folder } }
  match result with
  | .ok _ => watchFiles files s
  | .error stop => pure (stop, s)

/-- The exit code of a run that has ended, after what stopped it is logged. -/
def conclude (result : Except Settings.ConfigFile.Stop Unit) (s : Session) : IO UInt32 :=
  match result with
  | .ok _ => pure 0
  | .error .exit => pure 1
  | .error (.fault f) => do
    let _ ← act (Job.log (failedRecord f)) s
    pure 1
  | .error (.crash cause) => do
    (← IO.getStderr).write (cause ++ "\n").toByteArray
    pure 2

/-- Fetch the host of a run. -/
def host (args : List Text) : IO Host := do
  let path := Text.ofString (← IO.currentDir).toString
  let env ← environment settingVariables
  let h : Host := { env, folder := { path, files := [] } }
  let h := { h with env := h.env ++ (← environment (folderVariables args h)) }
  let folder ← (documentPaths args ++ configPaths args h).foldlM fetch h.folder
  let h := { h with folder }
  pure { h with folder := ← fetch h.folder (logPath args h) }

end CqlWriter.Program

/-- Run the program. -/
def main (args : List String) : IO UInt32 := do
  let args := args.map CqlWriter.Text.ofString
  let host ← CqlWriter.Program.host args
  let (result, s) ← CqlWriter.Program.act (CqlWriter.Command.start args)
    { documents := .disk, host }
  match result with
  | .error stop => CqlWriter.Program.conclude (.error stop) s
  | .ok (.watching files) =>
    let (stop, s) ← CqlWriter.Program.watchFiles files s
    CqlWriter.Program.conclude (.error stop) s
  | .ok progress =>
    let (result, s) ← CqlWriter.Program.act (CqlWriter.Command.finish progress) s
    CqlWriter.Program.conclude result s
