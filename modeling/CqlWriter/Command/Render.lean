import CqlWriter.Command.Session
import CqlWriter.Json.Layout

/-!
# Rendering

The statements of documents are printed, in lines of text or as a JSON document.
-/

namespace CqlWriter.Command

/-- Documents as text: the statements of each, and nothing for one that has none. -/
def renderedText (documents : List Loaded) : Text :=
  documents.flatMap fun d =>
    if d.statements.isEmpty then [] else Statement.script d.statements ++ "\n"

/-- A statement as JSON. -/
def statementTree (s : Statement) : Json.Tree :=
  .record [("type", .text s.kind), ("cql", .text s.cql)]

/-- A document as JSON. -/
def documentTree (d : Loaded) : Json.Tree :=
  .record [("file", .text d.file), ("statements", .list (d.statements.map statementTree))]

/-- Documents as JSON. -/
def renderedTree (documents : List Loaded) : Json.Tree :=
  .list (documents.map documentTree)

/-- Documents in a form. -/
def rendered (documents : List Loaded) : OutputFormat → Text
  | .text => renderedText documents
  | .json => (renderedTree documents).layout

/-- Print the statements of documents. Nothing is printed unless all of them can be loaded. -/
def renderFiles (files : List Text) : Job Unit := do
  let documents ← loadDocuments files
  Job.print (rendered documents (← chosenFormat))

/-! ### Watching -/

/-- The folders that files are in, each once. -/
def foldersOf (base : Text) (files : List Text) : List Text :=
  (files.map fun f => Path.folder (Path.absolute base f)).eraseDups

/-- The record about files that are watched. -/
def watchingRecord (base : Text) (files : List Text) : Log.Record where
  level := .info
  message := "watching statement documents"
  attributes := [("files", .number files.length), ("dirs", .number (foldersOf base files).length)]

/-- The record about the end of watching. -/
def watchedRecord : Log.Record where
  level := .debug
  message := "stopped watching statement documents"

/-- The record about a changed file that cannot be rendered. -/
def changedRecord (file : Text) (f : Fault) : Log.Record where
  level := .error
  message := "failed to render changed document"
  attributes := [("file", .text file), ("error", .text f.text)]

/-- Render a file again. A fault is logged and does not stop the run. -/
def renderAgain (file : Text) : Job Unit :=
  tryCatch (renderFiles [file]) fun
    | .fault f => Job.log (changedRecord file f)
    | stop => throw stop

/-- Render files, and start to watch them if the settings ask for it. Only files on disk can be
watched. The answer tells whether they are. -/
def render (files : List Text) : Job Bool := do
  let watched ← Job.setting watch
  match watched, (← get).documents with
  | true, .memory _ =>
    Job.fail (.plain "--watch requires the OS filesystem, documents are read from MemMapFS")
  | _, _ => do
    renderFiles files
    if watched then Job.log (watchingRecord (← get).host.folder.path files)
    pure watched

end CqlWriter.Command
