import CqlWriter.Fault
import CqlWriter.Settings.JsonTable
import CqlWriter.Settings.Store
import CqlWriter.Settings.YamlTable
import CqlWriter.Text.Variables

/-!
# Configuration files

A configuration file is given by its path, or it is looked for by its name in some folders. Settings
tell where, and what is done when it is not found.
-/

namespace CqlWriter.Settings

/-! ### Content -/

mutual

/-- A value of a mixed table, with keys in lower case. A list stays as it is. -/
def Value.lowerTables : Value → Value
  | .map entries | .mixed entries => .map (Value.lowerInner entries)
  | v => v

/-- The entries of a mixed table with keys in lower case. The keys in its lists stay as they are. -/
def Value.lowerInner : List (Text × Value) → Table
  | [] => []
  | (key, v) :: rest => (key.lower, v.lowerTables) :: Value.lowerInner rest

end

mutual

/-- A value whose keys are in lower case, also inside of lists that are not in a mixed table. -/
def Value.lowerKeys : Value → Value
  | .map entries => .map (Value.lowerEntries entries)
  | .mixed entries => .map (Value.lowerInner entries)
  | .list items => .list (Value.lowerItems items)
  | v => v

/-- The items of a list with keys in lower case. -/
def Value.lowerItems : List Value → List Value
  | [] => []
  | v :: rest => v.lowerKeys :: Value.lowerItems rest

/-- The entries of a table with keys in lower case. -/
def Value.lowerEntries : List (Text × Value) → Table
  | [] => []
  | (key, v) :: rest => (key.lower, v.lowerKeys) :: Value.lowerEntries rest

end

/-- The entries of a file with keys in lower case. -/
def Table.lower (t : Table) : Table :=
  (Value.lowerEntries t).foldl (fun done (key, v) => Table.set done key v) []

/-- The types of configuration files, in the order in which files are looked for. -/
def fileTypes : List Text :=
  ["json", "toml", "yaml", "yml", "properties", "props", "prop", "hcl", "tfvars", "dotenv", "env",
    "ini"]

/-- Why there is no configuration from a file. -/
inductive FileFailure where
  | notFound (name : Text) (folders : List Text)
  | unsupported (type : Text)
  | unreadable (cause : ReadFailure)
  | badYaml (cause : Yaml.Failure)
  | badJson (cause : JsonFailure)
  deriving Repr

namespace FileFailure

/-- The message about a failure. -/
def message : FileFailure → Text
  | notFound name folders =>
    "Config File " ++ name.quoted ++ " Not Found in "
      ++ Text.quoted ("[" ++ Text.join " " folders ++ "]")
  | unsupported type => "Unsupported Config Type " ++ type.quoted
  | unreadable cause => cause.message
  | badYaml cause => "While parsing config: " ++ cause.message
  | badJson cause => "While parsing config: " ++ cause.message

/-- What the program goes down with, if a failure is none that can be reported. -/
def crash? : FileFailure → Option Text
  | badYaml cause => cause.crash?
  | _ => none

/-- Whether there is no file. -/
def isMissing : FileFailure → Bool
  | notFound .. => true
  | unreadable cause => cause.isMissing
  | _ => false

end FileFailure

/-- The table in a file of a given type. Types other than YAML and JSON are not read: they hold
nothing. -/
def Table.ofFile (type bytes : Text) : Except FileFailure Table :=
  if type = "yaml" || type = "yml" then (Table.ofYaml bytes).mapError .badYaml
  else if type = "json" then (Table.ofJson bytes).mapError .badJson
  else .ok []

/-! ### Search -/

namespace FileSearch

/-- How a path in the home folder starts. -/
def home : Text := "$HOME"

/-- Add a folder, in which there may be variables. They may also be in the path of the home folder,
where that is the start. -/
def addFolder (h : Host) (s : FileSearch) (path : Text) : FileSearch :=
  let value (name : Text) : Text := (h.env.lookup name).getD []
  let start := if path = home || (home ++ "/").isPrefixOf path then home.length else 0
  let expanded := Text.expand value (Text.expand value (path.take start) ++ path.drop start)
  let folder := Path.absolute h.folder.path expanded
  if path.isEmpty || s.folders.contains folder then s
  else { s with folders := s.folders ++ [folder] }

/-- The paths at which a file may be in a folder, in their order. Without an extension only a file
whose type is known is looked for. -/
def candidates (s : FileSearch) (folder : Text) : List Text :=
  (fileTypes.map fun type => Path.join folder (s.name ++ "." ++ type))
  ++ if s.type.isEmpty then [] else [Path.join folder s.name]

/-- Find the file, unless one is in use. -/
def locate (s : FileSearch) (d : Folder) : Except FileFailure FileSearch :=
  if !s.file.isEmpty then .ok s
  else match (s.folders.flatMap s.candidates).find? d.hasFile with
  | some file => .ok { s with file }
  | none => .error (.notFound s.name s.folders)

/-- The type of the file: the one that is set, or else its extension. -/
def fileType (s : FileSearch) : Text :=
  if s.type.isEmpty then Path.extension s.file else s.type

/-- Read the file. Its type has to be one that is known. -/
def read (s : FileSearch) (d : Folder) : Except FileFailure Table := do
  if !fileTypes.contains s.fileType then throw (.unsupported s.fileType)
  let bytes ← (d.read s.file).mapError .unreadable
  pure (← Table.ofFile s.fileType bytes).lower

end FileSearch

/-- Find and read the configuration file. When that fails, the entries of the file before stay. -/
def Store.readFile (s : Store) (d : Folder) : Store × Option FileFailure :=
  match s.search.locate d with
  | .error f => (s, some f)
  | .ok search =>
    match search.read d with
    | .ok config => ({ s with search, config }, none)
    | .error f => ({ s with search }, some f)

/-! ### Settings about the file -/

namespace ConfigFile

/-- The folders in which the file is looked for. -/
def folders : Setting (Option (List Text)) where
  key := "config.paths"
  kind := .texts
  default := some ["."]
  flag := "config-path"
  envNames := ["CQL_CONFIG_PATH"]

/-- The type of the file. -/
def type : Setting Text where
  key := "config.type"
  kind := .text
  default := []
  flag := "config-type"
  envNames := ["CQL_CONFIG_TYPE"]

/-- The name of the file without its extension. -/
def name : Setting Text where
  key := "config.name"
  kind := .text
  default := "cqlrender"
  flag := "config-name"
  envNames := ["CQL_CONFIG_NAME"]

/-- The path of the file. -/
def file : Setting Text where
  key := "config.file"
  kind := .text
  default := []
  flag := "config-file"
  envNames := ["CQL_CONFIG_FILE"]

/-- The value of a handling setting, or a message about a text that names none. -/
def handlingOf : Option Value → Except Text Handling
  | some (.handling h) => .ok h
  | some (.int n) => .ok (.ofCode n)
  | some (.text t) => Handling.ofName t
  | _ => .ok .ignore

/-- What is done when the file is not found. -/
def handling : Setting Handling where
  key := "config.notfound.handling"
  kind := ⟨fun v => (handlingOf v).toOption.getD .ignore, .handling⟩
  default := .ignore
  flag := "config-file-not-found-handling"

/-- Make the settings about the file known to a store. -/
def configure (s : Store) : Store :=
  handling.configure (file.configure (name.configure (type.configure (folders.configure s))))

/-- The flags of the settings about the file. -/
def flags : FlagSet :=
  [ { name := folders.flag, value := .texts (folders.default.getD []) },
    { name := type.flag, value := .text type.default },
    { name := name.flag, value := .text name.default },
    { name := file.flag, value := .text file.default },
    { name := handling.flag, value := .handling handling.default } ]

/-- Let the flags give the values of the settings about the file. -/
def bind (fs : FlagSet) (s : Store) (h : Host) : Store × Host :=
  let (s, h) := folders.bind fs s h
  let (s, h) := type.bind fs s h
  let (s, h) := name.bind fs s h
  let (s, h) := file.bind fs s h
  handling.bind fs s h

/-! ### Loading -/

/-- Why a run does not go on. -/
inductive Stop where
  | fault (f : Fault)
  | exit
  /-- The program goes down instead of reporting a fault. -/
  | crash (cause : Text)
  deriving Repr

/-- The record about a text that names no handling. -/
def badHandling (problem : Text) : Log.Record where
  level := .warn
  message := "failed to parse " ++ handling.key ++ ": " ++ problem ++ "; defaulting to "
    ++ Handling.ignore.name

/-- The record about a missing file that is done without. -/
def missingFile (f : FileFailure) : Log.Record where
  level := .warn
  message := "config file not found, using flags and environment only"
  attributes := [("err", .text f.message)]

/-- The record about a missing file that is needed. -/
def neededFile (used : Text) (f : FileFailure) : Log.Record where
  level := .error
  message := "failed to read in config"
  attributes := [("file", .text used), ("err", .text f.message)]

/-- The store with the search that the settings ask for, or nothing if no file is asked for. -/
def prepare? (s : Store) (h : Host) : Option Store :=
  let path := file.get s h
  let title := name.get s h
  let kind := type.get s h
  if !path.isEmpty then some { s with search := { s.search with file := path } }
  else if title.isEmpty then none
  else
    let search := { s.search with name := title, file := [] }
    let search := ((folders.get s h).getD []).foldl (FileSearch.addFolder h) search
    some { s with search := if kind.isEmpty then search else { search with type := kind } }

/-- Deal with a file that is not found, as the settings say. -/
def handleMissing (s : Store) (h : Host) (f : FileFailure) : Host × Option Stop :=
  let stop := Stop.fault (.plain f.message)
  let (wanted, h) := match handlingOf (s.find? h handling.key) with
    | .ok wanted => (wanted, h)
    | .error problem => (.ignore, h.note (badHandling problem))
  match wanted with
  | .ignore => (h, none)
  | .warn => (h.note (missingFile f), none)
  | .error => (h.note (neededFile s.search.file f), some stop)
  | .exit => (h.note (neededFile s.search.file f), some .exit)
  | .other _ => (h, some stop)

/-- Load the configuration file. -/
def load (s : Store) (h : Host) : Store × Host × Option Stop :=
  match prepare? s h with
  | none => (s, h, none)
  | some s =>
    match s.readFile h.folder with
    | (s, none) => (s, h, none)
    | (s, some f) =>
      if f.isMissing then
        let (h, stop) := handleMissing s h f
        (s, h, stop)
      else (s, h, some (f.crash?.elim (.fault (.plain f.message)) .crash))

end ConfigFile

end CqlWriter.Settings
