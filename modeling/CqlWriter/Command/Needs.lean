import CqlWriter.Command.Run

/-!
# What a run needs

The environment variables and files that a run may look at are known before it starts, from its
command line on. So the outer layer can fetch them, and the run itself is a function of what was
fetched.
-/

namespace CqlWriter.Command

open Settings

/-- The environment variables that settings have. -/
def settingVariables : List Text :=
  outputFormat.envNames ++ watch.envNames ++ ConfigFile.folders.envNames
  ++ ConfigFile.type.envNames ++ ConfigFile.name.envNames ++ ConfigFile.file.envNames
  ++ Logging.level.envNames ++ Logging.format.envNames ++ Logging.output.envNames

/-- The settings of a command line, before the configuration file is loaded. -/
def Line.store (l : Line) (h : Host) : Store :=
  (bindFlags l.parsed.flags settings h).1

/-- The environment variables in the folders in which the configuration file is looked for. -/
def folderVariables (args : List Text) (h : Host) : List Text :=
  let folders := ConfigFile.folders.get ((Line.ofArguments args).store h) h
  (folders.getD []).flatMap Text.variableNames

/-- The paths at which the configuration file may be. -/
def configPaths (args : List Text) (h : Host) : List Text :=
  match ConfigFile.prepare? ((Line.ofArguments args).store h) h with
  | none => []
  | some s =>
    if s.search.file.isEmpty then s.search.folders.flatMap s.search.candidates else [s.search.file]

/-- The paths of the documents. -/
def documentPaths (args : List Text) : List Text :=
  let line := Line.ofArguments args
  if line.action.any Action.takesFiles then line.parsed.arguments else []

/-- The path of the log file, if the configuration asks for one. -/
def logPath (args : List Text) (h : Host) : Text :=
  let (s, h, _) := ConfigFile.load ((Line.ofArguments args).store h) h
  (Logging.options s h).output

end CqlWriter.Command
