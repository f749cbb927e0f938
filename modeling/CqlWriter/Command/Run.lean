import CqlWriter.Command.Render
import CqlWriter.Command.Values
import CqlWriter.Settings.Effective
import CqlWriter.Yaml.Printer

/-!
# Runs of the program

A run reads the command line, loads the configuration file, sets the log up and does what the
command asks for. Files that are watched keep a run going; when nothing is left to do it is
finished.
-/

namespace CqlWriter.Command

open Settings

/-! ### Settings in effect -/

/-- The settings in effect, or a fault about them. -/
def Session.effective (s : Session) : Except Fault Effective :=
  (Effective.ofTable (s.store.all s.host)).mapError fun ms =>
    .within "failed to decode settings" (.plain (Mismatch.report ms))

/-- The settings in effect as YAML, which is a configuration file again. -/
def effectiveYaml (e : Effective) : Text :=
  Yaml.entry "output-format" (Yaml.textValue e.outputFormat)
  ++ Yaml.entry "watch" (Yaml.flagValue e.watch)
  ++ Yaml.entry "log-level" (Yaml.textValue e.logLevel)
  ++ Yaml.entry "log-format" (Yaml.textValue e.logFormat)
  ++ Yaml.entry "log-output" (Yaml.textValue e.logOutput)

/-- Print the settings in effect. -/
def printConfig : Job Unit := do
  match (← get).effective with
  | .ok e => Job.print (effectiveYaml e)
  | .error f => Job.fail f

/-! ### Version and help -/

/-- The version of the program. -/
def version : Text := "0.1.0"

/-- What is printed about the version. -/
def versionText : Text :=
  programName ++ " " ++ version ++ "\n"

/-- A short help. -/
def helpText : Text :=
  "usage: cqlrender [flags] render FILE... | values FILE... | config | version\n"

/-! ### Runs -/

/-- What is left to do. -/
inductive Progress where
  /-- Nothing: help was printed. -/
  | helped
  /-- To finish. -/
  | done
  /-- To watch files, and then to finish. -/
  | watching (files : List Text)
  deriving DecidableEq, Repr

/-- Do what a command asks for. -/
def perform (action : Action) (arguments : List Text) : Job Progress :=
  match action with
  | .render => do if ← render arguments then pure (.watching arguments) else pure .done
  | .values => do
    printValues arguments
    pure .done
  | .config => do
    printConfig
    pure .done
  | .version => do
    Job.print versionText
    pure .done

/-- Start a run: everything but to watch and to finish. -/
def start (args : List Text) : Job Progress := do
  let line := Line.ofArguments args
  modify fun s =>
    let (store, host) := bindFlags line.parsed.flags s.store s.host
    { s with store, host }
  if let some failure := line.parsed.failure then Job.fail (.plain failure.message)
  match line.action, line.wantsHelp with
  | some action, false => do
    if let some f := argumentFault? action line.parsed.arguments then Job.fail f
    Job.loadConfig
    Job.setupLog
    let _ ← chosenFormat
    perform action line.parsed.arguments
  | _, _ => do
    Job.print helpText
    pure .helped

/-- Finish a run. -/
def finish : Progress → Job Unit
  | .helped => pure ()
  | .done => Job.closeLog
  | .watching _ => do
    Job.log watchedRecord
    Job.closeLog

/-- A whole run in which no file changes. -/
def run (args : List Text) : Job Unit := do
  finish (← start args)

/-- The record about a run that failed. -/
def failedRecord (f : Fault) : Log.Record where
  level := .error
  message := "Command execution failed"
  attributes := [("error", .text f.text)]

end CqlWriter.Command
