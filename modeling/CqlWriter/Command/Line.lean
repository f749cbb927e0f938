import CqlWriter.Settings.ConfigFile
import CqlWriter.Settings.Logging

/-!
# The command line

The program has commands, each with flags of its own beside those that all of them share. The
command is the first argument that is neither a flag nor the value of one; flags may stand before
it.
-/

namespace CqlWriter.Command

open Settings

/-- The commands. -/
inductive Action where
  | render
  | values
  | config
  | version
  deriving DecidableEq, Repr

namespace Action

/-- All commands. -/
def all : List Action := [render, values, config, version]

/-- The name of a command. -/
def name : Action → Text
  | render => "render"
  | values => "values"
  | config => "config"
  | version => "version"

/-- The command with a name. -/
def ofName? (name : Text) : Option Action :=
  all.find? (·.name = name)

/-- Whether a command takes files. -/
def takesFiles : Action → Bool
  | render | values => true
  | config | version => false

end Action

/-- The name of the program. -/
def programName : Text := "cqlrender"

/-! ### Settings and flags -/

/-- The form of the output. -/
def outputFormat : Setting Text where
  key := "output-format"
  kind := .text
  default := "text"
  flag := "output-format"
  envNames := ["CQL_OUTPUT_FORMAT"]

/-- Whether files are rendered again when they change. -/
def watch : Setting Bool where
  key := "watch"
  kind := .flag
  default := false
  flag := "watch"
  envNames := ["CQL_WATCH"]

/-- A store that knows all settings of the program. -/
def settings : Store :=
  watch.configure (Logging.configure (ConfigFile.configure (outputFormat.configure {})))

/-- The flags that all commands share. -/
def sharedFlags : FlagSet :=
  { name := outputFormat.flag, letter := some (Text.byte 'o'), value := .text outputFormat.default }
    :: ConfigFile.flags ++ Logging.flags

/-- The flag that asks for help. -/
def helpFlag : Flag where
  name := "help"
  letter := some (Text.byte 'h')
  value := .truth false

/-- The flag that asks to render files again. -/
def watchFlag : Flag where
  name := watch.flag
  letter := some (Text.byte 'w')
  value := .truth watch.default

/-- The flags of a command, or of none. -/
def flagsOf (action : Option Action) : FlagSet :=
  sharedFlags ++ helpFlag :: if action = some .render then [watchFlag] else []

/-- Let the flags of a command give the values of settings. A flag that only another command has is
there too, but it is never given. -/
def bindFlags (fs : FlagSet) (s : Store) (h : Host) : Store × Host :=
  let (s, h) := outputFormat.bind fs s h
  let (s, h) := ConfigFile.bind fs s h
  let (s, h) := Logging.bind fs s h
  watch.bind (fs ++ [watchFlag]) s h

/-! ### Finding the command -/

/-- Whether an argument is a flag whose value is the next argument, as far as the shared flags are
known. -/
def takesNext (argument : Text) : Bool :=
  if argument.contains (Text.byte '=') then false
  else match argument with
  | 0x2d :: 0x2d :: name => ((FlagSet.named? sharedFlags name).bind Flag.implied?).isNone
  | [0x2d, letter] => ((FlagSet.lettered? sharedFlags letter).bind Flag.implied?).isNone
  | _ => false

/-- Whether an argument is written as a flag. -/
def isFlag (argument : Text) : Bool :=
  argument.head? = some (Text.byte '-')

/-- The first argument that is neither a flag nor the value of one. A flag whose value could only be
the last argument ends the search. -/
def firstWord? : List Text → Option Text
  | [] => none
  | a :: rest =>
    if a = "--" then none
    else if takesNext a then
      match rest with
      | _ :: b :: more => firstWord? (b :: more)
      | _ => none
    else if a.isEmpty || isFlag a then firstWord? rest
    else some a

/-- The arguments without the first one that is a given word, and neither a flag nor the value of
one. -/
def withoutWord (word : Text) : List Text → List Text
  | [] => []
  | a :: rest =>
    if a = "--" then a :: rest
    else if takesNext a then
      match rest with
      | b :: more => a :: b :: withoutWord word more
      | [] => [a]
    else if !isFlag a && a = word then rest
    else a :: withoutWord word rest

/-- A command line that has been taken apart: the command, if there is one, and its flags and
arguments. -/
structure Line where
  action : Option Action
  parsed : FlagSet.Parsed
  deriving Repr

/-- Take a command line apart. -/
def Line.ofArguments (args : List Text) : Line :=
  match (firstWord? args).bind fun word => (Action.ofName? word).map (word, ·) with
  | some (word, action) => ⟨some action, (flagsOf (some action)).parse (withoutWord word args)⟩
  | none => ⟨none, (flagsOf none).parse args⟩

/-- Whether a command line asks for help, or names no command and so gets help. -/
def Line.wantsHelp (l : Line) : Bool :=
  l.action.isNone || (l.parsed.flags.named? helpFlag.name).any (·.value = .truth true)

/-- What is wrong with the number of arguments of a command. -/
def argumentFault? (action : Action) : List Text → Option Fault
  | [] =>
    if action.takesFiles then some (.plain "requires at least 1 arg(s), only received 0") else none
  | a :: _ =>
    if action.takesFiles then none
    else
      let path : Text := programName ++ " " ++ action.name
      some (.plain ("unknown command " ++ a.quoted ++ " for " ++ path.quoted))

end CqlWriter.Command
