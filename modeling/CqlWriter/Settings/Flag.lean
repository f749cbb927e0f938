import CqlWriter.Settings.Value
import CqlWriter.Text.Fields

/-!
# Flags

Flags are set on a command line: `--name=value`, `--name value`, or by a letter as `-n value`,
`-nvalue` or `-n=value`. A flag for a truth value needs no value. Letters that ask for an option of
a test run are passed over. Other arguments are kept in order, and `--` ends the flags.
-/

namespace CqlWriter.Settings

/-- The value of a flag. -/
inductive FlagValue where
  | text (t : Text)
  | truth (b : Bool)
  | int (n : Int)
  | texts (ts : List Text)
  | handling (h : Handling)
  deriving DecidableEq, Repr

/-- A flag: its name, the letter that also stands for it, its value, and whether that was given. -/
structure Flag where
  name : Text
  letter : Option UInt8 := none
  value : FlagValue
  given : Bool := false
  deriving DecidableEq, Repr

namespace Flag

/-- The value of a flag that needs none on the command line. -/
def implied? (f : Flag) : Option Text :=
  match f.value with
  | .truth _ => some "true"
  | _ => none

/-- The names of a flag in a message. -/
def names (f : Flag) : Text :=
  let long := "--" ++ f.name
  match f.letter with
  | some l => "-" ++ l :: (", " ++ long)
  | none => long

/-- The value of a flag after it is set to a text, and what was wrong with the text. Texts are added
to those given before. -/
def valueAfter (f : Flag) (t : Text) : FlagValue × Option Text :=
  match f.value with
  | .text _ => (.text t, none)
  | .truth _ =>
    match truth? t with
    | some b => (.truth b, none)
    | none => (.truth false, some (notTruth t))
  | .int _ =>
    match Integer.read t with
    | .ok n => (.int n, none)
    | .error e =>
      (.int (match e with
        | .malformed => 0
        | .tooWide nearest => nearest), some (notInteger t e))
  | .texts ts =>
    match Text.fields t with
    | .ok new => (.texts (if f.given then ts ++ new else new), none)
    | .error e => (.texts ts, some e.message)
  | .handling h =>
    match Handling.ofName t with
    | .ok new => (.handling new, none)
    | .error message => (.handling h, some message)

/-- The setting that a flag gives. A list of texts is what can be read back after it is written. -/
def setting (f : Flag) : Value :=
  match f.value with
  | .text t => .text t
  | .truth b => .flag b
  | .int n => .int n
  | .texts ts => .texts (some ((Text.fields (Text.ofFields ts)).toOption.getD []))
  | .handling h => .text h.name

end Flag

/-- Why a command line cannot be read. -/
inductive FlagFailure where
  | malformed (argument : Text)
  | unknown (name : Text)
  | unknownLetter (letter : UInt8) (letters : Text)
  | noValue (name : Text)
  | noValueLetter (letter : UInt8) (letters : Text)
  | badValue (value names problem : Text)
  deriving DecidableEq, Repr

namespace FlagFailure

/-- A letter between single quotes. A byte beyond ASCII is shown as the first byte of its own
encoding as a character, which again counts as a character. -/
def letterText (l : UInt8) : Text :=
  let shown := if l < 0x80 then l else if l < 0xc0 then 0xc2 else 0xc3
  if shown = Text.byte '\'' then "'\\''"
  else if shown = Text.byte '"' then "'\"'"
  else "'" ++ Text.quotedGlyph (.char (Char.ofNat shown.toNat)) ++ "'"

/-- The message about a failure. -/
def message : FlagFailure → Text
  | malformed a => "bad flag syntax: " ++ a
  | unknown name => "unknown flag: --" ++ name
  | unknownLetter l letters =>
    "unknown shorthand flag: " ++ letterText l ++ " in -" ++ letters
  | noValue name => "flag needs an argument: --" ++ name
  | noValueLetter l letters => "flag needs an argument: " ++ letterText l ++ " in -" ++ letters
  | badValue value names problem =>
    "invalid argument " ++ value.quoted ++ " for " ++ names.quoted ++ " flag: " ++ problem

end FlagFailure

/-- The flags that a command line may set. -/
abbrev FlagSet := List Flag

namespace FlagSet

/-- The flag with a name. -/
def named? (fs : FlagSet) (name : Text) : Option Flag :=
  fs.find? (·.name = name)

/-- The flag with a letter. -/
def lettered? (fs : FlagSet) (letter : UInt8) : Option Flag :=
  fs.find? (·.letter = some letter)

/-- Set a flag to a text. A text that does not fit may change the value, but does not count as
given. -/
def set (fs : FlagSet) (f : Flag) (t : Text) : FlagSet × Option FlagFailure :=
  let (value, problem) := f.valueAfter t
  let new := { f with value, given := f.given || problem.isNone }
  (fs.map fun g => if g.name = f.name then new else g,
    problem.map fun p => .badValue t f.names p)

/-- Set a flag that is written with its name, given what stands behind the two dashes. The second
part tells whether the next argument was taken as the value. -/
def setLong (fs : FlagSet) (argument body : Text) (next : Option Text) :
    FlagSet × Bool × Option FlagFailure :=
  let (name, value) := match Text.cut? (Text.byte '=') body with
    | some (name, value) => (name, some value)
    | none => (body, none)
  if name.isEmpty || name.head? = some (Text.byte '-') then (fs, false, some (.malformed argument))
  else match fs.named? name with
  | none => (fs, false, some (.unknown name))
  | some f =>
    match value.or f.implied?, next with
    | some v, _ =>
      let (fs, failure) := fs.set f v
      (fs, false, failure)
    | none, some v =>
      let (fs, failure) := fs.set f v
      (fs, true, failure)
    | none, none => (fs, false, some (.noValue name))

/-- Whether letters ask for an option of a test run. -/
def isTestOption (letters : Text) : Bool :=
  ("test." : Text).isPrefixOf letters

/-- Set the flags that are written with letters behind one dash. The second part tells whether the
next argument was taken as a value. -/
def setLetters (fs : FlagSet) (next : Option Text) : (letters : Text) →
    FlagSet × Bool × Option FlagFailure
  | [] => (fs, false, none)
  | l :: rest =>
    if isTestOption (l :: rest) then (fs, false, none)
    else match fs.lettered? l with
    | none => (fs, false, some (.unknownLetter l (l :: rest)))
    | some f =>
      let giving (v : Text) (taken : Bool) :=
        let (fs, failure) := fs.set f v
        (fs, taken, failure)
      match rest with
      | 0x3d :: b :: value => giving (b :: value) false
      | _ =>
        match f.implied? with
        | some v =>
          match fs.set f v with
          | (fs, none) => setLetters fs next rest
          | (fs, failure) => (fs, false, failure)
        | none =>
          if !rest.isEmpty then giving rest false
          else match next with
          | some v => giving v true
          | none => (fs, false, some (.noValueLetter l [l]))

/-- A command line that has been read as far as it is right: the flags, the other arguments, and
what is wrong with it. -/
structure Parsed where
  flags : FlagSet
  arguments : List Text
  failure : Option FlagFailure := none
  deriving Repr

/-- Put arguments in front of those of a command line. -/
def Parsed.before (arguments : List Text) (p : Parsed) : Parsed :=
  { p with arguments := arguments ++ p.arguments }

/-- Read a command line. It is read up to the first thing that is wrong. -/
def parse (fs : FlagSet) : List Text → Parsed
  | [] => ⟨fs, [], none⟩
  | a :: rest =>
    match a with
    | 0x2d :: 0x2d :: body =>
      if body.isEmpty then ⟨fs, rest, none⟩ else
        match fs.setLong a body rest.head?, rest with
        | (fs, _, some failure), _ => ⟨fs, [], some failure⟩
        | (fs, true, none), _ :: others => parse fs others
        | (fs, _, none), others => parse fs others
    | 0x2d :: l :: letters =>
      match fs.setLetters rest.head? (l :: letters), rest with
      | (fs, _, some failure), _ => ⟨fs, [], some failure⟩
      | (fs, true, none), _ :: others => parse fs others
      | (fs, _, none), others => parse fs others
    | a => (parse fs rest).before [a]
  termination_by args => args.length

end FlagSet

end CqlWriter.Settings
