import CqlWriter.Host
import CqlWriter.Settings.Flag
import CqlWriter.Settings.Table

/-!
# The store of settings

A setting has a key. Its value is the first that is found: one that was set, a flag that was given,
an environment variable, an entry of the configuration file, and last the default. Keys do not
depend on case, and an alias is another key for the same setting.
-/

namespace CqlWriter.Settings

/-- Where the configuration file is looked for, and the file in use. -/
structure FileSearch where
  name : Text := "config"
  folders : List Text := []
  type : Text := []
  file : Text := []
  deriving DecidableEq, Repr

/-- All sources of settings but the environment itself. -/
structure Store where
  aliases : List (Text × Text) := []
  /-- Values that were set. -/
  overrides : Table := []
  /-- The flags of settings, by key. -/
  flags : List (Text × Flag) := []
  /-- The names of environment variables of settings, by key; the earlier ones come first. -/
  envNames : List (Text × List Text) := []
  /-- The entries of the configuration file. -/
  config : Table := []
  defaults : Table := []
  search : FileSearch := {}
  deriving Repr

namespace Store

/-- The key that aliases lead to, following at most `n` of them. -/
def realKeyWithin (s : Store) : (n : Nat) → Text → Text
  | 0, key => key
  | n + 1, key =>
    match s.aliases.lookup key with
    | some real => realKeyWithin s n real
    | none => key

/-- The key that a key in lower case stands for. -/
def realKey (s : Store) (key : Text) : Text :=
  s.realKeyWithin s.aliases.length key

/-- Set the default of a key. -/
def setDefault (s : Store) (key : Text) (v : Value) : Store :=
  { s with defaults := s.defaults.assign v (keyPath (s.realKey key.lower)) }

/-- Set the value of a key for good. -/
def setOverride (s : Store) (key : Text) (v : Value) : Store :=
  { s with overrides := s.overrides.assign v (keyPath (s.realKey key.lower)) }

/-- Move the entry of a table from one key to another. -/
def moved (t : Table) (old new : Text) : Table :=
  match t.lookup old with
  | some v => Table.set (t.filter (·.1 ≠ old)) new v
  | none => t

/-- Make an alias of a key. What was known under the alias moves to the key. An alias that would
lead back to itself is not made, nor one that exists. -/
def addAlias (s : Store) (other key : Text) : Store :=
  let other := other.lower
  let key := key.lower
  if other = key || other = s.realKey key || (s.aliases.lookup other).isSome then s
  else
    { s with
      aliases := s.aliases ++ [(other, key)]
      config := moved s.config other key
      defaults := moved s.defaults other key
      overrides := moved s.overrides other key }

/-- Add environment variables for a key. -/
def addVariables (s : Store) (key : Text) (names : List Text) : Store :=
  if names.isEmpty then s else
    let key := key.lower
    let before := (s.envNames.lookup key).getD []
    { s with envNames := (key, before ++ names) :: s.envNames.filter (·.1 ≠ key) }

/-- Let a flag give the value of a key. -/
def addFlag (s : Store) (key : Text) (f : Flag) : Store :=
  let key := key.lower
  { s with flags := (key, f) :: s.flags.filter (·.1 ≠ key) }

/-- The value that the flag of a key gives, if it was given. -/
def flagValue? (s : Store) (key : Text) : Option Value :=
  (s.flags.lookup key).bind fun f => if f.given then some f.setting else none

/-- The value that an environment variable gives. -/
def variableValue? (s : Store) (h : Host) (key : Text) : Option Value :=
  (((s.envNames.lookup key).getD []).findSome? h.envValue?).map .text

/-- Whether a flag belongs to a key above a path. -/
def flagsShadow (s : Store) (path : List Text) : Bool :=
  (parentKeys path).any fun key => (s.flags.lookup key).isSome

/-- The value of a key. A value at a key above hides what sources of lower rank say. -/
def find? (s : Store) (h : Host) (key : Text) : Option Value :=
  let key := key.lower
  let hidden := match keyPath key with
    | first :: _ :: _ => (s.aliases.lookup first).isSome
    | _ => false
  let key := s.realKey key
  let path := keyPath key
  if hidden then none
  else if let some v := s.overrides.search path then some v
  else if s.overrides.shadows path then none
  else if let some v := s.flagValue? key then some v
  else if s.flagsShadow path then none
  else if let some v := s.variableValue? h key then some v
  else if let some v := s.config.dig path then some v
  else if s.config.shadows path then none
  else s.defaults.search path

/-- All keys that have a source, each once. -/
def keys (s : Store) : List Text :=
  let found := s.aliases.map (·.1)
  let found := Table.keys found [] s.overrides
  let found := Table.flatKeys found (s.flags.map (·.1))
  let found := Table.flatKeys found (s.envNames.map (·.1))
  let found := Table.keys found [] s.config
  Table.keys found [] s.defaults

/-- All settings that have a value, in tables. -/
def all (s : Store) (h : Host) : Table :=
  s.keys.foldl (fun t key =>
    match s.find? h key with
    | some v => t.assign v (keyPath key)
    | none => t) []

end Store

/-! ### Settings of one kind -/

/-- A kind of settings: how a value of any kind is read as one of this kind, and how one of this
kind is stored. -/
structure Kind (α : Type) where
  read : Option Value → α
  store : α → Value

namespace Kind

/-- Settings that are texts. -/
def text : Kind Text where
  read v := (v.map Value.toText).getD []
  store := .text

/-- Settings that are truth values. -/
def flag : Kind Bool where
  read v := (v.map Value.toFlag).getD false
  store := .flag

/-- Settings that are integers. -/
def int : Kind Int where
  read v := (v.map Value.toInt).getD 0
  store := .int

/-- Settings that are integers of sixty-four bits, which are not converted. -/
def wide : Kind Int where
  read v := (v.map Value.toWide).getD 0
  store := .wide

/-- Settings that are lists of texts, which may be absent. -/
def texts : Kind (Option (List Text)) where
  read v := v.bind Value.toTexts
  store := .texts

end Kind

/-- A setting: its key and its sources. -/
structure Setting (α : Type) where
  key : Text
  kind : Kind α
  default : α
  /-- The name of its flag, or nothing. -/
  flag : Text := []
  envNames : List Text := []
  aliases : List Text := []

namespace Setting

/-- Make a setting known to a store. -/
def configure (x : Setting α) (s : Store) : Store :=
  let s := s.setDefault x.key (x.kind.store x.default)
  let s := x.aliases.foldl (fun s other => s.addAlias other x.key) s
  s.addVariables x.key x.envNames

/-- The value of a setting. -/
def get (x : Setting α) (s : Store) (h : Host) : α :=
  x.kind.read (s.find? h x.key)

/-- Set the value of a setting for good. -/
def set (x : Setting α) (a : α) (s : Store) : Store :=
  s.setOverride x.key (x.kind.store a)

/-- The record about a flag that there is not. -/
def unregistered (x : Setting α) : Log.Record where
  level := .warn
  message := "flag not registered before binding"
  attributes := [("flag", .text x.flag), ("key", .text x.key)]

/-- Let the flag of a setting give its value. -/
def bind (x : Setting α) (flags : FlagSet) (s : Store) (h : Host) : Store × Host :=
  if x.flag.isEmpty then (s, h)
  else match flags.named? x.flag with
  | some f => (s.addFlag x.key f, h)
  | none => (s, h.note x.unregistered)

end Setting

end CqlWriter.Settings
