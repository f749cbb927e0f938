import CqlWriter.Text.Quoted

/-!
# Faults

An error is a fault: a plain text, a fault of one of the documented kinds, possibly with a cause, or
a fault seen in a context. A kind has an identifier, a category and a message with places for
arguments.
-/

namespace CqlWriter

/-- The category of a fault; a number that belongs to no category is kept as it is. -/
inductive Category where
  | ok
  | invalidArgument
  | notFound
  | internal
  | other (code : Int)
  deriving DecidableEq, Repr

namespace Category

/-- The category with a given number. -/
def ofCode : Int → Category
  | 0 => ok
  | 1 => invalidArgument
  | 2 => notFound
  | 3 => internal
  | n => other n

/-- The name of a category. -/
def name : Category → Text
  | ok => "OK"
  | invalidArgument => "INVALID_ARGUMENT"
  | notFound => "NOT_FOUND"
  | internal => "INTERNAL"
  | other n => "Code(" ++ Text.ofInt n ++ ")"

end Category

/-! ### Messages with places for arguments -/

/-- An argument of a message. -/
inductive Argument where
  | number (n : Int)
  | text (t : Text)
  deriving DecidableEq, Repr

namespace Argument

/-- The argument with its type, as it stands where it does not fit. -/
def typed : Argument → Text
  | number n => "int=" ++ Text.ofInt n
  | text t => "string=" ++ t

/-- A number as a character between single quotes. -/
def quotedChar (n : Int) : Text :=
  let c := if 0 ≤ n then (Glyph.code? 0 n.toNat).getD Glyph.replacement else Glyph.replacement
  let shown := if c = '\'' then ("\\'" : Text)
    else if c = '"' then ("\"" : Text)
    else Text.quotedGlyph (.char c)
  "'" ++ shown ++ "'"

/-- The argument in a place marked by a letter: `d` for a number, `s` for a text and `q` for either
in quotes. -/
def inPlace (place : UInt8) (a : Argument) : Text :=
  if place = Text.byte 'd' then
    match a with
    | number n => Text.ofInt n
    | text _ => "%!d(" ++ a.typed ++ ")"
  else if place = Text.byte 'q' then
    match a with
    | number n => quotedChar n
    | text t => t.quoted
  else
    match a with
    | number _ => "%!s(" ++ a.typed ++ ")"
    | text t => t

end Argument

/-- A message with the arguments put in for `%d`, `%s` and `%q`, from left to right. -/
def fillIn : Text → List Argument → Text
  | 0x25 :: place :: rest, a :: as => a.inPlace place ++ fillIn rest as
  | 0x25 :: place :: rest, [] => "%!" ++ (place :: ("(MISSING)" : Text)) ++ fillIn rest []
  | b :: rest, as => b :: fillIn rest as
  | [], [] => []
  | [], as => "%!(EXTRA " ++ Text.join ", " (as.map Argument.typed) ++ ")"

/-! ### Kinds of faults -/

/-- The documented kinds of faults. -/
inductive FaultKind where
  | malformedDocument
  | unknownVariant
  | missingField
  | unreadableFile
  | defect
  deriving DecidableEq, Repr

namespace FaultKind

/-- All kinds, in the order of their identifiers. -/
def all : List FaultKind :=
  [malformedDocument, unknownVariant, missingField, unreadableFile, defect]

/-- The identifier of a kind. -/
def id : FaultKind → Text
  | malformedDocument => "MT10001"
  | unknownVariant => "MT10002"
  | missingField => "MT10003"
  | unreadableFile => "MT10004"
  | defect => "MT13001"

/-- The kind with a given identifier. -/
def ofId? (id : Text) : Option FaultKind :=
  all.find? (·.id = id)

/-- The category of a kind. -/
def category : FaultKind → Category
  | malformedDocument | unknownVariant | missingField => .invalidArgument
  | unreadableFile => .notFound
  | defect => .internal

/-- The message of a kind, with places for arguments. -/
def template : FaultKind → Text
  | malformedDocument => "malformed statement document: %s"
  | unknownVariant => "statement %d: unknown %s kind %q"
  | missingField => "statement %d: %s requires %s"
  | unreadableFile => "cannot read %s"
  | defect => "[BUG] %s"

/-- What a kind is about. -/
def description : FaultKind → Text
  | malformedDocument =>
    "The statement document could not be decoded. "
      ++ "Check that it is valid YAML or JSON with a top-level `statements` list."
  | unknownVariant =>
    "A tagged value names a kind that is not part of the grammar. "
      ++ "Check the spelling of the kind."
  | missingField => "A required field of a statement or clause is missing."
  | unreadableFile => "A statement document could not be read from the filesystem."
  | defect => "This error should not happen and is a bug."

/-- The message of a kind with arguments; without any, the places stay as they are. -/
def message (kind : FaultKind) (args : List Argument) : Text :=
  if args.isEmpty then kind.template else fillIn kind.template args

end FaultKind

/-! ### Faults -/

/-- An error. -/
inductive Fault where
  | plain (text : Text)
  | coded (kind : FaultKind) (message : Text) (cause : Option Fault)
  | within (context : Text) (inner : Fault)
  deriving Repr

namespace Fault

/-- A fault of a documented kind. -/
def new (kind : FaultKind) (args : List Argument) : Fault :=
  coded kind (kind.message args) none

/-- A fault of a documented kind with a cause. -/
def wrap (kind : FaultKind) (cause : Fault) (args : List Argument) : Fault :=
  coded kind (kind.message args) (some cause)

/-- The complete text of a fault. -/
def text : Fault → Text
  | plain t => t
  | coded kind message none => kind.id ++ ": " ++ message
  | coded kind message (some cause) => kind.id ++ ": " ++ message ++ ": " ++ text cause
  | within context inner => context ++ ": " ++ text inner

/-- The kind of the outermost documented fault. -/
def kind? : Fault → Option FaultKind
  | plain _ => none
  | coded kind _ _ => some kind
  | within _ inner => kind? inner

/-- Whether a fault is of the kind with an identifier. A fault of no documented kind is taken at its
word: its text has to contain the identifier. -/
def isKind (f : Fault) (id : Text) : Bool :=
  match f.kind? with
  | some kind => kind.id = id
  | none => Text.hasPart id f.text

/-- The category of a fault; one of no documented kind is internal. -/
def category (f : Fault) : Category :=
  match f.kind? with
  | some kind => kind.category
  | none => .internal

end Fault

end CqlWriter
