import CqlWriter.Yaml.Scalar
import CqlWriter.Text.Quoted

/-!
# Why a stream cannot be read

A stream may be malformed, and a well-formed one may not have the shape that is asked for. Shapes
that do not fit are collected; everything else ends the reading at once.
-/

namespace CqlWriter.Yaml

/-- A part of a document that does not fit. The line is counted from one. -/
inductive Misfit where
  /-- A value of the wrong kind; a collection has no text. -/
  | kind (line : Nat) (tag : Tag) (text wanted : Text)
  /-- A key that the record does not have. -/
  | unknownField (line : Nat) (name wanted : Text)
  /-- A second key for the same field. -/
  | repeatedField (line : Nat) (name wanted : Text)
  /-- A second key with the same text. -/
  | repeatedKey (line : Nat) (name : Text) (first : Nat)
  deriving DecidableEq, Repr

namespace Misfit

/-- A value in a message: a long one is cut after seven bytes, and that of a collection stands
behind its tag as it is. -/
def excerpt (tag : Tag) (text : Text) : Text :=
  if tag = .seq || tag = .map then text
  else if 10 < text.length then " `" ++ text.take 7 ++ "...`"
  else " `" ++ text ++ "`"

/-- A line number at the start of a message. -/
def atLine (line : Nat) : Text :=
  "line " ++ Text.ofNat line ++ ": "

/-- The message about a misfit. -/
def message : Misfit → Text
  | kind line tag text wanted =>
    atLine line ++ "cannot unmarshal " ++ tag.text ++ excerpt tag text ++ " into " ++ wanted
  | unknownField line name wanted =>
    atLine line ++ "field " ++ name ++ " not found in type " ++ wanted
  | repeatedField line name wanted =>
    atLine line ++ "field " ++ name ++ " already set in type " ++ wanted
  | repeatedKey line name first =>
    atLine line ++ "mapping key " ++ name.quoted ++ " already defined at line " ++ Text.ofNat first

end Misfit

/-- Why a stream cannot be read. -/
inductive Failure where
  | malformed
  | unknownAnchor (name : Text)
  | selfContaining (name : Text)
  | badBinary
  | badMerge
  /-- A collection as a key. -/
  | badKey
  /-- A collection as a key beside a merge, at which the reading breaks down. -/
  | collectionKey (type : Text)
  | mismatch (m : TagMismatch)
  | misfits (ms : List Misfit)
  /-- A refusal by the reader of one particular kind of value. -/
  | refused (message : Text)
  deriving DecidableEq, Repr

namespace Failure

/-- The message about a failure. -/
def message : Failure → Text
  | malformed | badKey => "yaml: syntax error"
  | unknownAnchor name => "yaml: unknown anchor '" ++ name ++ "' referenced"
  | selfContaining name => "yaml: anchor '" ++ name ++ "' value contains itself"
  | badBinary => "yaml: !!binary value contains invalid base64 data"
  | badMerge => "yaml: map merge requires map or sequence of maps as the value"
  | collectionKey type => "runtime error: hash of unhashable type " ++ type
  | mismatch m =>
    "yaml: cannot decode " ++ m.found.text ++ " `" ++ m.text ++ "` as a " ++ m.wanted.text
  | misfits ms =>
    "yaml: unmarshal errors:" ++ ms.flatMap fun m => ("\n  " : Text) ++ m.message
  | refused message => message

/-- What the program goes down with, if a failure is none that can be reported. -/
def crash? (f : Failure) : Option Text :=
  match f with
  | collectionKey _ => some f.message
  | _ => none

end Failure

end CqlWriter.Yaml
