import CqlWriter.Fault
import CqlWriter.Yaml.Failure

/-!
# Problems of a statement document

Why a document gives no statements: it cannot be read, or one of its entries names something unknown
or leaves something out. Entries are numbered from zero. A problem is reported, unless it is one
that the program goes down with.
-/

namespace CqlWriter.Document

/-- Why a document gives no statements. -/
inductive Problem where
  /-- The document is malformed or does not have the right shape. -/
  | undecodable (failure : Yaml.Failure)
  /-- An entry of a map literal does not have the right shape. -/
  | badMapEntry (failure : Yaml.Failure)
  /-- Something of an unknown kind. -/
  | unknown (entry : Nat) (what kind : Text)
  /-- Something that is required and left out. -/
  | missing (entry : Nat) (what required : Text)
  /-- An operand that contains itself, so that making it never ends. -/
  | endless
  deriving DecidableEq, Repr

namespace Problem

/-- What the program goes down with, if a problem is none that can be reported. -/
def crash? : Problem → Option Text
  | undecodable f | badMapEntry f => f.crash?
  | endless => some "stack overflow"
  | _ => none

/-- The fault that a problem is reported as if it can be. -/
def fault : Problem → Fault
  | undecodable f => .wrap .malformedDocument (.plain f.message) [.text "decode failed"]
  | badMapEntry f => .wrap .malformedDocument (.plain f.message) [.text "map entry"]
  | unknown entry what kind => .new .unknownVariant [.number entry, .text what, .text kind]
  | missing entry what required => .new .missingField [.number entry, .text what, .text required]
  | endless => .plain "stack overflow"

end Problem

end CqlWriter.Document
