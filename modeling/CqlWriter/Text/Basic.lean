/-!
# Text

A text is the list of its bytes, read as UTF-8. Names and literals may carry any bytes at all, so
equality, order, length and concatenation are those of the bytes.
-/

namespace CqlWriter

/-- A text is the list of its bytes. -/
abbrev Text := List UInt8

namespace Text

/-- The UTF-8 bytes of a list of characters. -/
def ofChars (cs : List Char) : Text :=
  cs.flatMap String.utf8EncodeChar

/-- The UTF-8 bytes of a string. -/
def ofString (s : String) : Text :=
  ofChars s.toList

instance : Coe String Text := ⟨ofString⟩

/-- The text of one ASCII byte, written as a character. -/
def byte (c : Char) : UInt8 :=
  c.toNat.toUInt8

/-- The decimal digits of a natural number. -/
def ofNat (n : Nat) : Text :=
  ofChars (Nat.toDigits 10 n)

/-- The decimal digits of an integer, after a minus sign when it is negative. -/
def ofInt (n : Int) : Text :=
  if n < 0 then "-" ++ ofNat n.natAbs else ofNat n.natAbs

/-- The texts one after another, with `sep` between neighbours. -/
def join (sep : Text) (ts : List Text) : Text :=
  List.intercalate sep ts

/-- Every occurrence of the byte `b` replaced by the text `new`. -/
def replaceByte (b : UInt8) (new : Text) (t : Text) : Text :=
  t.flatMap fun x => if x = b then new else [x]

/-- Whether `part` occurs in the text. -/
def hasPart (part : Text) : Text → Bool
  | [] => part.isEmpty
  | b :: rest => part.isPrefixOf (b :: rest) || hasPart part rest

/-- The part before the first byte `b` and the part after it, if there is one. -/
def cut? (b : UInt8) : Text → Option (Text × Text)
  | [] => none
  | x :: rest =>
    if x = b then some ([], rest) else (cut? b rest).map fun (l, r) => (x :: l, r)

/-- The parts between the bytes `b`; a text without one is its own single part. -/
def split (b : UInt8) : Text → List Text
  | [] => [[]]
  | x :: rest =>
    if x = b then [] :: split b rest
    else match split b rest with
      | [] => [[x]]
      | part :: parts => (x :: part) :: parts

/-- The text without its first bytes `start`, if it begins with them. -/
def dropStart? (start t : Text) : Option Text :=
  if start.isPrefixOf t then some (t.drop start.length) else none

/-- Whether the text ends with `tail`. -/
def endsWith (t tail : Text) : Bool :=
  tail.isSuffixOf t

/-- Lexicographic order of the bytes. -/
def order : Text → Text → Ordering
  | [], [] => .eq
  | [], _ :: _ => .lt
  | _ :: _, [] => .gt
  | a :: s, b :: t => if a < b then .lt else if b < a then .gt else order s t

end Text

end CqlWriter
