import CqlWriter.Text.Glyph
import CqlWriter.Yaml.Character

/-!
# Characters of a stream of bytes

A stream is in UTF-8 or, after a byte order mark, in UTF-16. Its bytes come in blocks of a fixed
size, and each block is made characters as a whole. A character whose last bytes are in the next
block belongs to that block.
-/

namespace CqlWriter.Yaml

/-- How many bytes follow the first byte of a character in UTF-8. -/
def tailLength? (b : Nat) : Option Nat :=
  if b < 0x80 then some 0
  else if 0xc0 ≤ b && b < 0xe0 then some 1
  else if 0xe0 ≤ b && b < 0xf0 then some 2
  else if 0xf0 ≤ b && b < 0xf8 then some 3
  else none

/-- How bytes stand for characters. The units of UTF-16 have their lower byte first if `little`. -/
inductive Encoding where
  | utf8
  | utf16 (little : Bool)
  deriving DecidableEq, Repr

namespace Encoding

/-- What the start of some bytes is. -/
inductive Lead where
  /-- A character, which takes some bytes after the first. -/
  | char (c : Char) (following : Nat)
  /-- The start of a character that needs more bytes. -/
  | incomplete
  | invalid

/-- A character that stands at the start, if there is one. -/
def Lead.of (following : Nat) : Option Char → Lead
  | some c => .char c following
  | none => .invalid

/-- The start of bytes in UTF-8. -/
def utf8Lead (b : UInt8) (rest : Text) : Lead :=
  match tailLength? b.toNat with
  | none => .invalid
  | some n =>
    if (rest.take n).length < n then .incomplete
    else .of n ((Glyph.lead? b rest).map (·.1))

/-- A unit of UTF-16. -/
def unit (little : Bool) (a b : UInt8) : Nat :=
  if little then b.toNat * 256 + a.toNat else a.toNat * 256 + b.toNat

/-- Whether a unit is the first of a pair. -/
def isHigh (u : Nat) : Bool :=
  0xd800 ≤ u && u < 0xdc00

/-- Whether a unit is the second of a pair. -/
def isLow (u : Nat) : Bool :=
  0xdc00 ≤ u && u < 0xe000

/-- The start of bytes in UTF-16. -/
def utf16Lead (little : Bool) (a : UInt8) : Text → Lead
  | [] => .incomplete
  | b :: rest =>
    let u := unit little a b
    if isHigh u then
      match rest with
      | c :: d :: _ =>
        let v := unit little c d
        if isLow v then .of 3 (Glyph.code? 0 (0x10000 + (u - 0xd800) * 0x400 + (v - 0xdc00)))
        else .invalid
      | _ => .incomplete
    else .of 1 (Glyph.code? 0 u)

/-- The start of bytes in an encoding. -/
def lead : Encoding → UInt8 → Text → Lead
  | utf8 => utf8Lead
  | utf16 little => utf16Lead little

/-- The characters of a block after `skip` bytes that belong to a character already read, and the
bytes at the end that are no whole character. All characters have to be allowed ones. -/
def charsFrom? (e : Encoding) : (skip : Nat) → Text → Option (List Char × Text)
  | _, [] => some ([], [])
  | n + 1, _ :: rest => charsFrom? e n rest
  | 0, b :: rest =>
    match e.lead b rest with
    | .char c n =>
      if isAllowed c then (charsFrom? e n rest).map fun (cs, left) => (c :: cs, left) else none
    | .incomplete => some ([], b :: rest)
    | .invalid => none

/-- The number of bytes in a block. -/
def blockSize : Nat := 512

/-- The encoding that the start of a stream tells, and the number of bytes that tell it. -/
def ofStart : Text → Encoding × Nat
  | 0xff :: 0xfe :: _ => (.utf16 true, 2)
  | 0xfe :: 0xff :: _ => (.utf16 false, 2)
  | 0xef :: 0xbb :: 0xbf :: _ => (.utf8, 3)
  | _ => (.utf8, 0)

/-- The characters of the blocks of a stream up to the first that is faulty, and whether one is. A
block has `carry` of the block before it and `size` bytes more. -/
def blocksFrom (e : Encoding) :
    (fuel size : Nat) → (carry rest : Text) → List (List Char) × Bool
  | 0, _, _, _ => ([], true)
  | fuel + 1, size, carry, rest =>
    if rest.isEmpty then ([], !carry.isEmpty)
    else
      match e.charsFrom? 0 (carry ++ rest.take size) with
      | none => ([], true)
      | some (cs, left) =>
        let (more, faulty) := e.blocksFrom fuel (blockSize - left.length) left (rest.drop size)
        (cs :: more, faulty)

/-- The characters of the blocks of a stream up to the first that is faulty, and whether one is. -/
def blocks (bytes : Text) : List (List Char) × Bool :=
  let (e, n) := ofStart bytes
  e.blocksFrom (bytes.length + 1) (blockSize - n) [] (bytes.drop n)

end Encoding

end CqlWriter.Yaml
