import CqlWriter.Text.Base64
import CqlWriter.Yaml.Node

/-!
# Reading values out of nodes

A node is read as a value of a wanted kind: a text, a truth value, a number, a list, a record with
named fields, or a value of any kind. What does not fit is noted and the reading goes on, so that
one answer tells all misfits in the order of the document.
-/

namespace CqlWriter.Yaml

/-- The state of reading: the misfits, the number of nodes read, and how many of them were read for
an alias. -/
structure Decoding where
  misfits : List Misfit := []
  nodes : Nat := 0
  copies : Nat := 0
  /-- The number of aliases around the node that is being read. -/
  depth : Nat := 0

/-- A step of reading: it collects misfits and may fail altogether. -/
abbrev Decode (α : Type) := StateT Decoding (Except Failure) α

/-- The share of copies that is too much, by the number of nodes. A small document may consist of
copies almost altogether, a huge one may have a tenth of them, and in between the share falls
evenly. -/
def Decoding.share (nodes : Nat) : Nat :=
  if nodes ≤ 400000 then 356400000
  else if 4000000 ≤ nodes then 36000000
  else 392000000 - 89 * nodes

/-- Whether too many nodes are read for aliases. -/
def Decoding.excessive (d : Decoding) : Bool :=
  100 < d.copies && 1000 < d.nodes && share d.nodes * d.nodes < 360000000 * d.copies

namespace Decode

/-- Note a misfit. -/
def note (m : Misfit) : Decode Unit :=
  modify fun d => { d with misfits := d.misfits ++ [m] }

/-- Note that a node is not of the wanted kind. -/
def noteKind (line : Nat) (tag : Tag) (text wanted : Text) : Decode Unit :=
  note (.kind line tag text wanted)

/-- Count a node that is about to be read. -/
def count : Decode Unit := do
  modify fun d =>
    { d with nodes := d.nodes + 1, copies := if 0 < d.depth then d.copies + 1 else d.copies }
  if (← get).excessive then throw .malformed

/-- Read the node that an alias stands for. -/
def copying (read : Decode α) : Decode α := do
  modify fun d => { d with depth := d.depth + 1 }
  let a ← read
  modify fun d => { d with depth := d.depth - 1 }
  pure a

/-- Read a node, or the node that it stands for if it is an alias. -/
def follow (read : Node → Decode α) : Node → Decode α
  | .reference _ _ (some n) => do
    count
    copying (follow read n)
  | .reference _ name none => do
    count
    throw (.selfContaining name)
  | n => do
    count
    read n

/-- Read the root of a document, which counts as a node itself. -/
def document (read : Node → Decode α) (root : Node) : Decode α := do
  count
  follow read root

/-- Take a node as it stands. -/
def raw (n : Node) : Decode (Option Node) := do
  count
  pure (some n)

/-- Run a reading; any misfit makes it fail. -/
def run (d : Decode α) : Except Failure α :=
  match StateT.run d {} with
  | .ok (a, d) => if d.misfits.isEmpty then .ok a else .error (.misfits d.misfits)
  | .error e => .error e

/-- The value of a scalar, where a binary scalar has the bytes that it stands for. -/
def scalarValue (tag : Tag) (text : Text) : Decode Scalar :=
  match Scalar.ofTagged tag text with
  | .error m => throw (.mismatch m)
  | .ok v =>
    if tag = .binary then
      match Text.ofBase64? text with
      | some bytes => pure (.text bytes)
      | none => throw .badBinary
    else pure v

/-- The later entries whose key is of the same kind and has the same text as an earlier one. -/
def repeatedKeys : List (Node × Node) → List Misfit
  | [] => []
  | (k, _) :: rest =>
    (rest.filter fun (other, _) => k.sameKind other && k.text == other.text).map
      (fun (other, _) => .repeatedKey other.line other.text k.line)
    ++ repeatedKeys rest

/-- Note the repeated keys of a mapping, and tell whether there are any. -/
def noteRepeated (entries : List (Node × Node)) : Decode Bool := do
  let repeated := repeatedKeys entries
  repeated.forM note
  pure !repeated.isEmpty

/-- What a reader makes of a scalar: nothing if its value is of the wrong kind. -/
abbrev ScalarReader (α : Type) := (text : Text) → Scalar → Option α

/-- Read a scalar. A null is nothing, without a misfit. -/
def scalar (wanted : Text) (read : ScalarReader α) (n : Node) : Decode (Option α) := do
  match n with
  | .reference .. => pure none
  | .scalar line tag text =>
    match ← scalarValue tag text with
    | .null => pure none
    | v =>
      match read text v with
      | some a => pure (some a)
      | none =>
        noteKind line tag text wanted
        pure none
  | .sequence line tag _ =>
    noteKind line tag [] wanted
    pure none
  | .mapping line tag entries =>
    if !(← noteRepeated entries) then noteKind line tag [] wanted
    pure none

/-- Read a text: that of the scalar as it is written, or the bytes of a binary scalar. -/
def text (n : Node) : Decode (Option Text) :=
  scalar "string" (fun text v => some (match n, v with
    | .scalar _ .binary _, .text bytes => bytes
    | _, _ => text)) n

/-- The texts that stand for truth values where one is wanted. -/
def truthWords : List (Text × Bool) :=
  [("y", true), ("Y", true), ("yes", true), ("Yes", true), ("YES", true), ("on", true),
    ("On", true), ("ON", true), ("n", false), ("N", false), ("no", false), ("No", false),
    ("NO", false), ("off", false), ("Off", false), ("OFF", false)]

/-- Read a truth value. -/
def flag (n : Node) : Decode (Option Bool) :=
  scalar "bool" (fun _ v => match v with
    | .bool b => some b
    | .text t => truthWords.lookup t
    | _ => none) n

/-- Read a number of sixty-four bits without a sign. -/
def word (n : Node) : Decode (Option UInt64) :=
  scalar "uint64" (fun _ v => match v with
    | .int k => if 0 ≤ k then some k.toNat.toUInt64 else none
    | .float x => x.toWord?
    | _ => none) n

/-- Read something that may be left out. A null leaves it out; a collection that is tagged as a null
does not fit. -/
def optional (wanted : Text) (read : Node → Decode (Option α)) (n : Node) :
    Decode (Option α) := do
  match n with
  | .sequence line .null _ =>
    noteKind line .null [] ("*" ++ wanted)
    pure none
  | .mapping line .null entries =>
    if !(← noteRepeated entries) then noteKind line .null [] ("*" ++ wanted)
    pure none
  | _ => read n

/-- Read a list of items, each by `read`, without those that turn out to be nothing. A null is no
list at all. -/
def items (wanted : Text) (read : Node → Decode (Option α)) (n : Node) :
    Decode (Option (List α)) := do
  match n with
  | .sequence _ _ items => do
    let read ← items.mapM read
    pure (some (read.filterMap id))
  | _ => scalar ("[]" ++ wanted) (fun _ _ => none) n

/-- Read a list, where aliases are followed. -/
def list (wanted : Text) (read : Node → Decode (Option α)) : Node → Decode (Option (List α)) :=
  items wanted (follow read)

end Decode

/-! ### Merges -/

/-- Whether a key asks for a merge. -/
def Node.isMerge : Node → Bool
  | .scalar _ tag text => text = "<<" && tag = .merge
  | _ => false

mutual

/-- Whether a mapping merges itself: an alias whose name is among `names`, or that is around it, is
met again in what is merged. -/
def Node.mergesItself (names : List Text) : Node → Bool
  | .mapping _ _ entries => mergesItselfIn names entries
  | .sequence _ _ items => anyMergesItself names items
  | .reference _ name (some n) => mergesItself (name :: names) n
  | .reference _ name none => names.contains name
  | .scalar .. => false

/-- Whether a mapping with the given entries merges itself. -/
def Node.mergesItselfIn (names : List Text) : List (Node × Node) → Bool
  | [] => false
  | (k, v) :: rest => (k.isMerge && mergesItself names v) || mergesItselfIn names rest

/-- Whether a mapping of a list merges itself. -/
def Node.anyMergesItself (names : List Text) : List Node → Bool
  | [] => false
  | n :: ns => mergesItself names n || anyMergesItself names ns

end

/-- Count a node that is merged, which has to be a mapping or an alias of one. -/
def Decode.countMerged (n : Node) : Decode Unit :=
  match n.resolved with
  | .mapping .. | .reference .. => count
  | _ => throw .badMerge

/-- The keys that a merge may not set any more. -/
abbrev Keys := List Scalar

/-! ### Values of any kind -/

/-- A value of any kind. The keys of a mapping are told apart by kind and value, unless all of them
are `texts`. -/
inductive Loose where
  | scalar (s : Scalar)
  | list (items : List Loose)
  | map (texts : Bool) (entries : List (Scalar × Loose))

namespace Loose

/-- The name of the kind of lists. -/
def listType : Text := "[]interface \x7b\x7d"

/-- The name of the kind of a mapping. -/
def mapType (texts : Bool) : Text :=
  if texts then "map[string]interface \x7b\x7d" else "map[interface \x7b\x7d]interface \x7b\x7d"

end Loose

/-- The entries of a mapping that have been read, and the keys that are settled if the mapping is
being merged. -/
structure Gathering where
  entries : List (Scalar × Loose) := []
  settled : Option Keys := none

namespace Gathering

/-- Whether a key may not be set any more. -/
def isSettled (g : Gathering) (key : Scalar) : Bool :=
  (g.settled.getD []).contains key

/-- Settle a key. -/
def settle (g : Gathering) (key : Scalar) : Gathering :=
  { g with settled := g.settled.map (key :: ·) }

/-- Put in the value of a key; a later value takes the place of an earlier one. -/
def put (g : Gathering) (key : Scalar) (v : Loose) : Gathering :=
  { g with entries := g.entries.filter (·.1 ≠ key) ++ [(key, v)] }

end Gathering

/-- Whether all keys of a mapping are texts. -/
def keysAreTexts (entries : List (Node × Node)) : Bool :=
  entries.all fun (k, _) => k.tag? = some .str || k.tag? = some .merge

/-- Read the key of an entry: a text if `texts` is set, and else a value of any kind, which `read`
gives. A collection cannot be a key, and the reading breaks down if the mapping is being merged. -/
def entryKey (texts merged : Bool) (k : Node) (read : Decode (Option Loose)) :
    Decode (Option Scalar) := do
  if texts then pure ((← Decode.follow Decode.text k).map Scalar.text)
  else
    match ← read with
    | none => pure none
    | some (.scalar s) => pure (some s)
    | some (.list _) => throw (if merged then .collectionKey Loose.listType else .badKey)
    | some (.map texts _) =>
      throw (if merged then .collectionKey (Loose.mapType texts) else .badKey)

/-- What ends the reading of a collection as a key beside a merge: a failure in the collection,
which is read by itself, or else that it is one. If too much is read for aliases there, it is a bad
key. -/
def keyFailure (type : Text) (read : Decode α) : Failure :=
  match StateT.run read {} with
  | .error .malformed => .badKey
  | .error failure => failure
  | .ok _ => .collectionKey type

mutual

/-- Read a value of any kind. -/
def readAny : Node → Decode (Option Loose)
  | .reference _ _ (some n) => do
    Decode.count
    Decode.copying (readAny n)
  | .reference _ name none => do
    Decode.count
    throw (.selfContaining name)
  | .scalar _ tag text => do
    Decode.count
    pure (some (.scalar (← Decode.scalarValue tag text)))
  | .sequence _ _ items => do
    Decode.count
    pure (some (.list (← readItems items)))
  | .mapping _ _ entries => do
    Decode.count
    if ← Decode.noteRepeated entries then return none
    let texts := keysAreTexts entries
    let g ← readEntries texts entries {}
    let g ← readMerge texts (keysOf entries) entries g
    pure (some (.map texts g.entries))

/-- Read the items of a list. -/
def readItems : List Node → Decode (List Loose)
  | [] => pure []
  | n :: ns => do
    let v ← readAny n
    let vs ← readItems ns
    pure (v.toList ++ vs)

/-- Read the entries of a mapping, but for merges. If `texts` is set the keys are taken as texts. -/
def readEntries (texts : Bool) : List (Node × Node) → Gathering → Decode Gathering
  | [], g => pure g
  | (k, v) :: rest, g => do
    if k.isMerge then readEntries texts rest g
    else
      match ← entryKey texts g.settled.isSome k (readAny k) with
      | none => readEntries texts rest g
      | some key =>
        if g.isSettled key then readEntries texts rest g
        else
          let g := g.settle key
          match ← readAny v with
          | some value => readEntries texts rest (g.put key value)
          | none => readEntries texts rest g

/-- Read what a mapping merges. All its own keys are settled then. -/
def readMerge (texts : Bool) (own : Decode Keys) : List (Node × Node) → Gathering → Decode Gathering
  | [], g => pure g
  | (k, .sequence _ _ items) :: rest, g =>
    if k.isMerge then do
      let settled ← g.settled.elim own pure
      let after ← readMerged texts items { g with settled := some settled }
      pure { after with settled := g.settled.bind fun _ => after.settled }
    else readMerge texts own rest g
  | (k, v) :: rest, g =>
    if k.isMerge then do
      let settled ← g.settled.elim own pure
      Decode.countMerged v
      let after ← readInto texts v { g with settled := some settled }
      pure { after with settled := g.settled.bind fun _ => after.settled }
    else readMerge texts own rest g

/-- Read a list of mappings into one, the earlier ones first. -/
def readMerged (texts : Bool) : List Node → Gathering → Decode Gathering
  | [], g => pure g
  | n :: ns, g => do
    Decode.countMerged n
    readMerged texts ns (← readInto texts n g)

/-- Read a mapping into another. -/
def readInto (texts : Bool) : Node → Gathering → Decode Gathering
  | .mapping _ _ entries, g => do
    if ← Decode.noteRepeated entries then return g
    let g ← readEntries texts entries g
    readMerge texts (keysOf entries) entries g
  | .reference _ _ (some n), g =>
    Decode.copying do
      Decode.count
      readInto texts n g
  | .reference _ name none, _ => throw (.selfContaining name)
  | _, g => pure g

/-- A key beside a merge. The reading ends at a collection, unless that is a mapping with repeated
keys, which is no key. -/
def readKey : Node → Decode (Option Scalar)
  | .reference _ _ (some n) => do
    Decode.count
    Decode.copying (readKey n)
  | .reference _ name none => do
    Decode.count
    throw (.selfContaining name)
  | .scalar _ tag text => do
    Decode.count
    pure (some (← Decode.scalarValue tag text))
  | .sequence _ _ items => do
    Decode.count
    throw (keyFailure Loose.listType (readItems items))
  | .mapping _ _ entries => do
    Decode.count
    if ← Decode.noteRepeated entries then return none
    throw (keyFailure (Loose.mapType (keysAreTexts entries)) do
      let g ← readEntries (keysAreTexts entries) entries {}
      readMerge (keysAreTexts entries) (keysOf entries) entries g)

/-- The keys of a mapping that merges others. -/
def keysOf : List (Node × Node) → Decode Keys
  | [] => pure []
  | (k, _) :: rest => do
    let key ← readKey k
    let keys ← keysOf rest
    pure (key.toList ++ keys)

end

/-! ### Records -/

/-- The keys that are settled when the entries of a mapping merge others: its own ones, or those
given if the mapping is itself merged. -/
def settledKeys (entries : List (Node × Node)) : Option Keys → Decode Keys
  | some keys => pure keys
  | none => keysOf entries

/-- A kind of record: the name of its kind, and for each field how its value is put in. If `strict`
is set a mapping may have no other keys. -/
structure Record (α : Type) where
  typeName : Text
  fields : List (Text × (Node → α → Decode α))
  strict : Bool := true

namespace Record

/-- The state of filling a record from the entries of a mapping: the record, the fields that are
done, and the keys that are settled if the mapping is being merged. -/
structure Filling (α : Type) where
  value : α
  done : List Text := []
  keys : Option Keys

/-- Whether a key is settled, so that the mapping that is being merged may not set it any more. -/
def Filling.isSettled (f : Filling α) (name : Text) : Bool :=
  f.keys.any (·.contains (.text name))

/-- Put in the value of an entry whose key is the text `name` and is not settled. -/
def fillNamed (r : Record α) (f : Filling α) (entry : Node × Node) (name : Text) :
    Decode (Filling α) := do
  let f := { f with keys := f.keys.map (.text name :: ·) }
  match r.fields.lookup name with
  | some put =>
    if f.done.contains name then
      Decode.note (.repeatedField entry.1.line name r.typeName)
      pure f
    else pure { f with value := ← put entry.2 f.value, done := name :: f.done }
  | none =>
    if r.strict then Decode.note (.unknownField entry.1.line name r.typeName)
    pure f

/-- Put in the value of one entry. A merge is left for later, and a key that is settled stays as it
is. -/
def fillEntry (r : Record α) (f : Filling α) (entry : Node × Node) : Decode (Filling α) := do
  if entry.1.isMerge then pure f
  else
    match ← Decode.follow Decode.text entry.1 with
    | none => pure f
    | some name => if f.isSettled name then pure f else r.fillNamed f entry name

mutual

/-- Fill a record from a mapping: first its own entries, then those of the mappings it merges. -/
def fill (r : Record α) : Node → Option Keys → α → Decode (α × Option Keys)
  | .mapping _ _ entries, keys, a => do
    if ← Decode.noteRepeated entries then return (a, keys)
    let f ← entries.foldlM r.fillEntry { value := a, keys }
    r.fillMerge entries entries f.keys f.value
  | .reference _ _ (some n), keys, a =>
    Decode.copying do
      Decode.count
      r.fill n keys a
  | .reference _ name none, _, _ => throw (.selfContaining name)
  | _, keys, a => pure (a, keys)

/-- Fill a record from the mappings that a mapping merges. All its own keys are settled then. -/
def fillMerge (r : Record α) (entries : List (Node × Node)) :
    List (Node × Node) → Option Keys → α → Decode (α × Option Keys)
  | [], keys, a => pure (a, keys)
  | (k, .sequence _ _ items) :: rest, keys, a =>
    if k.isMerge then do
      let settled ← settledKeys entries keys
      let (a, after) ← r.fillAll items settled a
      pure (a, keys.map fun _ => after)
    else r.fillMerge entries rest keys a
  | (k, v) :: rest, keys, a =>
    if k.isMerge then do
      let settled ← settledKeys entries keys
      Decode.countMerged v
      let (a, after) ← r.fill v (some settled) a
      pure (a, keys.bind fun _ => after)
    else r.fillMerge entries rest keys a

/-- Fill a record from a list of mappings, the earlier ones first. -/
def fillAll (r : Record α) : List Node → Keys → α → Decode (α × Keys)
  | [], keys, a => pure (a, keys)
  | n :: ns, keys, a => do
    Decode.countMerged n
    let (a, after) ← r.fill n (some keys) a
    r.fillAll ns (after.getD keys) a

end

/-- Read a record, starting from `initial`. -/
def decode (r : Record α) (initial : α) (n : Node) : Decode (Option α) := do
  match n with
  | .mapping .. =>
    let (a, _) ← r.fill n none initial
    pure (some a)
  | _ => Decode.scalar r.typeName (fun _ _ => none) n

end Record

/-! ### Fields -/

namespace Field

/-- A field whose value, once read, is put in by `set`; nothing leaves the record as it is. -/
def of (read : Node → Decode (Option β)) (set : β → α → α) (n : Node) (a : α) : Decode α := do
  match ← Decode.follow read n with
  | some b => pure (set b a)
  | none => pure a

/-- A field that takes the node as it stands. -/
def raw (set : Node → α → α) (n : Node) (a : α) : Decode α := do
  Decode.count
  pure (set n a)

end Field

end CqlWriter.Yaml
