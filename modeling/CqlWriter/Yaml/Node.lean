import CqlWriter.Yaml.Failure
import CqlWriter.Yaml.Scanner

/-!
# Nodes

A document is a tree of scalars, sequences and mappings. An alias holds the node that its anchor was
put on, so that a document without cycles is a finite tree. An alias inside the node that it stands
for holds that node too; below it, where the same alias is met again, it is empty.
-/

namespace CqlWriter.Yaml

/-- A node of a document. Lines are counted from one. -/
inductive Node where
  | scalar (line : Nat) (tag : Tag) (text : Text)
  | sequence (line : Nat) (tag : Tag) (items : List Node)
  | mapping (line : Nat) (tag : Tag) (entries : List (Node × Node))
  | reference (line : Nat) (name : Text) (target : Option Node)
  deriving Inhabited, Repr

namespace Node

/-- The line at which a node starts. -/
def line : Node → Nat
  | scalar n _ _ | sequence n _ _ | mapping n _ _ | reference n _ _ => n

/-- The text of a scalar; the name of an alias; nothing for a collection. -/
def text : Node → Text
  | scalar _ _ t => t
  | reference _ name _ => name
  | _ => []

/-- The node itself, or the node that an alias stands for. -/
def resolved : Node → Node
  | reference _ _ (some n) => resolved n
  | n => n

/-- The tag of a node, or of the node that an alias stands for. -/
def tag? : Node → Option Tag
  | scalar _ t _ | sequence _ t _ | mapping _ t _ => some t
  | reference _ _ (some n) => tag? n
  | reference _ _ none => none

/-- A word for the kind of a node. -/
def kindName : Node → Text
  | scalar .. => "scalar"
  | sequence .. => "sequence"
  | mapping .. => "mapping"
  | reference .. => "alias"

/-- Whether two nodes are of the same kind. -/
def sameKind : Node → Node → Bool
  | scalar .., scalar .. | sequence .., sequence .. | mapping .., mapping ..
  | reference .., reference .. =>
    true
  | _, _ => false

end Node

/-! ### Drafts -/

/-- A node that is being composed. What holds no alias of a node that is not complete is whole; any
other alias has a number of its own and the number of its anchor. -/
inductive Draft where
  | whole (n : Node)
  | sequence (line : Nat) (tag : Tag) (items : List Draft)
  | mapping (line : Nat) (tag : Tag) (entries : List (Draft × Draft))
  | reference (line : Nat) (name : Text) (number anchor : Nat)

namespace Draft

/-- A scalar that is not written, at a line. -/
def empty (line : Nat) : Draft :=
  whole (.scalar line .null [])

/-- The node of a draft that is whole. -/
def whole? : Draft → Option Node
  | whole n => some n
  | _ => none

/-- A sequence of drafts. -/
def ofItems (line : Nat) (tag : Tag) (items : List Draft) : Draft :=
  match items.mapM whole? with
  | some ns => whole (.sequence line tag ns)
  | none => sequence line tag items

/-- The entry of a mapping, if both its parts are whole. -/
def wholePair? (e : Draft × Draft) : Option (Node × Node) := do
  pure (← e.1.whole?, ← e.2.whole?)

/-- A mapping of drafts. -/
def ofEntries (line : Nat) (tag : Tag) (entries : List (Draft × Draft)) : Draft :=
  match entries.mapM wholePair? with
  | some es => whole (.mapping line tag es)
  | none => mapping line tag entries

mutual

/-- The node of a draft, where `follow` gives the node that an alias holds. -/
def node (follow : (number anchor : Nat) → Option Node) : Draft → Node
  | whole n => n
  | sequence line tag items => .sequence line tag (nodes follow items)
  | mapping line tag entries => .mapping line tag (pairs follow entries)
  | reference line name number anchor => .reference line name (follow number anchor)

/-- The nodes of drafts. -/
def nodes (follow : (number anchor : Nat) → Option Node) : List Draft → List Node
  | [] => []
  | d :: ds => node follow d :: nodes follow ds

/-- The entries of a mapping of drafts. -/
def pairs (follow : (number anchor : Nat) → Option Node) : List (Draft × Draft) → List (Node × Node)
  | [] => []
  | (k, v) :: es => (node follow k, node follow v) :: pairs follow es

end

/-- The node of a draft, where `anchored` gives the draft of an anchor. An alias is empty where it
is met again below itself, and `met` are the numbers of the aliases around. As long as `fuel` is the
number of all others it does not run out. -/
def unrolled (anchored : Nat → Option Draft) : (fuel : Nat) → (met : List Nat) → Draft → Node
  | 0, _, d => d.node fun _ _ => none
  | fuel + 1, met, d =>
    d.node fun number anchor =>
      if met.contains number then none
      else (anchored anchor).map (unrolled anchored fuel (number :: met))

end Draft

/-! ### Composing nodes from tokens -/

/-- An anchor: its name, its number, and what it is put on once that is composed. -/
structure Anchor where
  name : Text
  number : Nat
  draft : Option Draft

/-- The state of composing: where the tokens come from, the anchors met, the latest first, the
number of aliases met, and what the handles of tags stand for. -/
structure Composing where
  scanner : Scanner
  anchors : List Anchor := []
  aliases : Nat := 0
  handles : List (Text × Text) := []

/-- A step of composing, which may fail. -/
abbrev Composer (α : Type) := StateT Composing (Except Failure) α

namespace Composer

/-- The next token, which stays there. -/
def peek : Composer Token := do
  match (← get).scanner.peek? with
  | some (t, scanner) =>
    modify fun s => { s with scanner }
    pure t
  | none => throw .malformed

/-- Pass over a token. -/
def advance : Composer Unit :=
  modify fun s => { s with scanner := s.scanner.advance }

/-- Note an anchor that is put on what is about to be composed, and give it a number. -/
def openAnchor (name : Text) : Composer Nat := do
  let number := (← get).anchors.length
  modify fun s => { s with anchors := ⟨name, number, none⟩ :: s.anchors }
  pure number

/-- Note what an anchor is put on. -/
def closeAnchor (number : Nat) (draft : Draft) : Composer Unit :=
  modify fun s =>
    { s with anchors := s.anchors.map fun a => if a.number = number then { a with draft } else a }

/-- Compose a node and put an anchor on it, if there is one. -/
def anchored (anchor : Option Text) (compose : Composer Draft) : Composer Draft :=
  match anchor with
  | none => compose
  | some name => do
    let number ← openAnchor name
    let draft ← compose
    closeAnchor number draft
    pure draft

/-- The alias of the latest anchor with a name. -/
def reference (line : Nat) (name : Text) : Composer Draft := do
  let s ← get
  match s.anchors.find? (·.name = name) with
  | none => throw (.unknownAnchor name)
  | some a =>
    match a.draft.bind Draft.whole? with
    | some n => pure (.whole (.reference line name (some n)))
    | none =>
      set { s with aliases := s.aliases + 1 }
      pure (.reference line name s.aliases a.number)

/-- The node of what is composed, with all anchors known. -/
def complete (draft : Draft) : Composer Node := do
  let s ← get
  let draftOf (number : Nat) : Option Draft :=
    (s.anchors.find? (·.number = number)).bind Anchor.draft
  pure (draft.unrolled draftOf s.aliases [])

/-- The full name of a tag; none for the tag `!`, which asks for nothing. -/
def tagName (handle suffix : Text) : Composer (Option Tag) := do
  if handle.isEmpty then
    pure (if suffix = "!" then none else some (.ofFullName suffix))
  else
    match (← get).handles.lookup handle with
    | some start => pure (some (.ofFullName (start ++ suffix)))
    | none => throw .malformed

/-- What stands before the content of a node: an anchor and a tag, in either order. -/
structure Properties where
  anchor : Option Text := none
  /-- The tag, which is none when it is written as `!`. -/
  tag : Option (Option Tag) := none

namespace Properties

/-- Whether anything stands before the content. -/
def present (p : Properties) : Bool :=
  p.anchor.isSome || p.tag.isSome

/-- The tag that is asked for. -/
def tag? (p : Properties) : Option Tag :=
  p.tag.join

end Properties

/-- Read the properties of a node. -/
def properties : Composer Properties := do
  let t ← peek
  match t.kind with
  | .anchor name =>
    advance
    let t ← peek
    match t.kind with
    | .tag handle suffix =>
      advance
      let _ ← peek
      pure ⟨some name, some (← tagName handle suffix)⟩
    | _ => pure { anchor := some name }
  | .tag handle suffix =>
    advance
    let t ← peek
    match t.kind with
    | .anchor name =>
      advance
      let _ ← peek
      pure ⟨some name, some (← tagName handle suffix)⟩
    | _ => pure { tag := some (← tagName handle suffix) }
  | _ => pure {}

/-- The tag of a scalar: the one asked for, else that of its text if it is plain, else a string. -/
def scalarTag (asked : Option Tag) (text : Text) (plain : Bool) : Tag :=
  asked.getD (if plain then Scalar.plainTag text else .str)

/-- Whether a token ends an entry of a block mapping. -/
def endsBlockEntry (k : TokenKind) : Bool :=
  k = .key || k = .value || k = .blockEnd

/-- Whether a token ends an entry of a flow sequence. -/
def endsFlowItem (k : TokenKind) : Bool :=
  k = .flowEntry || k = .flowSequenceEnd

/-- Whether a token ends an entry of a flow mapping. -/
def endsFlowPair (k : TokenKind) : Bool :=
  k = .flowEntry || k = .flowMappingEnd

mutual

/-- Compose a node. Block collections are allowed if `block` is set, and a sequence that is not
indented deeper than its key if `unindented` is set. -/
def node (block unindented : Bool) : (fuel : Nat) → Composer Draft
  | 0 => throw .malformed
  | fuel + 1 => do
    let first ← peek
    let line := first.mark.line + 1
    match first.kind with
    | .reference name =>
      advance
      reference line name
    | _ =>
      let props ← properties
      let t ← peek
      let seqTag := props.tag?.getD .seq
      let mapTag := props.tag?.getD .map
      match t.kind with
      | .blockEntry =>
        if unindented then
          anchored props.anchor do pure (.ofItems line seqTag (← unindentedItems fuel))
        else if props.present then
          anchored props.anchor (pure (.whole (.scalar line (scalarTag props.tag? [] true) [])))
        else throw .malformed
      | .scalar text plain =>
        advance
        anchored props.anchor (pure (.whole (.scalar line (scalarTag props.tag? text plain) text)))
      | .flowSequenceStart =>
        advance
        anchored props.anchor do pure (.ofItems line seqTag (← flowItems true fuel))
      | .flowMappingStart =>
        advance
        anchored props.anchor do pure (.ofEntries line mapTag (← flowPairs true fuel))
      | .blockSequenceStart =>
        if block then
          advance
          anchored props.anchor do pure (.ofItems line seqTag (← blockItems fuel))
        else if props.present then
          anchored props.anchor (pure (.whole (.scalar line (scalarTag props.tag? [] true) [])))
        else throw .malformed
      | .blockMappingStart =>
        if block then
          advance
          anchored props.anchor do pure (.ofEntries line mapTag (← blockPairs fuel))
        else if props.present then
          anchored props.anchor (pure (.whole (.scalar line (scalarTag props.tag? [] true) [])))
        else throw .malformed
      | _ =>
        if props.present then
          anchored props.anchor (pure (.whole (.scalar line (scalarTag props.tag? [] true) [])))
        else throw .malformed

/-- The items of a block sequence, up to its end. -/
def blockItems : (fuel : Nat) → Composer (List Draft)
  | 0 => throw .malformed
  | fuel + 1 => do
    let t ← peek
    match t.kind with
    | .blockEntry =>
      advance
      let next ← peek
      let item ←
        if next.kind = .blockEntry || next.kind = .blockEnd then pure (.empty (t.mark.line + 1))
        else node true false fuel
      pure (item :: (← blockItems fuel))
    | .blockEnd =>
      advance
      pure []
    | _ => throw .malformed

/-- The items of a sequence that is not indented deeper than its key. -/
def unindentedItems : (fuel : Nat) → Composer (List Draft)
  | 0 => throw .malformed
  | fuel + 1 => do
    let t ← peek
    match t.kind with
    | .blockEntry =>
      advance
      let next ← peek
      let item ←
        if next.kind = .blockEntry || endsBlockEntry next.kind then pure (.empty (t.mark.line + 1))
        else node true false fuel
      pure (item :: (← unindentedItems fuel))
    | _ => pure []

/-- The entries of a block mapping, up to its end. -/
def blockPairs : (fuel : Nat) → Composer (List (Draft × Draft))
  | 0 => throw .malformed
  | fuel + 1 => do
    let t ← peek
    match t.kind with
    | .key =>
      advance
      let next ← peek
      let k ←
        if endsBlockEntry next.kind then pure (.empty (t.mark.line + 1)) else node true true fuel
      let v ← blockValue fuel
      pure ((k, v) :: (← blockPairs fuel))
    | .blockEnd =>
      advance
      pure []
    | _ => throw .malformed

/-- The value of an entry of a block mapping. -/
def blockValue : (fuel : Nat) → Composer Draft
  | 0 => throw .malformed
  | fuel + 1 => do
    let t ← peek
    if t.kind = .value then
      advance
      let next ← peek
      if endsBlockEntry next.kind then pure (.empty (t.mark.line + 1)) else node true true fuel
    else pure (.empty (t.mark.line + 1))

/-- The items of a flow sequence, up to its end. A key makes an item a mapping of one entry. -/
def flowItems (first : Bool) : (fuel : Nat) → Composer (List Draft)
  | 0 => throw .malformed
  | fuel + 1 => do
    let t ← peek
    if t.kind = .flowSequenceEnd then
      advance
      pure []
    else
      if !first then
        if t.kind = .flowEntry then advance else throw .malformed
      let t ← peek
      if t.kind = .flowSequenceEnd then
        advance
        pure []
      else if t.kind = .key then
        advance
        let next ← peek
        let k ←
          if next.kind = .value || endsFlowItem next.kind then do
            advance
            pure (.empty (next.mark.line + 1))
          else node false false fuel
        let v ← flowItemValue fuel
        let _ ← peek
        pure (.ofEntries (t.mark.line + 1) .map [(k, v)] :: (← flowItems false fuel))
      else
        let item ← node false false fuel
        pure (item :: (← flowItems false fuel))

/-- The value of an item of a flow sequence that has a key. -/
def flowItemValue : (fuel : Nat) → Composer Draft
  | 0 => throw .malformed
  | fuel + 1 => do
    let t ← peek
    if t.kind = .value then
      advance
      let next ← peek
      if endsFlowItem next.kind then pure (.empty (t.mark.line + 1)) else node false false fuel
    else pure (.empty (t.mark.line + 1))

/-- The entries of a flow mapping, up to its end. -/
def flowPairs (first : Bool) : (fuel : Nat) → Composer (List (Draft × Draft))
  | 0 => throw .malformed
  | fuel + 1 => do
    let t ← peek
    if t.kind = .flowMappingEnd then
      advance
      pure []
    else
      if !first then
        if t.kind = .flowEntry then advance else throw .malformed
      let t ← peek
      if t.kind = .flowMappingEnd then
        advance
        pure []
      else if t.kind = .key then
        advance
        let next ← peek
        let k ←
          if next.kind = .value || endsFlowPair next.kind then pure (.empty (next.mark.line + 1))
          else node false false fuel
        let v ← flowValue fuel
        pure ((k, v) :: (← flowPairs false fuel))
      else
        let k ← node false false fuel
        let next ← peek
        pure ((k, .empty (next.mark.line + 1)) :: (← flowPairs false fuel))

/-- The value of an entry of a flow mapping. -/
def flowValue : (fuel : Nat) → Composer Draft
  | 0 => throw .malformed
  | fuel + 1 => do
    let t ← peek
    if t.kind = .value then
      advance
      let next ← peek
      if endsFlowPair next.kind then pure (.empty (next.mark.line + 1)) else node false false fuel
    else pure (.empty (t.mark.line + 1))

end

/-- The handles that stand for something in every document. -/
def defaultHandles : List (Text × Text) :=
  [("!", "!"), ("!!", Tag.coreStart)]

/-- Read the directives of a document. There is at most one version, which is 1.1, and at most one
meaning of a handle. -/
def directives : (fuel : Nat) → (versioned : Bool) → Composer Unit
  | 0, _ => throw .malformed
  | fuel + 1, versioned => do
    let t ← peek
    match t.kind with
    | .versionDirective major minor =>
      if versioned || major ≠ 1 || minor ≠ 1 then throw .malformed
      advance
      directives fuel true
    | .tagDirective handle start =>
      if ((← get).handles.lookup handle).isSome then throw .malformed
      modify fun s => { s with handles := s.handles ++ [(handle, start)] }
      advance
      directives fuel versioned
    | _ => modify fun s => { s with handles := s.handles ++ defaultHandles }

/-- Whether a token starts or ends a document or the stream. -/
def isBoundary : TokenKind → Bool
  | .versionDirective .. | .tagDirective .. | .documentStart | .documentEnd | .streamEnd => true
  | _ => false

/-- The first document of a stream, or nothing if the stream has none. -/
def document (fuel : Nat) : Composer (Option Node) := do
  let _ ← peek
  advance
  let t ← peek
  match t.kind with
  | .streamEnd => pure none
  | .versionDirective .. | .tagDirective .. | .documentStart =>
    directives fuel false
    if (← peek).kind ≠ .documentStart then throw .malformed
    advance
    let t ← peek
    let root ←
      if isBoundary t.kind then pure (.empty (t.mark.line + 1)) else node true false fuel
    let _ ← peek
    pure (some (← complete root))
  | _ =>
    directives fuel false
    let root ← node true false fuel
    let _ ← peek
    pure (some (← complete root))

end Composer

/-- The root of the first document in a stream of bytes, or nothing if the stream has none. What
follows the first document is not read. -/
def Node.ofBytes (bytes : Text) : Except Failure (Option Node) :=
  let source := Source.ofBytes bytes
  (Composer.document (16 * source.limit)).run' { scanner := { source } }

end CqlWriter.Yaml
