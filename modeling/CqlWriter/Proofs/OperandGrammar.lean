import Mathlib
import CqlWriter.Proofs.PlainEntries
import CqlWriter.Proofs.ReadingFailures

/-!
# The grammar of operands

`Spells` defines inductively which operand a node of a document spells. `FirstProblem` defines what
is wrong with a node that spells none: a walk through its parts, each node before its own parts,
meets something that does not fit. The shape of a node, which is all that is looked at before its
parts, agrees with the grammar.
-/

namespace CqlWriter.Document

open Yaml

/-! ### The grammar -/

/-- Besides `args` a mapping has one key. It is `kind` and has the value `body`. -/
def HasKind (entries : List (Node × Node)) (kind : Text) (body : Node) : Prop :=
  ∃ (before after : List (Node × Node)) (key : Node), entries = before ++ (key, body) :: after ∧
    key.text = kind ∧ kind ≠ "args" ∧ ∀ e ∈ before ++ after, e.1.text = "args"

/-- The value of the last key `args` of a mapping, or nothing if there is no such key. -/
inductive HasArgs (entries : List (Node × Node)) : Option Node → Prop
  | none : (∀ e ∈ entries, e.1.text ≠ "args") → HasArgs entries none
  | some {before after : List (Node × Node)} {key args : Node} :
      entries = before ++ (key, args) :: after → key.text = "args" →
        (∀ e ∈ after, e.1.text ≠ "args") → HasArgs entries (some args)

/-- The node is a mapping of one kind, with the body and the arguments that it gives. -/
def Names (n : Node) (kind : Text) (body : Node) (args : Option Node) : Prop :=
  ∃ line tag entries, n.StandsFor (.mapping line tag entries) ∧ HasKind entries kind body ∧
    HasArgs entries args

/-- The node is a sequence of the given items. -/
def IsSequence (n : Node) (items : List Node) : Prop :=
  ∃ line tag, n.StandsFor (.sequence line tag items)

/-- The node spells an operand that has no operands as parts. -/
inductive SpellsLeaf (n : Node) : Operand → Prop
  | null {line : Nat} {text : Text} :
      n.StandsFor (.scalar line .null text) → SpellsLeaf n .null
  | string {line : Nat} {tag : Tag} {text : Text} :
      n.StandsFor (.scalar line tag text) → tag = .str ∨ tag = .timestamp →
        SpellsLeaf n (.string text)
  | truth {line : Nat} {text : Text} :
      n.StandsFor (.scalar line .bool text) → SpellsLeaf n (.const text.lower)
  | integer {line : Nat} {tag : Tag} {text : Text} {value : Int} :
      n.StandsFor (.scalar line tag text) → tag = .int ∨ tag = .float →
        Scalar.ofTagged tag text = .ok (.int value) → SpellsLeaf n (.const (Text.ofInt value))
  | real {line : Nat} {tag : Tag} {text : Text} {value : Binary64} :
      n.StandsFor (.scalar line tag text) → tag = .int ∨ tag = .float →
        Scalar.ofTagged tag text = .ok (.float value) →
          SpellsLeaf n (.const (floatLiteral text value))
  | const {body m : Node} :
      Names n "const" body none → body.StandsFor m → SpellsLeaf n (.const m.text)
  | param {body m : Node} :
      Names n "param" body none → body.StandsFor m → SpellsLeaf n (.param m.text)
  | column {body m : Node} :
      Names n "column" body none → body.StandsFor m → SpellsLeaf n (.column (.ofText m.text))
  | call {body m : Node} :
      Names n "func" body none → body.StandsFor m → SpellsLeaf n (.call m.text [])

/-- The node spells an operand that is made of the operands that the items spell. The elements of a
list or a set have no keys. -/
inductive SpellsElements (n : Node) : (List Operand → Operand) → List Node → Prop
  | tuple {body : Node} {items : List Node} :
      Names n "tuple" body none → IsSequence body items → SpellsElements n .tuple items
  | list {body : Node} {items : List Node} :
      Names n "list" body none → IsSequence body items →
        SpellsElements n (fun os => .collection .list (os.map fun o => (.hole, o))) items
  | set {body : Node} {items : List Node} :
      Names n "set" body none → IsSequence body items →
        SpellsElements n (fun os => .collection .set (os.map fun o => (.hole, o))) items
  | call {body m args : Node} {items : List Node} :
      Names n "func" body (some args) → body.StandsFor m → IsSequence args items →
        SpellsElements n (.call m.text) items

/-- The node spells a map literal with the given entries. -/
def SpellsEntries (n : Node) (items : List Node) : Prop :=
  ∃ body, Names n "map" body none ∧ IsSequence body items

/-- The entry of a map literal can be decoded, and has the given key and value. -/
def HasKeyAndValue (n key value : Node) : Prop :=
  (Decode.follow (mapEntryRecord.decode {}) n).run = .ok (some ⟨some key, some value⟩)

/-- The node spells the operand. Each item of a sequence spells one element, in the same order; each
entry of a map literal has a key and a value, which spell those of one element. -/
inductive Spells : Node → Operand → Prop
  | leaf {n : Node} {o : Operand} : SpellsLeaf n o → Spells n o
  | elements {n : Node} {make : List Operand → Operand} {items : List Node} {os : List Operand} :
      SpellsElements n make items → items.length = os.length →
        (∀ {m o}, (m, o) ∈ items.zip os → Spells m o) → Spells n (make os)
  -- functions give the key and the value of each entry, since an entry has only one of each
  | entries {n : Node} {items : List Node} {es : List (Operand × Operand)}
      {key value : Node → Node} :
      SpellsEntries n items → items.length = es.length →
        (∀ m ∈ items, HasKeyAndValue m (key m) (value m)) →
        (∀ {m e}, (m, e) ∈ items.zip es → Spells (key m) e.1) →
        (∀ {m e}, (m, e) ∈ items.zip es → Spells (value m) e.2) → Spells n (.collection .map es)

/-! ### What does not fit -/

/-- What is met on a walk through an operand: the node of an operand, or an entry of a map
literal. -/
inductive Visit where
  | operand (n : Node)
  | mapEntry (n : Node)

namespace Visit

def node : Visit → Node
  | operand n | mapEntry n => n

/-- What is met fits the grammar together with all its parts. -/
def Fits : Visit → Prop
  | operand n => ∃ o, Spells n o
  | mapEntry n => ∃ key value k v, HasKeyAndValue n key value ∧ Spells key k ∧ Spells value v

/-- What is met fits the grammar by itself, and has the given parts there, in order. -/
inductive HasParts : Visit → List Visit → Prop
  | leaf {n : Node} {o : Operand} : SpellsLeaf n o → HasParts (operand n) []
  | elements {n : Node} {make : List Operand → Operand} {items : List Node} :
      SpellsElements n make items → HasParts (operand n) (items.map operand)
  | entries {n : Node} {items : List Node} :
      SpellsEntries n items → HasParts (operand n) (items.map mapEntry)
  | keyAndValue {n key value : Node} :
      HasKeyAndValue n key value → HasParts (mapEntry n) [operand key, operand value]

end Visit

inductive IsNoSequence (n : Node) : Text → Prop
  | scalar {line : Nat} {tag : Tag} {text : Text} :
      n.StandsFor (.scalar line tag text) → IsNoSequence n "scalar"
  | mapping {line : Nat} {tag : Tag} {entries : List (Node × Node)} :
      n.StandsFor (.mapping line tag entries) → IsNoSequence n "mapping"

/-- The keys of a mapping but for `args`, in order. -/
def otherKeys (entries : List (Node × Node)) : List Text :=
  (entries.map (·.1.text)).filter fun key => key ≠ "args"

def kindNames : List Text :=
  ["const", "param", "column", "func", "tuple", "list", "set", "map"]

/-- What is wrong with a node by itself, whatever its parts are. -/
inductive Visit.Offends (entry : Nat) : Visit → Problem → Prop
  | number {n : Node} {line : Nat} {tag : Tag} {text : Text} :
      n.StandsFor (.scalar line tag text) → tag = .int ∨ tag = .float →
        (∀ value, Scalar.ofTagged tag text ≠ .ok (.int value)) →
        (∀ value, Scalar.ofTagged tag text ≠ .ok (.float value)) →
        Offends entry (operand n) (.unknown entry "numeric literal" text)
  | tag {n : Node} {line : Nat} {tag : Tag} {text : Text} :
      n.StandsFor (.scalar line tag text) →
        tag ∉ [.null, .str, .timestamp, .bool, .int, .float] →
        Offends entry (operand n) (.unknown entry "scalar tag" tag.text)
  | sequence {n : Node} {items : List Node} :
      IsSequence n items → Offends entry (operand n) (.unknown entry "operand" "sequence")
  | noKind {n : Node} {line : Nat} {tag : Tag} {entries : List (Node × Node)} :
      n.StandsFor (.mapping line tag entries) → (∀ e ∈ entries, e.1.text = "args") →
        Offends entry (operand n)
          (.missing entry "operand" "one of const, param, column, func, tuple, list, set, map")
  | kinds {n : Node} {line : Nat} {tag : Tag} {entries : List (Node × Node)} :
      n.StandsFor (.mapping line tag entries) → 2 ≤ (otherKeys entries).length →
        Offends entry (operand n) (.unknown entry "operand" (Text.join "+" (otherKeys entries)))
  | args {n body args : Node} {kind : Text} :
      Names n kind body (some args) → kind ≠ "func" →
        Offends entry (operand n) (.unknown entry "operand" (kind ++ "+args"))
  | kind {n body : Node} {kind : Text} :
      Names n kind body none → kind ∉ kindNames →
        Offends entry (operand n) (.unknown entry "operand" kind)
  | items {n body : Node} {kind word : Text} :
      Names n kind body none → kind ∈ (["tuple", "list", "set"] : List Text) →
        IsNoSequence body word → Offends entry (operand n) (.unknown entry "operand list" word)
  | arguments {n body args : Node} {word : Text} :
      Names n "func" body (some args) → IsNoSequence args word →
        Offends entry (operand n) (.unknown entry "operand list" word)
  | literal {n body : Node} {word : Text} :
      Names n "map" body none → IsNoSequence body word →
        Offends entry (operand n) (.unknown entry "map literal" word)
  | unreadable {n : Node} {failure : Failure} :
      (Decode.follow (mapEntryRecord.decode {}) n).run = .error failure →
        Offends entry (mapEntry n) (.badMapEntry failure)
  | incomplete {n : Node} {e : Option MapEntry} :
      (Decode.follow (mapEntryRecord.decode {}) n).run = .ok e →
        (∀ key value, e ≠ some ⟨some key, some value⟩) →
        Offends entry (mapEntry n) (.missing entry "map entry" "key and value")

/-- The first problem on a walk that meets each node before its parts: that of the node itself, or
else the first one in a part, where all parts in front fit. -/
inductive FirstProblem (entry : Nat) : Visit → Problem → Prop
  | here {v : Visit} {p : Problem} : v.Offends entry p → FirstProblem entry v p
  | within {v w : Visit} {before after : List Visit} {p : Problem} :
      v.HasParts (before ++ w :: after) → (∀ u ∈ before, u.Fits) → FirstProblem entry w p →
        FirstProblem entry v p

/-! ### Mappings -/

/-- The entries that tell a kind are those whose key is not `args`. -/
lemma hasKind_iff {entries : List (Node × Node)} {kind : Text} {body : Node} :
    HasKind entries kind body ↔ ∃ key, kindsOf entries = [(key, body)] ∧ key.text = kind := by
  have hnone : ∀ es : List (Node × Node), es.filter (fun e => !isArgs e) = [] ↔
      ∀ e ∈ es, e.1.text = "args" := by
    intro es
    simp [isArgs]
  unfold HasKind kindsOf
  constructor
  · rintro ⟨before, after, key, rfl, rfl, hkind, hothers⟩
    have hbefore := (hnone before).mpr fun e he => hothers e (by simp [he])
    have hafter := (hnone after).mpr fun e he => hothers e (by simp [he])
    refine ⟨key, ?_, rfl⟩
    rw [List.filter_append, hbefore, List.filter_cons_of_pos (by simpa [isArgs] using hkind),
      hafter, List.nil_append]
  · rintro ⟨key, hkinds, rfl⟩
    obtain ⟨before, after, rfl, hbefore, hkey, hafter⟩ := List.filter_eq_cons_iff.mp hkinds
    refine ⟨before, after, key, rfl, rfl, by simpa [isArgs] using hkey, fun e he => ?_⟩
    rcases List.mem_append.mp he with he | he
    · simpa [isArgs] using hbefore e he
    · exact (hnone after).mp hafter e he

/-- The last of the arguments counts. -/
lemma hasArgs_iff {entries : List (Node × Node)} {args : Option Node} :
    HasArgs entries args ↔ argsOf entries = args := by
  have hnone : ∀ es : List (Node × Node), es.filter isArgs = [] ↔
      ∀ e ∈ es, e.1.text ≠ "args" := by
    intro es
    simp [isArgs]
  unfold argsOf
  constructor
  · intro h
    cases h with
    | none h => rw [(hnone entries).mpr h, List.getLast?_nil, Option.map_none]
    | some hsplit hkey hafter =>
      rw [hsplit, List.filter_append, List.filter_cons_of_pos (by simpa [isArgs] using hkey),
        (hnone _).mpr hafter]
      simp
  · rintro rfl
    cases hlast : (entries.filter isArgs).getLast? with
    | none => exact .none ((hnone entries).mp (List.getLast?_eq_none_iff.mp hlast))
    | some e =>
      obtain ⟨front, hfront⟩ := List.getLast?_eq_some_iff.mp hlast
      obtain ⟨before, rest, rfl, -, hrest⟩ := List.filter_eq_append_iff.mp hfront
      obtain ⟨others, after, rfl, -, hkey, hafter⟩ := List.filter_eq_cons_iff.mp hrest
      rw [← List.append_assoc]
      exact .some rfl (by simpa [isArgs] using hkey) ((hnone after).mp hafter)

/-- A mapping names a kind exactly when it is read as one. -/
lemma names_iff {n body : Node} {kind : Text} {args : Option Node} :
    Names n kind body args ↔ ∃ line tag entries key, n.resolved = .mapping line tag entries ∧
      kindsOf entries = [(key, body)] ∧ key.text = kind ∧ argsOf entries = args := by
  unfold Names
  constructor
  · rintro ⟨line, tag, entries, hn, hkind, hargs⟩
    obtain ⟨key, hkinds, hkey⟩ := hasKind_iff.mp hkind
    exact ⟨line, tag, entries, key, Node.standsFor_iff.mp hn, hkinds, hkey, hasArgs_iff.mp hargs⟩
  · rintro ⟨line, tag, entries, key, hn, hkinds, hkey, hargs⟩
    exact ⟨line, tag, entries, Node.standsFor_iff.mpr hn, hasKind_iff.mpr ⟨key, hkinds, hkey⟩,
      hasArgs_iff.mpr hargs⟩

lemma map_kindsOf (entries : List (Node × Node)) :
    (kindsOf entries).map (·.1.text) = otherKeys entries := by
  rw [kindsOf, otherKeys, List.filter_map]
  congr 2
  funext e
  simp [isArgs]

/-- A text is no literal exactly when it can be decoded neither as an integer nor as a float. -/
lemma numberLiteral?_eq_none_iff {tag : Tag} {text : Text} :
    numberLiteral? tag text = none ↔ (∀ value, Scalar.ofTagged tag text ≠ .ok (.int value)) ∧
      ∀ value, Scalar.ofTagged tag text ≠ .ok (.float value) := by
  unfold numberLiteral?
  split <;> simp_all

/-! ### Parts of an operand

Every part of an operand lies inside its node and is less high. So the height of a node bounds how
deep the making of its operand goes. -/

lemma IsSequence.contains {n m : Node} {items : List Node} (h : IsSequence n items)
    (hm : m ∈ items) : n.Contains m := by
  obtain ⟨line, tag, hn⟩ := h
  refine .of_resolved ?_
  rw [Node.standsFor_iff.mp hn]
  exact .item hm

/-- The body and the arguments lie inside the mapping. -/
lemma Names.contains {n body : Node} {kind : Text} {args : Option Node}
    (h : Names n kind body args) : n.Contains body ∧ ∀ a ∈ args, n.Contains a := by
  obtain ⟨line, tag, entries, key, hn, hkinds, -, rfl⟩ := names_iff.mp h
  have hvalue : ∀ e ∈ entries, n.Contains e.2 := by
    intro e he
    refine .of_resolved ?_
    rw [hn]
    exact .value he
  refine ⟨?_, fun a ha => ?_⟩
  · have hmem : (key, body) ∈ kindsOf entries := by simp [hkinds]
    exact hvalue (key, body) (List.mem_of_mem_filter hmem)
  · obtain ⟨e, he, rfl⟩ := Option.map_eq_some_iff.mp ha
    exact hvalue e (List.mem_of_mem_filter (List.mem_of_getLast? he))

lemma SpellsElements.contains {n m : Node} {make : List Operand → Operand} {items : List Node}
    (h : SpellsElements n make items) (hm : m ∈ items) : n.Contains m := by
  cases h with
  | tuple hnames hitems | list hnames hitems | set hnames hitems =>
    exact .trans hnames.contains.1 (hitems.contains hm)
  | call hnames _ hargs => exact .trans (hnames.contains.2 _ rfl) (hargs.contains hm)

lemma SpellsEntries.contains {n m : Node} {items : List Node} (h : SpellsEntries n items)
    (hm : m ∈ items) : n.Contains m := by
  obtain ⟨body, hnames, hbody⟩ := h
  exact .trans hnames.contains.1 (hbody.contains hm)

/-- The entry of a map literal is read as the grammar says. -/
lemma hasKeyAndValue_iff {n k v : Node} :
    HasKeyAndValue n k v ↔ readMapEntry n = .ok ⟨some k, some v⟩ := by
  unfold HasKeyAndValue readMapEntry
  rcases (Decode.follow (mapEntryRecord.decode {}) n).run with failure | _ | e
  · exact iff_of_false (by simp) (by rintro ⟨⟩)
  · exact iff_of_false (by simp) (by rintro ⟨⟩)
  · constructor
    · rintro ⟨⟩
      rfl
    · rintro ⟨⟩
      rfl

/-- The key and the value lie inside the entry, or inside what it merges. -/
lemma HasKeyAndValue.contains {n k v : Node} (h : HasKeyAndValue n k v) :
    n.Contains k ∧ n.Contains v := by
  obtain ⟨hk, hv⟩ := forall_contains_of_readMapEntry (hasKeyAndValue_iff.mp h)
  exact ⟨hk k rfl, hv v rfl⟩

lemma height_le_heightList {n : Node} {items : List Node} (h : n ∈ items) :
    height n ≤ heightList items := by
  induction items with
  | nil => cases h
  | cons m ms ih =>
    rw [heightList]
    rcases List.mem_cons.mp h with rfl | h
    · exact le_max_left _ _
    · exact le_max_of_le_right (ih h)

lemma height_le_heightPairs {e : Node × Node} {es : List (Node × Node)} (h : e ∈ es) :
    height e.2 ≤ heightPairs es := by
  induction es with
  | nil => cases h
  | cons d ds ih =>
    rw [heightPairs]
    rcases List.mem_cons.mp h with rfl | h
    · exact le_max_of_le_left (le_max_right _ _)
    · exact le_max_of_le_right (ih h)

/-- What lies inside a node is less high, so that the fuel of the builder suffices. -/
lemma height_lt_of_contains {n m : Node} (h : n.Contains m) : height m < height n := by
  induction h with
  | value he =>
    rw [height]
    exact Nat.lt_succ_of_le (height_le_heightPairs he)
  | item hn =>
    rw [height]
    exact Nat.lt_succ_of_le (height_le_heightList hn)
  | target =>
    rw [height, heightOption]
    exact Nat.lt_succ_self _
  | trans _ _ ih ih' => exact ih'.trans ih

lemma height_pos (n : Node) : 0 < height n := by
  cases n <;> simp [height]

/-- What holds of a node whenever it holds of all nodes inside it holds of every node. -/
lemma contains_induction {P : Node → Prop} (step : ∀ n, (∀ m, n.Contains m → P m) → P n)
    (n : Node) : P n := by
  induction hheight : height n using Nat.strongRecOn generalizing n with
  | ind k ih =>
    subst hheight
    exact step n fun m hm => ih (height m) (height_lt_of_contains hm) m rfl

/-! ### Shapes and the grammar -/

namespace Shape

variable {entry : Nat} {n : Node}

/-- A mapping that names a kind has the shape of this kind. -/
lemma of_names {kind : Text} {body : Node} {args : Option Node} (h : Names n kind body args)
    (hargs : args.isSome = true → kind = "func") : of entry n = ofKind entry kind body args := by
  obtain ⟨line, tag, entries, key, hn, hkinds, rfl, rfl⟩ := names_iff.mp h
  rw [of, hn]
  simp only [ofMapping, hkinds]
  rw [if_neg]
  simpa using hargs

lemma ofItems_of_isSequence {m : Node} {items : List Node} (h : IsSequence m items) (what : Text)
    (whole : List Node → Shape) : ofItems entry what m whole = whole items := by
  obtain ⟨line, tag, hm⟩ := h
  rw [ofItems, Node.standsFor_iff.mp hm]

lemma of_eq_leaf {o : Operand} (h : SpellsLeaf n o) : of entry n = leaf o := by
  cases h with
  | null hn | truth hn => simp only [of, Node.standsFor_iff.mp hn, ofScalar]
  | string hn htag =>
    rcases htag with rfl | rfl <;> simp only [of, Node.standsFor_iff.mp hn, ofScalar]
  | integer hn htag hvalue =>
    rcases htag with rfl | rfl <;>
      simp only [of, Node.standsFor_iff.mp hn, ofScalar, numberLiteral?, hvalue]
  | real hn htag hvalue =>
    rcases htag with rfl | rfl <;>
      simp only [of, Node.standsFor_iff.mp hn, ofScalar, numberLiteral?, hvalue]
  | const hnames hbody | param hnames hbody | column hnames hbody | call hnames hbody =>
    rw [of_names hnames (by simp), ← Node.standsFor_iff.mp hbody]
    rfl

/-- The shape is that of the grammar: the parts are the items, in order. -/
lemma of_eq_elements {make : List Operand → Operand} {items : List Node}
    (h : SpellsElements n make items) : of entry n = elements make items := by
  cases h with
  | tuple hnames hitems | list hnames hitems | set hnames hitems =>
    rw [of_names hnames (by simp)]
    exact ofItems_of_isSequence hitems _ _
  | call hnames hbody hargs =>
    rw [of_names hnames (by simp), ← Node.standsFor_iff.mp hbody]
    exact ofItems_of_isSequence hargs _ _

lemma of_eq_entries {items : List Node} (h : SpellsEntries n items) :
    of entry n = entries items := by
  obtain ⟨body, hnames, hbody⟩ := h
  rw [of_names hnames (by simp)]
  exact ofItems_of_isSequence hbody _ _

/-- What a shape says about a node is so by the grammar. Only a node with a cycle may be endless. -/
inductive Agrees (entry : Nat) (n : Node) : Shape → Prop
  | leaf {o : Operand} : SpellsLeaf n o → Agrees entry n (leaf o)
  | refused {p : Problem} : (Visit.operand n).Offends entry p → Agrees entry n (refused p)
  | endless : ¬ n.Acyclic → Agrees entry n (refused .endless)
  | elements {make : List Operand → Operand} {items : List Node} :
      SpellsElements n make items → Agrees entry n (elements make items)
  | entries {items : List Node} : SpellsEntries n items → Agrees entry n (entries items)

/-- Each tag of a scalar has one case of the grammar. -/
lemma agrees_ofScalar {line : Nat} {tag : Tag} {text : Text}
    (hn : n.StandsFor (.scalar line tag text)) : Agrees entry n (ofScalar entry tag text) := by
  have hnumber : tag = .int ∨ tag = .float → ∀ literal, numberLiteral? tag text = some literal →
      SpellsLeaf n (.const literal) := by
    intro htag literal hliteral
    unfold numberLiteral? at hliteral
    split at hliteral
    · rename_i hvalue
      cases hliteral
      exact .integer hn htag hvalue
    · rename_i hvalue
      cases hliteral
      exact .real hn htag hvalue
    · cases hliteral
  have hnone : tag = .int ∨ tag = .float → numberLiteral? tag text = none →
      (Visit.operand n).Offends entry (.unknown entry "numeric literal" text) := by
    intro htag hliteral
    obtain ⟨hint, hfloat⟩ := numberLiteral?_eq_none_iff.mp hliteral
    exact .number hn htag hint hfloat
  unfold ofScalar
  split
  · exact .leaf (.null hn)
  · exact .leaf (.string hn (.inl rfl))
  · exact .leaf (.string hn (.inr rfl))
  · exact .leaf (.truth hn)
  · split
    · exact .leaf (hnumber (.inl rfl) _ ‹_›)
    · exact .refused (hnone (.inl rfl) ‹_›)
  · split
    · exact .leaf (hnumber (.inr rfl) _ ‹_›)
    · exact .refused (hnone (.inr rfl) ‹_›)
  · refine .refused (.tag hn ?_)
    simp_all

/-- Where a sequence is asked for, a node is one, is none, or is an alias of itself. -/
lemma agrees_ofItems {m : Node} (hm : n.Contains m) {what : Text} {whole : List Node → Shape}
    (h : ∀ items, IsSequence m items → Agrees entry n (whole items))
    (hnone : ∀ word, IsNoSequence m word →
      (Visit.operand n).Offends entry (.unknown entry what word)) :
    Agrees entry n (ofItems entry what m whole) := by
  unfold ofItems
  cases hresolved : m.resolved with
  | sequence line tag items => exact h items ⟨line, tag, Node.standsFor_iff.mpr hresolved⟩
  | scalar line tag text => exact .refused (hnone _ (.scalar (Node.standsFor_iff.mpr hresolved)))
  | mapping line tag entries =>
    exact .refused (hnone _ (.mapping (Node.standsFor_iff.mpr hresolved)))
  | reference line name target =>
    exact .endless fun hn => (hn.of_contains hm).resolved_ne line name target hresolved

/-- Each kind has one case of the grammar, and any other is refused. -/
lemma agrees_ofKind {kind : Text} {body : Node} {args : Option Node} (h : Names n kind body args)
    (hargs : args.isSome = true → kind = "func") :
    Agrees entry n (ofKind entry kind body args) := by
  have hnone : kind ≠ "func" → args = none := by
    intro hkind
    by_contra hsome
    exact hkind (hargs (Option.isSome_iff_ne_none.mpr hsome))
  have hbody : body.StandsFor body.resolved := Node.standsFor_iff.mpr rfl
  obtain ⟨hinside, hinsideArgs⟩ := h.contains
  unfold ofKind
  dsimp only
  split_ifs with hconst hparam hcolumn hfunc htuple hlist hset hmap
  · subst hconst
    obtain rfl := hnone (by decide)
    exact .leaf (.const h hbody)
  · subst hparam
    obtain rfl := hnone (by decide)
    exact .leaf (.param h hbody)
  · subst hcolumn
    obtain rfl := hnone (by decide)
    exact .leaf (.column h hbody)
  · subst hfunc
    cases args with
    | none => exact .leaf (.call h hbody)
    | some m =>
      exact agrees_ofItems (hinsideArgs m rfl)
        (fun items hitems => .elements (.call h hbody hitems)) fun word hword => .arguments h hword
  · subst htuple
    obtain rfl := hnone (by decide)
    exact agrees_ofItems hinside (fun items hitems => .elements (.tuple h hitems))
      fun word hword => .items h (by simp) hword
  · subst hlist
    obtain rfl := hnone (by decide)
    exact agrees_ofItems hinside (fun items hitems => .elements (.list h hitems))
      fun word hword => .items h (by simp) hword
  · subst hset
    obtain rfl := hnone (by decide)
    exact agrees_ofItems hinside (fun items hitems => .elements (.set h hitems))
      fun word hword => .items h (by simp) hword
  · subst hmap
    obtain rfl := hnone (by decide)
    exact agrees_ofItems hinside (fun items hitems => .entries ⟨body, h, hitems⟩)
      fun word hword => .literal h hword
  · obtain rfl := hnone hfunc
    refine .refused (.kind h ?_)
    simp [kindNames, *]

/-- The shape of a node is what the grammar says. -/
lemma agrees_of (entry : Nat) (n : Node) : Agrees entry n (of entry n) := by
  unfold of
  cases hn : n.resolved with
  | scalar line tag text => exact agrees_ofScalar (Node.standsFor_iff.mpr hn)
  | sequence line tag items =>
    exact .refused (.sequence ⟨line, tag, Node.standsFor_iff.mpr hn⟩)
  | reference line name target =>
    exact .endless fun hacyclic => hacyclic.resolved_ne line name target hn
  | mapping line tag es =>
    have hn := Node.standsFor_iff.mpr hn
    dsimp only
    unfold ofMapping
    split
    · rename_i hkinds
      refine .refused (.noKind hn fun e he => ?_)
      simpa [isArgs] using List.filter_eq_nil_iff.mp hkinds e he
    · rename_i key body hkinds
      have hnames : Names n key.text body (argsOf es) :=
        ⟨line, tag, es, hn, hasKind_iff.mpr ⟨key, hkinds, rfl⟩, hasArgs_iff.mpr rfl⟩
      split_ifs with hargs
      · rw [Bool.and_eq_true, decide_eq_true_eq] at hargs
        obtain ⟨args, hsome⟩ := Option.isSome_iff_exists.mp hargs.1
        rw [hsome] at hnames
        exact .refused (.args hnames hargs.2)
      · exact agrees_ofKind hnames (by simpa using hargs)
    · rename_i hmany hone
      rw [map_kindsOf]
      refine .refused (.kinds hn ?_)
      rw [← map_kindsOf, List.length_map]
      rcases hes : kindsOf es with _ | ⟨⟨key, body⟩, _ | ⟨e, rest⟩⟩
      · exact absurd hes hmany
      · exact absurd hes (hone key body)
      · simp

end Shape

end CqlWriter.Document
