import Mathlib
import CqlWriter.Statement.Operand
import CqlWriter.Proofs.Reading

/-!
# Reading operands back

The text of a well-formed operand says what the operand is, up to one thing: an empty map and an
empty set are both written as a pair of braces. The reader below looks at the first byte of an
operand to tell its kind, and goes on with what stands behind it. It gives back every well-formed
operand, nested to any depth, from its text and whatever delimiter follows.
-/

namespace CqlWriter

namespace Operand

/-! ### Well-formed operands -/

/-- Names are words and constants are string literals, truth values or numerals; the elements of
lists and sets have no key and those of maps have one. -/
inductive WellFormed : Operand → Prop
  | string (value : Text) : WellFormed (.string value)
  | truth {text : Text} : text = "true" ∨ text = "false" → WellFormed (.const text)
  | numeral {text : Text} : Text.isNumeral text = true → WellFormed (.const text)
  | marker : WellFormed (.param "")
  | param {name : Text} : Text.isWord name = true → WellFormed (.param name)
  | column {name : Identifier} : name.WellFormed →
      (name.quoted = false → name.name ≠ "NULL" ∧ name.name ≠ "true" ∧ name.name ≠ "false") →
        WellFormed (.column name)
  | call {name : Text} {args : List Operand} :
      Text.isWord name = true → (∀ a ∈ args, WellFormed a) → WellFormed (.call name args)
  | tuple {elements : List Operand} :
      (∀ e ∈ elements, WellFormed e) → WellFormed (.tuple elements)
  | list {elements : List (Operand × Operand)} :
      (∀ e ∈ elements, e.1 = .hole) → (∀ e ∈ elements, WellFormed e.2) →
        WellFormed (.collection .list elements)
  | set {elements : List (Operand × Operand)} :
      (∀ e ∈ elements, e.1 = .hole) → (∀ e ∈ elements, WellFormed e.2) →
        WellFormed (.collection .set elements)
  | map {elements : List (Operand × Operand)} :
      (∀ e ∈ elements, WellFormed e.1) → (∀ e ∈ elements, WellFormed e.2) →
        WellFormed (.collection .map elements)
  | null : WellFormed .null

lemma WellFormed.isHole {o : Operand} (h : o.WellFormed) : o.isHole = false := by
  cases h <;> rfl

mutual

/-- The operand with an empty set in place of every empty map. -/
def canonical : Operand → Operand
  | call name args => call name (canonicalList args)
  | tuple elements => tuple (canonicalList elements)
  | collection kind elements =>
    collection (if kind = .map && elements.isEmpty then .set else kind) (canonicalElements elements)
  | o => o

def canonicalList : List Operand → List Operand
  | [] => []
  | o :: os => canonical o :: canonicalList os

def canonicalElements : List (Operand × Operand) → List (Operand × Operand)
  | [] => []
  | (k, v) :: es => (canonical k, canonical v) :: canonicalElements es

end

lemma canonicalList_eq_map (os : List Operand) : canonicalList os = os.map canonical := by
  induction os with
  | nil => rfl
  | cons o os ih => rw [canonicalList, ih, List.map_cons]

lemma canonicalElements_eq_map (es : List (Operand × Operand)) :
    canonicalElements es = es.map fun e => (e.1.canonical, e.2.canonical) := by
  induction es with
  | nil => rfl
  | cons e es ih => rw [canonicalElements, ih, List.map_cons]

@[simp] lemma isHole_canonical (o : Operand) : o.canonical.isHole = o.isHole := by
  cases o <;> simp [canonical, isHole]

mutual

/-- The empty set and the empty map have the same text, so the text is unchanged. -/
lemma cql_canonical (o : Operand) : o.canonical.cql = o.cql := by
  match o with
  | .hole | .const _ | .param _ | .column _ | .null => rw [canonical] <;> simp
  | .call name args => rw [canonical, cql, cql, cqlList_canonicalList args]
  | .tuple elements => rw [canonical, cql, cql, cqlList_canonicalList elements]
  | .collection kind elements =>
    match kind, elements with
    | .map, [] => rfl
    | .map, e :: es => simp [canonical, cql, cqlElements_canonicalElements .map (e :: es)]
    | .list, es | .set, es | .other _, es =>
      simp [canonical, cql, cqlElements_canonicalElements _ es]

/-- Empty maps and empty sets are written alike in a list. -/
lemma cqlList_canonicalList (os : List Operand) : cqlList (canonicalList os) = cqlList os := by
  match os with
  | [] => rfl
  | o :: os => rw [canonicalList, cqlList, cqlList, cql_canonical o, cqlList_canonicalList os]

lemma cqlElements_canonicalElements (kind : CollectionKind) (es : List (Operand × Operand)) :
    cqlElements kind (canonicalElements es) = cqlElements kind es := by
  match es with
  | [] => rfl
  | (k, v) :: es =>
    rw [canonicalElements, cqlElements, cqlElements, cql_canonical k, cql_canonical v,
      isHole_canonical, cqlElements_canonicalElements kind es]

end

/-! ### The reader -/

def ofWord (word : Text) : Operand :=
  if word = "NULL" then .null
  else if word = "true" ∨ word = "false" then .const word
  else .column ⟨word, false⟩

/-- Read an element between braces: a value, or a key and a value. -/
def readElement (operand : Reader Operand) : Reader (Operand × Operand) := fun t => do
  let (first, t) ← operand t
  match Text.dropStart? ": " t with
  | some t => do
    let (value, t) ← operand t
    pure ((first, value), t)
  | none => pure ((.hole, first), t)

def bracesKind (elements : List (Operand × Operand)) : CollectionKind :=
  if elements.any fun e => !e.1.isHole then .map else .set

/-- Read an operand that starts with neither a letter nor a digit nor a minus sign, given the
reader for the operands inside it. -/
def readMarked (operand : Reader Operand) : UInt8 → Reader Operand
  | 0x22, t => (Text.readQuoted 0x22 t).map fun p => (.column ⟨p.1, true⟩, p.2)
  | 0x27, t => (Text.readQuoted 0x27 t).map fun p => (.string p.1, p.2)
  | 0x28, t => (Reader.sequence operand 0x29 t).map fun p => (.tuple p.1, p.2)
  | 0x3a, t =>
    let (name, rest) := Text.readWhile Text.isWordByte t
    some (.param name, rest)
  | 0x3f, t => some (.param "", t)
  | 0x5b, t => (Reader.sequence operand 0x5d t).map fun p =>
    (.collection .list (p.1.map fun v => (.hole, v)), p.2)
  | 0x7b, t => (Reader.sequence (readElement operand) 0x7d t).map fun p =>
    (.collection (bracesKind p.1) p.1, p.2)
  | _, _ => none

/-- Read an operand that is nested at most `n` deep. -/
def read : (n : Nat) → Reader Operand
  | 0, _ => none
  | _ + 1, [] => none
  | n + 1, b :: t =>
    if Text.isLetter b then
      let (word, rest) := Text.readWhile Text.isWordByte (b :: t)
      match rest with
      | 0x28 :: rest => (Reader.sequence (read n) 0x29 rest).map fun p => (.call word p.1, p.2)
      | rest => some (ofWord word, rest)
    else if Integer.isDigit b || b = 0x2d then
      let (numeral, rest) := Text.readWhile Text.isNumeralByte (b :: t)
      some (.const numeral, rest)
    else readMarked (read n) b t

/-- The bytes that may follow an operand: those that separate or close, and the blank. -/
def endsOperand (b : UInt8) : Bool :=
  b = 0x2c || b = 0x29 || b = 0x5d || b = 0x7d || b = 0x3a || b = 0x20

/-- The six bytes that may follow an operand. -/
lemma endsOperand_cases {b : UInt8} (h : endsOperand b = true) :
    b = 0x2c ∨ b = 0x29 ∨ b = 0x5d ∨ b = 0x7d ∨ b = 0x3a ∨ b = 0x20 := by
  simpa [endsOperand, or_assoc] using h

lemma not_isWordByte_of_ends {b : UInt8} (h : endsOperand b = true) :
    (!Text.isWordByte b) = true := by
  rcases endsOperand_cases h with rfl | rfl | rfl | rfl | rfl | rfl <;> rfl

lemma not_isNumeralByte_of_ends {b : UInt8} (h : endsOperand b = true) :
    (!Text.isNumeralByte b) = true := by
  rcases endsOperand_cases h with rfl | rfl | rfl | rfl | rfl | rfl <;> rfl

/-- A byte that may follow an operand is none that belongs to it. -/
lemma ne_of_ends {q : UInt8} (hq : endsOperand q = false) {b : UInt8}
    (h : endsOperand b = true) : decide (b ≠ q) = true := by
  refine decide_eq_true ?_
  rintro rfl
  rw [hq] at h
  cases h

/-! ### Operands without parts -/

/-- A word is read as what it stands for when no parenthesis follows. -/
lemma read_word (n : Nat) {word : Text} (hword : Text.isWord word = true) :
    (read (n + 1)).Reads word (ofWord word) endsOperand := by
  intro rest hrest
  obtain ⟨b, s, rfl, hb, hbytes⟩ := Text.isWord_iff.mp hword
  have hspan := Text.readWhile_append hbytes (hrest.mono fun _ => not_isWordByte_of_ends)
  rw [List.cons_append] at hspan ⊢
  rw [read, if_pos hb, hspan]
  cases rest with
  | nil => rfl
  | cons c r =>
    have hc : endsOperand c = true := by simpa using hrest
    rcases endsOperand_cases hc with rfl | rfl | rfl | rfl | rfl | rfl <;> rfl

/-- A numeral is read up to what may follow it. -/
lemma read_numeral (n : Nat) {numeral : Text} (hnumeral : Text.isNumeral numeral = true) :
    (read (n + 1)).Reads numeral (.const numeral) endsOperand := by
  intro rest hrest
  obtain ⟨b, s, rfl, hb, hbytes⟩ := Text.isNumeral_iff.mp hnumeral
  have hspan := Text.readWhile_append hbytes (hrest.mono fun _ => not_isNumeralByte_of_ends)
  have hletter : Text.isLetter b = false := by grind [Integer.isDigit, Text.isLetter]
  rw [List.cons_append] at hspan ⊢
  rw [read, if_neg (by simp [hletter]), if_pos hb, hspan]

/-- Behind a byte that starts neither a word nor a numeral, the kind of the operand is known. -/
lemma read_marked (n : Nat) {b : UInt8} (hletter : Text.isLetter b = false)
    (hdigit : (Integer.isDigit b || b = 0x2d) = false) (t : Text) :
    read (n + 1) (b :: t) = readMarked (read n) b t := by
  rw [read, if_neg (by simp [hletter]), if_neg (by simp [hdigit])]

/-- A string literal is read back as its text. -/
lemma read_string (n : Nat) (value : Text) :
    (read (n + 1)).Reads (quoteLiteral value) (.string value) endsOperand := by
  intro rest hrest
  have htext : quoteLiteral value ++ rest
      = 0x27 :: (Text.doubled 0x27 value ++ 0x27 :: rest) := by
    rw [quoteLiteral, List.append_assoc, List.append_assoc]
    rfl
  rw [htext, read_marked n rfl rfl, readMarked,
    Text.readQuoted_doubled (hrest.mono fun _ => ne_of_ends rfl)]
  rfl

lemma read_quoted (n : Nat) {name : Text} (h : 0 ∉ name) :
    (read (n + 1)).Reads (quoteName name) (.column ⟨name, true⟩) endsOperand := by
  intro rest hrest
  rw [quoteName_eq h, List.cons_append, List.append_assoc, List.singleton_append,
    read_marked n rfl rfl, readMarked,
    Text.readQuoted_doubled (hrest.mono fun _ => ne_of_ends rfl)]
  rfl

/-- A parameter is read back as its name. -/
lemma read_param (n : Nat) {name : Text} (h : Text.isWord name = true) :
    (read (n + 1)).Reads (":" ++ name) (.param name) endsOperand := by
  intro rest hrest
  obtain ⟨-, -, -, -, hbytes⟩ := Text.isWord_iff.mp h
  have hspan := Text.readWhile_append hbytes (hrest.mono fun _ => not_isWordByte_of_ends)
  have hcolon : Text.ofString ":" = [0x3a] := rfl
  rw [hcolon, List.singleton_append, List.cons_append, read_marked n rfl rfl, readMarked, hspan]

/-- A word that is not reserved is a column. -/
lemma ofWord_column {word : Text}
    (h : word ≠ "NULL" ∧ word ≠ "true" ∧ word ≠ "false") :
    ofWord word = .column ⟨word, false⟩ := by
  rw [ofWord, if_neg h.1, if_neg (by simp [h.2.1, h.2.2])]

/-! ### Operands with parts -/

/-- The bytes that an operand may start with. -/
def startsOperand (b : UInt8) : Bool :=
  Text.isLetter b || Integer.isDigit b || b = 0x2d || b = 0x27 || b = 0x22 || b = 0x3f ||
    b = 0x3a || b = 0x28 || b = 0x5b || b = 0x7b

/-- The text of an operand starts with a byte that no separator has. -/
lemma WellFormed.cql_start {o : Operand} (h : o.WellFormed) :
    ∃ b t, o.cql = b :: t ∧ startsOperand b = true := by
  cases h with
  | string value => exact ⟨0x27, _, rfl, rfl⟩
  | truth htruth =>
    rcases htruth with rfl | rfl
    · exact ⟨0x74, _, rfl, rfl⟩
    · exact ⟨0x66, _, rfl, rfl⟩
  | numeral hnumeral =>
    obtain ⟨b, s, rfl, hb, -⟩ := Text.isNumeral_iff.mp hnumeral
    exact ⟨b, s, rfl, by grind [startsOperand]⟩
  | marker => exact ⟨0x3f, _, rfl, rfl⟩
  | param hname =>
    obtain ⟨b, s, rfl, -, -⟩ := Text.isWord_iff.mp hname
    exact ⟨0x3a, _, rfl, rfl⟩
  | column hname _ =>
    obtain ⟨b, s, hcql, hb⟩ := hname.cql_start
    exact ⟨b, s, hcql, by grind [startsOperand]⟩
  | call hname _ =>
    obtain ⟨b, s, rfl, hb, -⟩ := Text.isWord_iff.mp hname
    exact ⟨b, _, rfl, by grind [startsOperand]⟩
  | tuple _ => exact ⟨0x28, _, rfl, rfl⟩
  | list _ _ => exact ⟨0x5b, _, rfl, rfl⟩
  | set _ _ => exact ⟨0x7b, _, rfl, rfl⟩
  | map _ _ => exact ⟨0x7b, _, rfl, rfl⟩
  | null => exact ⟨0x4e, _, rfl, rfl⟩

lemma endsOperand_of_endsItem {close b : UInt8} (hclose : endsOperand close = true)
    (h : Reader.endsItem close b = true) : endsOperand b = true := by
  have hb : b = 0x2c ∨ b = close := by simpa [Reader.endsItem] using h
  rcases hb with rfl | rfl
  · rfl
  · exact hclose

lemma WellFormed.cql_start_ne {o : Operand} (h : o.WellFormed) {close : UInt8}
    (hclose : startsOperand close = false) : ∃ b t, o.cql = b :: t ∧ b ≠ close := by
  obtain ⟨b, t, hcql, hb⟩ := h.cql_start
  refine ⟨b, t, hcql, ?_⟩
  rintro rfl
  rw [hclose] at hb
  cases hb

/-- A list of operands is read back up to the byte that closes it. -/
lemma sequence_operands {n : Nat} {os : List Operand} (close : UInt8) (hcomma : close ≠ 0x2c)
    (hends : endsOperand close = true) (hstarts : startsOperand close = false)
    (hos : ∀ o ∈ os, o.WellFormed)
    (hread : ∀ o ∈ os, (read n).Reads o.cql o.canonical endsOperand) (rest : Text) :
    Reader.sequence (read n) close (Text.join ", " (cqlList os) ++ close :: rest)
      = some (canonicalList os, rest) := by
  rw [cqlList_eq_map, canonicalList_eq_map]
  refine Reader.sequence_append hcomma (fun o ho => (hos o ho).cql_start_ne hstarts) ?_ rest
  intro o ho r hr
  exact hread o ho r (hr.mono fun _ => endsOperand_of_endsItem hends)

/-- An element without a key is read as a value. -/
lemma readElement_value {n : Nat} {v : Operand}
    (hv : (read n).Reads v.cql v.canonical endsOperand) :
    (readElement (read n)).Reads v.cql (.hole, v.canonical) (Reader.endsItem 0x7d) := by
  intro rest hrest
  have hnone : Text.dropStart? ": " rest = none := by
    cases rest with
    | nil => rfl
    | cons b r =>
      have hb : b = 0x2c ∨ b = 0x7d := by simpa [Reader.endsItem] using hrest
      rcases hb with rfl | rfl <;> rfl
  rw [readElement, hv rest (hrest.mono fun _ => endsOperand_of_endsItem rfl)]
  simp [hnone]

/-- An element with a key is read as both, up to the colon and up to the end. -/
lemma readElement_pair {n : Nat} {k v : Operand}
    (hk : (read n).Reads k.cql k.canonical endsOperand)
    (hv : (read n).Reads v.cql v.canonical endsOperand) :
    (readElement (read n)).Reads (k.cql ++ ": " ++ v.cql) (k.canonical, v.canonical)
      (Reader.endsItem 0x7d) := by
  intro rest hrest
  have hcolon : Text.StartsWith endsOperand (": " ++ (v.cql ++ rest)) :=
    (Text.startsWith_cons (b := 0x3a)).mpr rfl
  rw [readElement, List.append_assoc, List.append_assoc, hk _ hcolon]
  simp [hv rest (hrest.mono fun _ => endsOperand_of_endsItem rfl)]

/-- The elements of a set are read back up to the closing brace. -/
lemma sequence_set {n : Nat} {es : List (Operand × Operand)} (hkeys : ∀ e ∈ es, e.1 = .hole)
    (hes : ∀ e ∈ es, e.2.WellFormed)
    (hread : ∀ e ∈ es, (read n).Reads e.2.cql e.2.canonical endsOperand) (rest : Text) :
    Reader.sequence (readElement (read n)) 0x7d
        (Text.join ", " (cqlElements .set es) ++ 0x7d :: rest)
      = some (canonicalElements es, rest) := by
  have hcanonical : canonicalElements es = es.map fun e => (.hole, e.2.canonical) := by
    rw [canonicalElements_eq_map]
    refine List.map_congr_left fun e he => ?_
    rw [hkeys e he, canonical]
    all_goals simp
  rw [cqlElements_eq_map, hcanonical]
  refine Reader.sequence_append (by decide) (fun e he => (hes e he).cql_start_ne rfl) ?_ rest
  exact fun e he => readElement_value (hread e he)

/-- The elements of a map are read back up to the closing brace. -/
lemma sequence_map {n : Nat} {es : List (Operand × Operand)} (hkeys : ∀ e ∈ es, e.1.WellFormed)
    (hreadKey : ∀ e ∈ es, (read n).Reads e.1.cql e.1.canonical endsOperand)
    (hread : ∀ e ∈ es, (read n).Reads e.2.cql e.2.canonical endsOperand) (rest : Text) :
    Reader.sequence (readElement (read n)) 0x7d
        (Text.join ", " (cqlElements .map es) ++ 0x7d :: rest)
      = some (canonicalElements es, rest) := by
  have hcql : cqlElements .map es = es.map fun e => e.1.cql ++ Text.ofString ": " ++ e.2.cql := by
    rw [cqlElements_eq_map]
    refine List.map_congr_left fun e he => ?_
    simp [elementCql, (hkeys e he).isHole]
  rw [hcql, canonicalElements_eq_map]
  refine Reader.sequence_append (by decide) (fun e he => ?_) ?_ rest
  · have hbrace : startsOperand 0x7d = false := rfl
    obtain ⟨b, t, hkey, hb⟩ := (hkeys e he).cql_start_ne hbrace
    rw [hkey]
    exact ⟨b, _, rfl, hb⟩
  · exact fun e he => readElement_pair (hreadKey e he) (hread e he)

lemma bracesKind_set {es : List (Operand × Operand)} (hkeys : ∀ e ∈ es, e.1 = .hole) :
    bracesKind (canonicalElements es) = .set := by
  have hnone : (canonicalElements es).any (fun e => !e.1.isHole) = false := by
    rw [canonicalElements_eq_map, List.any_map, List.any_eq_false]
    intro e he
    rw [Function.comp_apply, isHole_canonical, hkeys e he]
    decide
  rw [bracesKind, hnone]
  rfl

/-- Keys tell a map from a set, unless there are no elements. -/
lemma bracesKind_map {es : List (Operand × Operand)} (hkeys : ∀ e ∈ es, e.1.WellFormed) :
    bracesKind (canonicalElements es) = if es.isEmpty then .set else .map := by
  cases es with
  | nil => rfl
  | cons e es =>
    have hkey := (hkeys e (by simp)).isHole
    simp [bracesKind, canonicalElements, hkey]

/-! ### One step of reading

Each kind of operand with parts is read back if its parts are. -/

section

variable {n : Nat}

/-- A call is read back if its arguments are. -/
lemma read_call {name : Text} {args : List Operand} (hname : Text.isWord name = true)
    (hargs : ∀ a ∈ args, a.WellFormed)
    (hread : ∀ a ∈ args, (read n).Reads a.cql a.canonical endsOperand) :
    (read (n + 1)).Reads (call name args).cql (call name args).canonical endsOperand := by
  intro rest _
  obtain ⟨b, s, rfl, hb, hbytes⟩ := Text.isWord_iff.mp hname
  have htext : (call (b :: s) args).cql ++ rest
      = (b :: s) ++ 0x28 :: (Text.join ", " (cqlList args) ++ 0x29 :: rest) := by
    rw [cql]
    simp only [List.append_assoc]
    rfl
  have hspan : Text.readWhile Text.isWordByte
      ((b :: s) ++ 0x28 :: (Text.join ", " (cqlList args) ++ 0x29 :: rest)) = _ :=
    Text.readWhile_append hbytes (Text.startsWith_cons.mpr rfl)
  rw [htext]
  rw [List.cons_append] at hspan ⊢
  rw [read, if_pos hb, hspan, canonical]
  have hsequence := sequence_operands 0x29 (by decide) rfl rfl hargs hread rest
  exact congrArg (Option.map fun p => (call (b :: s) p.1, p.2)) hsequence

lemma read_tuple {elements : List Operand} (helements : ∀ e ∈ elements, e.WellFormed)
    (hread : ∀ e ∈ elements, (read n).Reads e.cql e.canonical endsOperand) :
    (read (n + 1)).Reads (tuple elements).cql (tuple elements).canonical endsOperand := by
  intro rest _
  have htext : (tuple elements).cql ++ rest
      = 0x28 :: (Text.join ", " (cqlList elements) ++ 0x29 :: rest) := by
    rw [cql, List.append_assoc, List.append_assoc]
    rfl
  rw [htext, read_marked n rfl rfl, readMarked,
    sequence_operands 0x29 (by decide) rfl rfl helements hread, canonical]
  rfl

/-- A list is read back if its elements are. -/
lemma read_list {es : List (Operand × Operand)} (hkeys : ∀ e ∈ es, e.1 = .hole)
    (hes : ∀ e ∈ es, e.2.WellFormed)
    (hread : ∀ e ∈ es, (read n).Reads e.2.cql e.2.canonical endsOperand) :
    (read (n + 1)).Reads (collection .list es).cql (collection .list es).canonical
      endsOperand := by
  intro rest _
  have hvalues : cqlElements .list es = cqlList (es.map (·.2)) := by
    rw [cqlElements_eq_map, cqlList_eq_map, List.map_map]
    rfl
  have hcanonical : canonicalElements es
      = (canonicalList (es.map (·.2))).map fun v => (.hole, v) := by
    rw [canonicalElements_eq_map, canonicalList_eq_map, List.map_map, List.map_map]
    refine List.map_congr_left fun e he => ?_
    rw [hkeys e he]
    rfl
  have htext : (collection .list es).cql ++ rest
      = 0x5b :: (Text.join ", " (cqlList (es.map (·.2))) ++ 0x5d :: rest) := by
    rw [cql, collectionCql, if_pos rfl, hvalues, List.append_assoc, List.append_assoc]
    rfl
  rw [htext, read_marked n rfl rfl, readMarked,
    sequence_operands 0x5d (by decide) rfl rfl (by simpa using fun v k hv => hes (k, v) hv)
      (by simpa using fun v k hv => hread (k, v) hv), canonical, hcanonical]
  rfl

lemma cql_braces {kind : CollectionKind} (hkind : kind ≠ .list) (es : List (Operand × Operand))
    (rest : Text) :
    (collection kind es).cql ++ rest
      = 0x7b :: (Text.join ", " (cqlElements kind es) ++ 0x7d :: rest) := by
  rw [cql, collectionCql, if_neg hkind, List.append_assoc, List.append_assoc]
  rfl

lemma read_set {es : List (Operand × Operand)} (hkeys : ∀ e ∈ es, e.1 = .hole)
    (hes : ∀ e ∈ es, e.2.WellFormed)
    (hread : ∀ e ∈ es, (read n).Reads e.2.cql e.2.canonical endsOperand) :
    (read (n + 1)).Reads (collection .set es).cql (collection .set es).canonical
      endsOperand := by
  intro rest _
  rw [cql_braces (by decide), read_marked n rfl rfl, readMarked,
    sequence_set hkeys hes hread, Option.map_some, bracesKind_set hkeys, canonical]
  rfl

/-- A map is read back if its keys and values are, and as a set if it is empty. -/
lemma read_map {es : List (Operand × Operand)} (hkeys : ∀ e ∈ es, e.1.WellFormed)
    (hreadKey : ∀ e ∈ es, (read n).Reads e.1.cql e.1.canonical endsOperand)
    (hread : ∀ e ∈ es, (read n).Reads e.2.cql e.2.canonical endsOperand) :
    (read (n + 1)).Reads (collection .map es).cql (collection .map es).canonical
      endsOperand := by
  intro rest _
  rw [cql_braces (by decide), read_marked n rfl rfl, readMarked,
    sequence_map hkeys hreadKey hread, Option.map_some, bracesKind_map hkeys, canonical]
  rfl

end

/-! ### Every operand

The text of a part is shorter than that of the whole, so a reader that may go as deep as the text
is long reaches every part. -/

lemma length_le_cqlList {o : Operand} {os : List Operand} (h : o ∈ os) :
    o.cql.length ≤ (Text.join ", " (cqlList os)).length := by
  rw [cqlList_eq_map]
  exact Text.length_le_length_join (List.mem_map_of_mem h)

lemma length_lt_call {a : Operand} {args : List Operand} (h : a ∈ args) (name : Text) :
    a.cql.length < (call name args).cql.length := by
  have hle := length_le_cqlList h
  have hparen : (Text.ofString "(").length = 1 := rfl
  simp only [cql, List.length_append, hparen]
  omega

lemma length_lt_tuple {e : Operand} {elements : List Operand} (h : e ∈ elements) :
    e.cql.length < (tuple elements).cql.length :=
  length_lt_call h []

lemma length_lt_collection {kind : CollectionKind} {e : Operand × Operand}
    {es : List (Operand × Operand)} (h : e ∈ es) :
    (elementCql kind e.1.isHole e.1.cql e.2.cql).length < (collection kind es).cql.length := by
  have hle : (elementCql kind e.1.isHole e.1.cql e.2.cql).length
      ≤ (Text.join ", " (cqlElements kind es)).length := by
    rw [cqlElements_eq_map]
    exact Text.length_le_length_join (List.mem_map_of_mem h)
  have hbracket : (Text.ofString "[").length = 1 := rfl
  have hbrace : (Text.ofString "\x7b").length = 1 := rfl
  rw [cql, collectionCql]
  split_ifs
  · simp only [List.length_append, hbracket]
    omega
  · simp only [List.length_append, hbrace]
    omega

/-- The text of a part is shorter, so that a text is as deep as it is long at most. -/
lemma length_value_lt (kind : CollectionKind) {e : Operand × Operand}
    {es : List (Operand × Operand)} (h : e ∈ es) :
    e.2.cql.length < (collection kind es).cql.length := by
  refine lt_of_le_of_lt ?_ (length_lt_collection h)
  unfold elementCql
  split_ifs
  · simp only [List.length_append]
    omega
  · exact le_refl _

lemma length_key_lt {e : Operand × Operand} {es : List (Operand × Operand)} (h : e ∈ es)
    (hkey : e.1.WellFormed) : e.1.cql.length < (collection .map es).cql.length := by
  refine lt_of_le_of_lt ?_ (length_lt_collection h)
  simp [elementCql, hkey.isHole]

/-- Every well-formed operand is read back from its text, up to empty maps. -/
lemma WellFormed.read_cql {o : Operand} (h : o.WellFormed) {n : Nat} (hn : o.cql.length ≤ n) :
    (read n).Reads o.cql o.canonical endsOperand := by
  -- the induction is on how deep the reader may go; each step takes off one layer of the operand
  induction n generalizing o with
  | zero =>
    obtain ⟨b, t, hcql, -⟩ := h.cql_start
    simp [hcql] at hn
  | succ n ih =>
    cases h with
    | string value => exact read_string n value
    | truth htruth =>
      rcases htruth with rfl | rfl
      · exact read_word n rfl
      · exact read_word n rfl
    | numeral hnumeral => exact read_numeral n hnumeral
    | marker => exact fun rest _ => rfl
    | param hname =>
      have hread := read_param n hname
      obtain ⟨b, s, rfl, -, -⟩ := Text.isWord_iff.mp hname
      exact hread
    | @column name hname hreserved =>
      obtain ⟨name, _ | _⟩ := name
      · have hread := read_word n hname
        rwa [ofWord_column (hreserved rfl)] at hread
      · exact read_quoted n hname
    | @call name args hname hargs =>
      refine read_call hname hargs fun a ha => ih (hargs a ha) ?_
      have := length_lt_call ha name
      omega
    | tuple helements =>
      refine read_tuple helements fun e he => ih (helements e he) ?_
      have := length_lt_tuple he
      omega
    | list hkeys helements =>
      refine read_list hkeys helements fun e he => ih (helements e he) ?_
      have := length_value_lt .list he
      omega
    | set hkeys helements =>
      refine read_set hkeys helements fun e he => ih (helements e he) ?_
      have := length_value_lt .set he
      omega
    | map hkeys helements =>
      refine read_map hkeys (fun e he => ih (hkeys e he) ?_) fun e he => ih (helements e he) ?_
      · have := length_key_lt he (hkeys e he)
        omega
      · have := length_value_lt .map he
        omega
    | null => exact read_word n rfl

end Operand

end CqlWriter
