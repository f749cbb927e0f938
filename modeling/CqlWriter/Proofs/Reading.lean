import Mathlib
import CqlWriter.Statement.TableName
import CqlWriter.Proofs.Names

/-!
# Reading parts of a statement

A reader takes a part off the front of a text and leaves the rest. It reads a written part back
when what follows cannot be taken for more of it. The readers for words, quoted texts, numbers,
names and sequences below are put together to read whole statements.
-/

namespace CqlWriter

/-- A reader takes a value off the front of a text. -/
abbrev Reader (α : Type) := Text → Option (α × Text)

/-- The first byte of a text, if it has one, satisfies `p`. -/
def Text.StartsWith (p : UInt8 → Bool) (t : Text) : Prop :=
  ∀ b ∈ t.head?, p b = true

/-- A reader takes the value `a` off the text `t` whenever nothing or one of the bytes `ends`
follows. -/
def Reader.Reads {α : Type} (read : Reader α) (t : Text) (a : α) (ends : UInt8 → Bool) : Prop :=
  ∀ rest : Text, rest.StartsWith ends → read (t ++ rest) = some (a, rest)

namespace Text

@[simp] lemma startsWith_nil (p : UInt8 → Bool) : StartsWith p [] := by
  simp [StartsWith]

@[simp] lemma startsWith_cons {p : UInt8 → Bool} {b : UInt8} {t : Text} :
    StartsWith p (b :: t) ↔ p b = true := by
  simp [StartsWith]

lemma StartsWith.mono {p q : UInt8 → Bool} (h : ∀ b, p b = true → q b = true) {t : Text}
    (ht : StartsWith p t) : StartsWith q t :=
  fun b hb => h b (ht b hb)

lemma StartsWith.of_eq {p : UInt8 → Bool} {b : UInt8} {t : Text} (ht : StartsWith (· = b) t)
    (hb : p b = true) : StartsWith p t :=
  ht.mono fun c hc => by rwa [of_decide_eq_true hc]

/-! ### Constant texts -/

@[simp] lemma dropStart?_append (start t : Text) : dropStart? start (start ++ t) = some t := by
  simp [dropStart?]

/-- A text that starts with another byte does not start so. -/
lemma dropStart?_eq_none {b : UInt8} {start t : Text} (h : t.StartsWith (· ≠ b)) :
    dropStart? (b :: start) t = none := by
  cases t with
  | nil => rfl
  | cons c t =>
    have hc : c ≠ b := by simpa using h
    simp [dropStart?, hc.symm]

lemma eq_append_of_dropStart? {start t u : Text} (h : dropStart? start t = some u) :
    t = start ++ u := by
  unfold dropStart? at h
  split at h
  · rename_i hstart
    obtain ⟨v, rfl⟩ := List.isPrefixOf_iff_prefix.mp hstart
    simpa using h
  · cases h

/-- Read a text that may be left out, and tell whether it is there. -/
def readFlag (word t : Text) : Bool × Text :=
  match dropStart? word t with
  | some t => (true, t)
  | none => (false, t)

/-- A word that may be left out is read back, unless what follows starts like it. -/
lemma readFlag_append {word : String} {rest : Text} (h : dropStart? word rest = none)
    (flag : Bool) :
    readFlag word (ofString (if flag then word else "") ++ rest) = (flag, rest) := by
  cases flag with
  | false =>
    change readFlag word rest = (false, rest)
    rw [readFlag, h]
  | true => simp [readFlag]

/-! ### Words and numerals -/

def isLetter (b : UInt8) : Bool :=
  (0x41 ≤ b && b ≤ 0x5a) || (0x61 ≤ b && b ≤ 0x7a)

/-- Whether a byte is an ASCII letter, a digit or a low line. -/
def isWordByte (b : UInt8) : Bool :=
  isLetter b || Integer.isDigit b || b = 0x5f

/-- Whether a text is made of letters, digits and low lines and starts with a letter. -/
def isWord (t : Text) : Bool :=
  t.head?.any isLetter && t.all isWordByte

/-- Whether a byte may stand in a numeral. -/
def isNumeralByte (b : UInt8) : Bool :=
  Integer.isDigit b || b = 0x2e || b = 0x65 || b = 0x2b || b = 0x2d

/-- Whether a text is made of digits, dots, signs and the letter `e` and starts with a digit or a
minus sign. -/
def isNumeral (t : Text) : Bool :=
  t.head?.any (fun b => Integer.isDigit b || b = 0x2d) && t.all isNumeralByte

/-- The longest front part of a text whose bytes satisfy `p`, and the rest. -/
def readWhile (p : UInt8 → Bool) (t : Text) : Text × Text :=
  (t.takeWhile p, t.dropWhile p)

/-- Bytes of one sort are read up to the first of another sort. -/
lemma readWhile_append {p : UInt8 → Bool} {t rest : Text} (ht : ∀ b ∈ t, p b = true)
    (hrest : rest.StartsWith fun b => !p b) : readWhile p (t ++ rest) = (t, rest) := by
  have htake : rest.takeWhile p = [] := by
    cases rest with
    | nil => rfl
    | cons b r => simpa using hrest
  have hdrop : rest.dropWhile p = rest := by
    cases rest with
    | nil => rfl
    | cons b r => simpa using hrest
  rw [readWhile, List.takeWhile_append_of_pos ht, List.dropWhile_append_of_pos ht, htake, hdrop,
    List.append_nil]

lemma isWord_iff {t : Text} :
    isWord t = true ↔ ∃ b s, t = b :: s ∧ isLetter b = true ∧ ∀ c ∈ t, isWordByte c = true := by
  cases t with
  | nil => simp [isWord]
  | cons b s => simp [isWord]

lemma isNumeral_iff {t : Text} :
    isNumeral t = true ↔
      ∃ b s, t = b :: s ∧ (Integer.isDigit b || b = 0x2d) = true ∧
        ∀ c ∈ t, isNumeralByte c = true := by
  cases t with
  | nil => simp [isNumeral]
  | cons b s => simp [isNumeral]

def readWord : Reader Text := fun t =>
  some (readWhile isWordByte t)

/-- A word is read up to the first byte that belongs to none. -/
lemma readWord_reads {w : Text} (h : isWord w = true) :
    readWord.Reads w w fun b => !isWordByte b := by
  intro rest hrest
  obtain ⟨-, -, -, -, hbytes⟩ := isWord_iff.mp h
  rw [readWord, readWhile_append hbytes hrest]

def readNat : Reader Nat := fun t =>
  let (digits, rest) := readWhile Integer.isDigit t
  (Integer.digitsFrom? 10 0 digits).map fun n => (n, rest)

/-- The decimal text of a number is read back up to the first byte that is no digit. -/
lemma readNat_ofNat (n : Nat) : readNat.Reads (ofNat n) n fun b => !Integer.isDigit b := by
  intro rest h
  simp [readNat, readWhile_append (isDigit_of_mem_ofNat n) h, Integer.digitsFrom?_ofNat]

/-! ### Quoted texts -/

/-- Read up to the quote `q` that ends a quoted text, taking two of them for one. -/
def readQuoted (q : UInt8) : Reader Text
  | [] => none
  | [b] => if b = q then some ([], []) else none
  | b :: c :: rest =>
    if b ≠ q then (readQuoted q (c :: rest)).map fun p => (b :: p.1, p.2)
    else if c = q then (readQuoted q rest).map fun p => (q :: p.1, p.2)
    else some ([], c :: rest)

lemma readQuoted_cons_of_ne {q b : UInt8} (h : b ≠ q) (t : Text) :
    readQuoted q (b :: t) = (readQuoted q t).map fun p => (b :: p.1, p.2) := by
  cases t with
  | nil => simp [readQuoted, h]
  | cons c t => simp [readQuoted, h]

/-- A quoted text is read back up to its quote. -/
lemma readQuoted_doubled {q : UInt8} {rest : Text} (h : rest.StartsWith (· ≠ q)) (t : Text) :
    readQuoted q (doubled q t ++ q :: rest) = some (t, rest) := by
  induction t with
  | nil =>
    cases rest with
    | nil => simp [readQuoted]
    | cons c r =>
      have hc : c ≠ q := by simpa using h
      simp [readQuoted, hc]
  | cons b t ih =>
    by_cases hb : b = q
    · subst hb
      simp [readQuoted, ih]
    · rw [doubled_cons_of_ne hb, List.cons_append, readQuoted_cons_of_ne hb, ih]
      rfl

end Text

/-! ### Names -/

namespace Identifier

/-- A quoted name without a zero byte, or an unquoted one that is a word. -/
def WellFormed (i : Identifier) : Prop :=
  if i.quoted then 0 ∉ i.name else Text.isWord i.name = true

instance (i : Identifier) : Decidable i.WellFormed :=
  inferInstanceAs (Decidable (if i.quoted then 0 ∉ i.name else Text.isWord i.name = true))

def read : Reader Identifier
  | 0x22 :: t => (Text.readQuoted 0x22 t).map fun p => (⟨p.1, true⟩, p.2)
  | t =>
    let (word, rest) := Text.readWhile Text.isWordByte t
    some (⟨word, false⟩, rest)

/-- The bytes that may follow a name. -/
def endsName (b : UInt8) : Bool :=
  !Text.isWordByte b && b ≠ 0x22

/-- A name starts with a letter or a quote. -/
lemma WellFormed.cql_start {i : Identifier} (h : i.WellFormed) :
    ∃ b t, i.cql = b :: t ∧ (Text.isLetter b || b = 0x22) = true := by
  obtain ⟨name, _ | _⟩ := i
  · obtain ⟨b, s, hname, hb, -⟩ := Text.isWord_iff.mp h
    exact ⟨b, s, hname, by simp [hb]⟩
  · exact ⟨0x22, _, quoteName_eq h, rfl⟩

lemma WellFormed.cql_ne_nil {i : Identifier} (h : i.WellFormed) : i.cql ≠ [] := by
  obtain ⟨b, t, hcql, -⟩ := h.cql_start
  simp [hcql]

lemma read_quoted {name : Text} (h : 0 ∉ name) :
    read.Reads (quoteName name) ⟨name, true⟩ (· ≠ 0x22) := by
  intro rest hrest
  rw [quoteName_eq h, List.cons_append, List.append_assoc, List.singleton_append, read,
    Text.readQuoted_doubled hrest]
  rfl

/-- A name is read back, quoted or not. -/
lemma read_cql {i : Identifier} (h : i.WellFormed) : read.Reads i.cql i endsName := by
  intro rest hrest
  obtain ⟨name, _ | _⟩ := i
  · obtain ⟨b, s, rfl, hb, hword⟩ := Text.isWord_iff.mp h
    have hquote : b ≠ 0x22 := by
      rintro rfl
      exact absurd hb (by decide)
    have hspan := Text.readWhile_append hword (hrest.mono (by simp +contextual [endsName]))
    rw [cql_unquoted, List.cons_append, read, ← List.cons_append, hspan]
    simpa using hquote
  · exact read_quoted h rest (hrest.mono (by simp +contextual [endsName]))

end Identifier

namespace TableName

def WellFormed (t : TableName) : Prop :=
  (∀ ks ∈ t.keyspace, ks.WellFormed) ∧ t.name.WellFormed

/-- Read a name, or two with a dot between them. -/
def read : Reader TableName := fun t => do
  let (first, t) ← Identifier.read t
  match t with
  | 0x2e :: t => do
    let (name, t) ← Identifier.read t
    pure (⟨some first, name⟩, t)
  | t => pure (⟨none, first⟩, t)

def endsTable (b : UInt8) : Bool :=
  Identifier.endsName b && b ≠ 0x2e

/-- A table name is read back with its keyspace or without. -/
lemma reads_cql {t : TableName} (h : t.WellFormed) : read.Reads t.cql t endsTable := by
  intro rest hrest
  have hend : rest.StartsWith Identifier.endsName :=
    hrest.mono fun b hb => (Bool.and_eq_true_iff.mp hb).1
  obtain ⟨_ | ks, name⟩ := t
  · have hdot : ∀ r, rest = 0x2e :: r → False := by
      rintro r rfl
      exact absurd (Text.startsWith_cons.mp hrest) (by decide)
    rw [cql, read, Identifier.read_cql h.2 rest hend]
    simp only [Option.bind_eq_bind, Option.bind_some]
    rfl
  · have hks : ks.WellFormed := h.1 ks rfl
    have hdot : Text.ofString "." = [0x2e] := rfl
    rw [cql, hdot, List.append_assoc, List.append_assoc, List.singleton_append, read,
      Identifier.read_cql hks _ (Text.startsWith_cons.mpr rfl)]
    simp [Identifier.read_cql h.2 rest hend]

lemma read_cql {t : TableName} (h : t.WellFormed) : read.Reads t.cql t (· = 0x20) :=
  fun rest hrest => reads_cql h rest (hrest.of_eq rfl)

end TableName

/-! ### Sequences -/

namespace Reader

variable {α β : Type}

/-- Read the items of a sequence behind its first one, up to the byte `close`; at most `n` of
them. -/
def items (item : Reader α) (close : UInt8) : (n : Nat) → Reader (List α)
  | 0, _ => none
  | _ + 1, [] => none
  | n + 1, b :: t =>
    if b = close then some ([], t)
    else do
      let t ← Text.dropStart? ", " (b :: t)
      let (a, t) ← item t
      let (as, t) ← items item close n t
      pure (a :: as, t)

/-- Read the items of a sequence, separated by commas, up to the byte `close`. -/
def sequence (item : Reader α) (close : UInt8) : Reader (List α)
  | [] => none
  | b :: t =>
    if b = close then some ([], t)
    else do
      let (a, rest) ← item (b :: t)
      let (as, rest) ← items item close t.length rest
      pure (a :: as, rest)

/-- The bytes that may follow an item of a sequence. -/
def endsItem (close b : UInt8) : Bool :=
  b = 0x2c || b = close

lemma endsItem_items {close : UInt8} {text : β → Text} (xs : List β) (rest : Text) :
    Text.StartsWith (endsItem close)
      (xs.flatMap (fun x => Text.ofString ", " ++ text x) ++ close :: rest) := by
  cases xs with
  | nil => simp [endsItem]
  | cons y ys => exact (Text.startsWith_cons (b := 0x2c)).mpr rfl

lemma length_le_length_items (text : β → Text) (xs : List β) :
    xs.length ≤ (xs.flatMap fun x => Text.ofString ", " ++ text x).length := by
  induction xs with
  | nil => exact Nat.le_refl _
  | cons x xs ih =>
    have hcomma : (Text.ofString ", ").length = 2 := rfl
    simp only [List.flatMap_cons, List.length_append, List.length_cons, hcomma]
    omega

/-- The items behind the first one are read back if each of them is. The induction is on the items.
-/
lemma items_append {item : Reader α} {close : UInt8} {text : β → Text} {value : β → α}
    {xs : List β} {n : Nat} (hclose : close ≠ 0x2c) (hn : xs.length < n)
    (hitem : ∀ x ∈ xs, item.Reads (text x) (value x) (endsItem close)) (rest : Text) :
    items item close n (xs.flatMap (fun x => Text.ofString ", " ++ text x) ++ close :: rest)
      = some (xs.map value, rest) := by
  induction xs generalizing n with
  | nil =>
    obtain ⟨m, rfl⟩ : ∃ m, n = m + 1 := ⟨n - 1, by omega⟩
    simp [items]
  | cons x xs ih =>
    obtain ⟨m, rfl⟩ : ∃ m, n = m + 1 := ⟨n - 1, by omega⟩
    have htail := ih (n := m) (by simpa using hn) fun y hy => hitem y (by simp [hy])
    have hcomma : Text.ofString ", " = [0x2c, 0x20] := rfl
    have hdrop : ∀ t : Text, Text.dropStart? ", " (0x2c :: 0x20 :: t) = some t := fun t => rfl
    rw [List.flatMap_cons, List.append_assoc, List.append_assoc]
    rw [hcomma, List.cons_append, List.cons_append, List.nil_append, items, if_neg hclose.symm]
    rw [hdrop, ← hcomma]
    simp only [Option.bind_eq_bind, Option.bind_some,
      hitem x (by simp) _ (endsItem_items xs rest), htail, Option.pure_def, List.map_cons]

/-- The items of a sequence are read back if each of them is, whatever ends it, and none starts
with the byte that closes the sequence. -/
lemma sequence_append {item : Reader α} {close : UInt8} {text : β → Text} {value : β → α}
    {xs : List β} (hclose : close ≠ 0x2c)
    (hstart : ∀ x ∈ xs, ∃ b t, text x = b :: t ∧ b ≠ close)
    (hitem : ∀ x ∈ xs, item.Reads (text x) (value x) (endsItem close)) (rest : Text) :
    sequence item close (Text.join ", " (xs.map text) ++ close :: rest)
      = some (xs.map value, rest) := by
  cases xs with
  | nil => simp [sequence]
  | cons x xs =>
    obtain ⟨b, t, hx, hb⟩ := hstart x (by simp)
    have hfirst : item
        (text x ++ (xs.flatMap (fun x => Text.ofString ", " ++ text x) ++ close :: rest)) = _ :=
      hitem x (by simp) _ (endsItem_items xs rest)
    rw [List.map_cons, Text.join_cons, List.flatMap_map, List.append_assoc]
    rw [hx, List.cons_append] at hfirst ⊢
    rw [sequence, if_neg hb, hfirst]
    have htail : items item close
        (t ++ (xs.flatMap (fun x => Text.ofString ", " ++ text x) ++ close :: rest)).length
        (xs.flatMap (fun x => Text.ofString ", " ++ text x) ++ close :: rest)
          = some (xs.map value, rest) := by
      refine items_append hclose ?_ (fun y hy => hitem y (by simp [hy])) rest
      have hlength := length_le_length_items text xs
      simp only [List.length_append, List.length_cons]
      omega
    simp only [Option.bind_eq_bind, Option.bind_some, htail, Option.pure_def, List.map_cons]

/-- A sequence of parts that are read back as they are. -/
lemma sequence_join {item : Reader α} {close : UInt8} {text : α → Text} {xs : List α}
    (hclose : close ≠ 0x2c) (hstart : ∀ x ∈ xs, ∃ b t, text x = b :: t ∧ b ≠ close)
    (hitem : ∀ x ∈ xs, item.Reads (text x) x (endsItem close)) (rest : Text) :
    sequence item close (Text.join ", " (xs.map text) ++ close :: rest) = some (xs, rest) := by
  have hsequence := sequence_append hclose hstart hitem rest
  rwa [List.map_id'] at hsequence

/-! ### Lists up to the end of a text -/

/-- Read items with `sep` between them up to the end of the text; at least one and at most `n` of
them. -/
def separated (item : Reader α) (sep : Text) : (n : Nat) → Text → Option (List α)
  | 0, _ => none
  | n + 1, t => do
    let (a, t) ← item t
    if t.isEmpty then pure [a]
    else
      let t ← Text.dropStart? sep t
      let as ← separated item sep n t
      pure (a :: as)

/-- Read items with `sep` between them up to the end of the text, which may have none. -/
def list (item : Reader α) (sep t : Text) : Option (List α) :=
  if t.isEmpty then some [] else separated item sep t.length t

section

variable {item : Reader α} {ends : UInt8 → Bool} {b : UInt8} {sep : Text} {text : α → Text}

/-- Items with a separator between them are read back up to the end of the text. -/
lemma separated_join (hb : ends b = true) {xs : List α} {n : Nat} (hn : xs.length < n) {x : α}
    (hitem : ∀ y ∈ x :: xs, item.Reads (text y) y ends) :
    separated item (b :: sep) n (Text.join (b :: sep) ((x :: xs).map text)) = some (x :: xs) := by
  induction xs generalizing n x with
  | nil =>
    obtain ⟨n, rfl⟩ : ∃ k, n = k + 1 := ⟨n - 1, by omega⟩
    have hlast := hitem x (by simp) [] (Text.startsWith_nil _)
    rw [List.append_nil] at hlast
    simp [separated, hlast]
  | cons y ys ih =>
    obtain ⟨n, rfl⟩ : ∃ k, n = k + 1 := ⟨n - 1, by omega⟩
    have htail := ih (n := n) (x := y) (by simpa using hn) fun z hz => hitem z (by simp [hz])
    have hfirst := hitem x (by simp) ((b :: sep) ++ Text.join (b :: sep) ((y :: ys).map text))
      (Text.startsWith_cons.mpr hb)
    have hjoin : Text.join (b :: sep) ((x :: y :: ys).map text)
        = text x ++ ((b :: sep) ++ Text.join (b :: sep) ((y :: ys).map text)) := by
      simp [Text.join_cons]
    have hmore : ((b :: sep) ++ Text.join (b :: sep) ((y :: ys).map text)).isEmpty = false := rfl
    rw [hjoin, separated, hfirst]
    simp only [Option.bind_eq_bind, Option.bind_some, hmore, Bool.false_eq_true, if_false,
      Text.dropStart?_append, htail, Option.pure_def]

/-- A list of items is read back if each of them is, whether the end of the text or the separator
follows it. -/
lemma list_join {xs : List α} (hitem : ∀ x ∈ xs, item.Reads (text x) x ends)
    (hstart : ∀ x ∈ xs, text x ≠ []) (hb : ends b = true) :
    list item (b :: sep) (Text.join (b :: sep) (xs.map text)) = some xs := by
  cases xs with
  | nil => rfl
  | cons x xs =>
    have hfirst := List.length_pos_iff.mpr (hstart x (by simp))
    have hjoin := Text.add_length_le_length_join b sep (text x) (xs.map text)
    rw [List.length_map, ← List.map_cons] at hjoin
    have hnonempty : Text.join (b :: sep) ((x :: xs).map text) ≠ [] :=
      List.length_pos_iff.mp (by omega)
    have hlength : xs.length < (Text.join (b :: sep) ((x :: xs).map text)).length := by omega
    rw [list, if_neg (by simpa using hnonempty), separated_join hb hlength hitem]

end

end Reader

end CqlWriter
