import Mathlib
import CqlWriter.Statement.Insert
import CqlWriter.Proofs.OperandReading

/-!
# The text of an INSERT statement is unambiguous

A reader for whole statements gives back every well-formed INSERT statement from its text, up to
empty maps, which have the text of an empty set. So two well-formed statements with the same text
are the same statement but for that.
-/

namespace CqlWriter

/-! ### The opening of a batch -/

namespace Batch

/-- The kind is one of the three that have a syntax of their own. -/
def WellFormed (b : Batch) : Prop :=
  b.kind = .logged ∨ b.kind = .unlogged ∨ b.kind = .counter

def readKind (t : Text) : BatchKind × Text :=
  match Text.dropStart? "UNLOGGED " t, Text.dropStart? "COUNTER " t with
  | some t, _ => (.unlogged, t)
  | none, some t => (.counter, t)
  | none, none => (.logged, t)

def readTimestamp : Reader (Option UInt64) := fun t =>
  match Text.dropStart? "USING TIMESTAMP " t with
  | none => some (none, t)
  | some t => do
    let (n, t) ← Text.readNat t
    let t ← Text.dropStart? " " t
    pure (some (UInt64.ofNat n), t)

/-- Read the opening of a batch, if there is one. -/
def readOpening : Reader (Option Batch) := fun t =>
  match Text.dropStart? "BEGIN " t with
  | none => some (none, t)
  | some t =>
    let (kind, t) := readKind t
    (Text.dropStart? "BATCH " t).bind fun t =>
      (readTimestamp t).map fun p => (some ⟨kind, p.1⟩, p.2)

/-- A time stamp is read up to the space behind it. -/
lemma readTimestamp_some (timestamp : UInt64) (rest : Text) :
    readTimestamp ("USING TIMESTAMP " ++ (Text.ofNat timestamp.toNat ++ (" " ++ rest)))
      = some (some timestamp, rest) := by
  have hblank : Text.StartsWith (fun b => !Integer.isDigit b) (" " ++ rest) :=
    (Text.startsWith_cons (b := 0x20)).mpr rfl
  simp [readTimestamp, Text.readNat_ofNat timestamp.toNat _ hblank]

/-- The opening of a batch is read back up to the statement. -/
lemma readOpening_cql {b : Batch} (h : b.WellFormed) (rest : Text) :
    readOpening (b.cql ++ ("INSERT INTO " ++ rest)) = some (some b, "INSERT INTO " ++ rest) := by
  obtain ⟨kind, _ | timestamp⟩ := b
  · rcases h with rfl | rfl | rfl <;> rfl
  · have hkind : readOpening ((⟨kind, some timestamp⟩ : Batch).cql ++ ("INSERT INTO " ++ rest))
        = (readTimestamp ("USING TIMESTAMP "
            ++ (Text.ofNat timestamp.toNat ++ (" " ++ ("INSERT INTO " ++ rest))))).map
          fun p => (some ⟨kind, p.1⟩, p.2) := by
      simp only [cql, List.append_assoc]
      rcases h with rfl | rfl | rfl <;> rfl
    rw [hkind, readTimestamp_some]
    rfl

end Batch

/-! ### The clause for lifetime and time stamp -/

namespace Usage

/-- The clause sets something. -/
def WellFormed (u : Usage) : Prop :=
  u.ttl.isSome = true ∨ u.timestamp.isSome = true

def readParts (t : Text) : Option Usage :=
  match Text.dropStart? "TTL " t with
  | some t => do
    let (ttl, t) ← Text.readNat t
    match Text.dropStart? " AND TIMESTAMP " t with
    | some t => do
      let (timestamp, _) ← Text.readNat t
      pure ⟨some (UInt64.ofNat ttl), some (UInt64.ofNat timestamp)⟩
    | none => pure ⟨some (UInt64.ofNat ttl), none⟩
  | none => do
    let t ← Text.dropStart? "TIMESTAMP " t
    let (timestamp, _) ← Text.readNat t
    pure ⟨none, some (UInt64.ofNat timestamp)⟩

lemma readNat_last (n : Nat) : Text.readNat (Text.ofNat n) = some (n, []) := by
  have hread := Text.readNat_ofNat n [] (Text.startsWith_nil _)
  rwa [List.append_nil] at hread

lemma readParts_ttl (ttl : UInt64) :
    readParts ("TTL " ++ Text.ofNat ttl.toNat) = some ⟨some ttl, none⟩ := by
  have hnone : Text.dropStart? " AND TIMESTAMP " [] = none := rfl
  simp [readParts, readNat_last, hnone]

lemma readParts_timestamp (timestamp : UInt64) :
    readParts ("TIMESTAMP " ++ Text.ofNat timestamp.toNat) = some ⟨none, some timestamp⟩ := by
  have hnone : Text.dropStart? "TTL " ("TIMESTAMP " ++ Text.ofNat timestamp.toNat) = none := rfl
  simp [readParts, readNat_last, hnone]

/-- Both settings of a clause are read back in their order. -/
lemma readParts_both (ttl timestamp : UInt64) :
    readParts ("TTL " ++ (Text.ofNat ttl.toNat ++ (" AND " ++ ("TIMESTAMP "
        ++ Text.ofNat timestamp.toNat)))) = some ⟨some ttl, some timestamp⟩ := by
  have hblank : Text.StartsWith (fun b => !Integer.isDigit b)
      (" AND TIMESTAMP " ++ Text.ofNat timestamp.toNat) :=
    (Text.startsWith_cons (b := 0x20)).mpr rfl
  have hand : Text.ofString " AND " ++ ("TIMESTAMP " ++ Text.ofNat timestamp.toNat)
      = " AND TIMESTAMP " ++ Text.ofNat timestamp.toNat := rfl
  rw [hand]
  simp [readParts, Text.readNat_ofNat ttl.toNat _ hblank, readNat_last]

/-- A clause that sets something is read back from its settings. -/
lemma WellFormed.readParts_parts {u : Usage} (h : u.WellFormed) :
    readParts (Text.join " AND " u.parts) = some u := by
  obtain ⟨_ | ttl, _ | timestamp⟩ := u
  · rcases h with h | h <;> cases h
  · simpa [parts] using readParts_timestamp timestamp
  · simpa [parts] using readParts_ttl ttl
  · simpa [parts, Text.join_cons] using readParts_both ttl timestamp

/-- The text of a clause that sets something. -/
lemma WellFormed.cql_eq {u : Usage} (h : u.WellFormed) :
    u.cql = " USING " ++ Text.join " AND " u.parts := by
  obtain ⟨_ | ttl, _ | timestamp⟩ := u
  · rcases h with h | h <;> cases h
  all_goals rfl

end Usage

/-! ### The row -/

namespace InsertValues

/-- The operands are well formed, or the JSON text is a string literal or a parameter. -/
def WellFormed : InsertValues → Prop
  | hole => False
  | operands values => ∀ v ∈ values, v.WellFormed
  | json text =>
    (∃ value, text = quoteLiteral value) ∨ text = "?" ∨
      ∃ name, Text.isWord name = true ∧ text = ":" ++ name

def canonical : InsertValues → InsertValues
  | operands values => operands (Operand.canonicalList values)
  | row => row

/-- The empty set and the empty map have one and the same text. -/
lemma cql_canonical (row : InsertValues) : row.canonical.cql = row.cql := by
  cases row with
  | operands values => rw [canonical, cql, cql, Operand.cqlList_canonicalList]
  | hole | json _ => rfl

/-- Read a row; the JSON text of one has the form of an operand. -/
def read : Reader InsertValues := fun t =>
  match Text.dropStart? "VALUES (" t with
  | some t => (Reader.sequence (Operand.read t.length) 0x29 t).map fun p => (operands p.1, p.2)
  | none => do
    let t ← Text.dropStart? "JSON " t
    let (value, t) ← Operand.read t.length t
    pure (json value.cql, t)

/-- The JSON text of a row is the text of an operand. -/
lemma exists_operand_of_json {text : Text} (h : (json text).WellFormed) :
    ∃ o : Operand, o.WellFormed ∧ o.cql = text := by
  rcases h with ⟨value, rfl⟩ | rfl | ⟨name, hname, rfl⟩
  · exact ⟨.string value, .string value, rfl⟩
  · exact ⟨.param "", .marker, rfl⟩
  · refine ⟨.param name, .param hname, ?_⟩
    obtain ⟨b, s, rfl, -, -⟩ := Text.isWord_iff.mp hname
    rfl

/-- A row is read back up to a space behind it. -/
lemma read_cql {row : InsertValues} (h : row.WellFormed) :
    read.Reads row.cql row.canonical (· = 0x20) := by
  intro rest hrest
  cases row with
  | hole => exact h.elim
  | operands values =>
    have hparen : Text.ofString ")" ++ rest = 0x29 :: rest := rfl
    rw [cql, List.append_assoc, List.append_assoc, hparen, read, Text.dropStart?_append]
    have hsequence := Operand.sequence_operands
      (n := (Text.join ", " (Operand.cqlList values) ++ 0x29 :: rest).length) 0x29 (by decide) rfl
      rfl h (fun v hv => (h v hv).read_cql ?_) rest
    · simp only [hsequence]
      rfl
    · have hle := Operand.length_le_cqlList hv
      rw [List.length_append]
      omega
  | json text =>
    obtain ⟨o, ho, rfl⟩ := exists_operand_of_json h
    have hnone : Text.dropStart? "VALUES (" ("JSON " ++ (o.cql ++ rest)) = none := rfl
    have hends : rest.StartsWith Operand.endsOperand :=
      hrest.mono fun b hb => by simp_all [Operand.endsOperand]
    have hread := ho.read_cql (n := (o.cql ++ rest).length) (by simp) rest hends
    rw [cql, List.append_assoc, read, hnone]
    simp only [Text.dropStart?_append, Option.bind_eq_bind, Option.bind_some, hread,
      Operand.cql_canonical, canonical, Option.pure_def]

end InsertValues

/-! ### The statement -/

namespace Insert

/-- Every part of the statement is well formed. -/
structure WellFormed (i : Insert) : Prop where
  batch : ∀ b ∈ i.batch, b.WellFormed
  table : i.table.WellFormed
  columns : ∀ c ∈ i.columns, c.WellFormed
  values : i.values.WellFormed
  usage : ∀ u ∈ i.usage, u.WellFormed

def canonical (i : Insert) : Insert :=
  { i with values := i.values.canonical }

lemma cql_canonical (i : Insert) : i.canonical.cql = i.cql := by
  rw [cql, canonical, InsertValues.cql_canonical]
  rfl

/-- What stands in front of the statement itself. -/
def opening (i : Insert) : Text :=
  match i.batch with
  | some b => b.cql
  | none => ""

def usageText : Option Usage → Text
  | some u => u.cql
  | none => ""

/-- What stands behind the row. -/
def ending (i : Insert) : Text :=
  Text.ofString (if i.ifNotExists then " IF NOT EXISTS" else "") ++ usageText i.usage

/-- The text of a statement, cut where the reader goes on. -/
lemma cql_eq (i : Insert) :
    i.cql = i.opening ++ ("INSERT INTO " ++ (i.table.cql ++ (" (" ++
      (Text.join ", " (i.columns.map Identifier.cql) ++ 0x29 :: (Text.ofString " " ++
        (i.values.cql ++ i.ending)))))) := by
  simp only [cql, opening, ending, List.append_assoc]
  rfl

/-- Read a USING clause up to the end of the text, if there is one. -/
def readUsage : Text → Option (Option Usage)
  | [] => some none
  | t => (Text.dropStart? " USING " t).bind fun t => (Usage.readParts t).map some

/-- Read what stands behind the row. -/
def readEnding (t : Text) : Option (Bool × Option Usage) :=
  match Text.dropStart? " IF NOT EXISTS" t with
  | some t => (readUsage t).map fun u => (true, u)
  | none => (readUsage t).map fun u => (false, u)

/-- Read a whole statement. -/
def read? (t : Text) : Option Insert := do
  let (batch, t) ← Batch.readOpening t
  let t ← Text.dropStart? "INSERT INTO " t
  let (table, t) ← TableName.read t
  let t ← Text.dropStart? " (" t
  let (columns, t) ← Reader.sequence Identifier.read 0x29 t
  let t ← Text.dropStart? " " t
  let (values, t) ← InsertValues.read t
  let (ifNotExists, usage) ← readEnding t
  pure ⟨batch, table, columns, values, usage, ifNotExists⟩

lemma WellFormed.readOpening_opening {i : Insert} (h : i.WellFormed) (rest : Text) :
    Batch.readOpening (i.opening ++ ("INSERT INTO " ++ rest))
      = some (i.batch, "INSERT INTO " ++ rest) := by
  obtain ⟨_ | b, _, _, _, _, _⟩ := i
  · rfl
  · exact Batch.readOpening_cql (h.batch b rfl) rest

section

variable {usage : Option Usage} (h : ∀ u ∈ usage, u.WellFormed)
include h

/-- A clause that may be missing is read back up to the end. -/
lemma readUsage_usageText : readUsage (usageText usage) = some usage := by
  cases usage with
  | none => rfl
  | some u =>
    have hu : u.WellFormed := h u rfl
    have hread : readUsage (" USING " ++ Text.join " AND " u.parts)
        = (Usage.readParts (Text.join " AND " u.parts)).map some := rfl
    rw [usageText, hu.cql_eq, hread, hu.readParts_parts]
    rfl

lemma dropStart?_usageText : Text.dropStart? " IF NOT EXISTS" (usageText usage) = none := by
  cases usage with
  | none => rfl
  | some u =>
    rw [usageText, (h u rfl).cql_eq]
    rfl

/-- A clause starts with a space, so that it cannot be taken for a part of the row. -/
lemma usageText_startsWith : (usageText usage).StartsWith (· = 0x20) := by
  cases usage with
  | none => exact Text.startsWith_nil _
  | some u =>
    rw [usageText, (h u rfl).cql_eq]
    exact (Text.startsWith_cons (b := 0x20)).mpr (decide_eq_true rfl)

end

/-- What stands behind the row is read back up to the end. -/
lemma WellFormed.readEnding_ending {i : Insert} (h : i.WellFormed) :
    readEnding i.ending = some (i.ifNotExists, i.usage) := by
  have husage := readUsage_usageText h.usage
  cases hexists : i.ifNotExists with
  | false =>
    have hending : i.ending = usageText i.usage := by
      rw [ending, hexists]
      rfl
    simp only [hending, readEnding, dropStart?_usageText h.usage, husage, Option.map_some]
  | true =>
    have hending : i.ending = " IF NOT EXISTS" ++ usageText i.usage := by
      rw [ending, hexists, if_pos rfl]
    simp only [hending, readEnding, Text.dropStart?_append, husage, Option.map_some]

lemma WellFormed.ending_startsWith {i : Insert} (h : i.WellFormed) :
    i.ending.StartsWith (· = 0x20) := by
  cases hexists : i.ifNotExists with
  | false =>
    rw [ending, hexists]
    exact usageText_startsWith h.usage
  | true =>
    rw [ending, hexists, if_pos rfl]
    exact (Text.startsWith_cons (b := 0x20)).mpr (decide_eq_true rfl)

/-- The columns are read back up to the bracket behind them. -/
lemma WellFormed.sequence_columns {i : Insert} (h : i.WellFormed) (rest : Text) :
    Reader.sequence Identifier.read 0x29
        (Text.join ", " (i.columns.map Identifier.cql) ++ 0x29 :: rest)
      = some (i.columns, rest) := by
  have hends : ∀ b, Reader.endsItem 0x29 b = true → Identifier.endsName b = true := by
    intro b hb
    have hcases : b = 0x2c ∨ b = 0x29 := by simpa [Reader.endsItem] using hb
    rcases hcases with rfl | rfl <;> rfl
  have hsequence : Reader.sequence Identifier.read 0x29
      (Text.join ", " (i.columns.map Identifier.cql) ++ 0x29 :: rest)
        = some (i.columns.map id, rest) := by
    refine Reader.sequence_append (by decide) (fun c hc => ?_) (fun c hc r hr => ?_) rest
    · obtain ⟨b, t, hcql, hb⟩ := (h.columns c hc).cql_start
      refine ⟨b, t, hcql, ?_⟩
      rintro rfl
      exact absurd hb (by decide)
    · exact Identifier.read_cql (h.columns c hc) r (hr.mono hends)
  rwa [List.map_id] at hsequence

/-- Every well-formed statement is read back from its text, up to empty maps. -/
lemma WellFormed.read?_cql {i : Insert} (h : i.WellFormed) : read? i.cql = some i.canonical := by
  have htable := TableName.read_cql h.table (" (" ++
    (Text.join ", " (i.columns.map Identifier.cql) ++ 0x29 :: (Text.ofString " " ++
      (i.values.cql ++ i.ending)))) ((Text.startsWith_cons (b := 0x20)).mpr (decide_eq_true rfl))
  have hvalues := InsertValues.read_cql h.values i.ending h.ending_startsWith
  simp only [cql_eq, read?, h.readOpening_opening, Option.bind_eq_bind, Option.bind_some,
    Text.dropStart?_append, htable, h.sequence_columns, hvalues, h.readEnding_ending,
    Option.pure_def, canonical]

/-- Two well-formed statements have the same text exactly if they are the same up to empty maps,
which are written like empty sets. -/
theorem cql_eq_cql_iff {i j : Insert} (hi : i.WellFormed) (hj : j.WellFormed) :
    i.cql = j.cql ↔ i.canonical = j.canonical := by
  constructor
  · intro h
    have hread : some i.canonical = some j.canonical := by
      rw [← hi.read?_cql, ← hj.read?_cql, h]
    exact Option.some.inj hread
  · intro h
    rw [← cql_canonical i, ← cql_canonical j, h]

/-- A statement that uses every clause, with the operand `inner` deep inside its row. -/
def nesting (inner : Operand) : Insert where
  batch := some ⟨.unlogged, some 5⟩
  table := ⟨some ⟨"shop", false⟩, ⟨"a\".b", true⟩⟩
  columns := [⟨"id", false⟩, ⟨"x, y)", true⟩]
  values := .operands
    [.call "f" [.string "it's (, \x7b", .tuple [.param "", .null]],
      .collection .map [(.const "-1", .collection .list [(.hole, inner)])]]
  usage := some ⟨some 7, some 8⟩
  ifNotExists := true

lemma nesting_wellFormed {inner : Operand} (h : inner.WellFormed) : (nesting inner).WellFormed where
  batch := by simp [nesting, Batch.WellFormed]
  table := by
    simp only [nesting, TableName.WellFormed, Option.mem_def, Option.some.injEq, forall_eq']
    decide
  columns := by
    simp only [nesting, List.mem_cons, List.not_mem_nil, or_false, forall_eq_or_imp, forall_eq]
    decide
  values := by
    have hcall : Operand.WellFormed
        (.call "f" [.string "it's (, \x7b", .tuple [.param "", .null]]) :=
      .call rfl (by simpa using ⟨.string _, .tuple (by simpa using ⟨.marker, .null⟩)⟩)
    have hmap : Operand.WellFormed
        (.collection .map [(.const "-1", .collection .list [(.hole, inner)])]) :=
      .map (by simpa using .numeral rfl) (by simpa using .list (by simp) (by simpa using h))
    simpa [nesting, InsertValues.WellFormed] using ⟨hcall, hmap⟩
  usage := by simp [nesting, Usage.WellFormed]

/-- An empty map is written like an empty set, and an empty list is not. -/
theorem cql_nesting_empty :
    (nesting (.collection .map [])).WellFormed ∧ (nesting (.collection .set [])).WellFormed ∧
      (nesting (.collection .list [])).WellFormed ∧
      (nesting (.collection .map [])).cql = (nesting (.collection .set [])).cql ∧
      (nesting (.collection .list [])).cql ≠ (nesting (.collection .set [])).cql := by
  have hmap : (nesting (.collection .map [])).WellFormed :=
    nesting_wellFormed (.map (by simp) (by simp))
  have hset : (nesting (.collection .set [])).WellFormed :=
    nesting_wellFormed (.set (by simp) (by simp))
  have hlist : (nesting (.collection .list [])).WellFormed :=
    nesting_wellFormed (.list (by simp) (by simp))
  refine ⟨hmap, hset, hlist, (cql_eq_cql_iff hmap hset).mpr rfl, fun h => ?_⟩
  have hcanonical := (cql_eq_cql_iff hlist hset).mp h
  simp [nesting, canonical, InsertValues.canonical, Operand.canonical, Operand.canonicalList,
    Operand.canonicalElements] at hcanonical

end Insert

end CqlWriter
