import Mathlib
import CqlWriter.Statement.Basic
import CqlWriter.Proofs.Reading

/-!
# The texts of ALTER TABLE and CREATE INDEX statements are unambiguous

Readers for the two kinds of statement give back every well-formed one from its text. So two of them
with the same text are the same statement, and none has the text of an INSERT statement.
-/

namespace CqlWriter

/-! ### Column types -/

namespace DataType

/-- The name and the parameters are words, and the name is not the word that marks frozen types. -/
def WellFormed (d : DataType) : Prop :=
  Text.isWord d.name = true ∧ d.name ≠ "frozen" ∧ ∀ p ∈ d.params, Text.isWord p = true

def plain (d : DataType) : Text :=
  if d.params.isEmpty then d.name
  else d.name ++ ("<" ++ (Text.join ", " d.params ++ ">"))

def readParams : Reader (List Text)
  | 0x3c :: t => Reader.sequence Text.readWord 0x3e t
  | t => some ([], t)

/-- Read a type. -/
def read : Reader DataType := fun t => do
  let (name, t) ← Text.readWord t
  if name = "frozen" then
    let t ← Text.dropStart? "<" t
    let (name, t) ← Text.readWord t
    let (params, t) ← readParams t
    let t ← Text.dropStart? ">" t
    pure (⟨name, params, true⟩, t)
  else
    let (params, t) ← readParams t
    pure (⟨name, params, false⟩, t)

/-- The bytes that may follow a type. -/
def endsType (b : UInt8) : Bool :=
  !Text.isWordByte b && b ≠ 0x3c

/-- The mark of a frozen type stands around the rest. -/
lemma cql_eq (d : DataType) :
    d.cql = if d.frozen then "frozen<" ++ (d.plain ++ ">") else d.plain := by
  simp only [cql, plain, List.append_assoc]

/-- Parameters are read back up to the bracket behind them. -/
lemma readParams_sequence {params : List Text} (h : ∀ p ∈ params, Text.isWord p = true)
    (rest : Text) :
    readParams (0x3c :: (Text.join ", " params ++ 0x3e :: rest)) = some (params, rest) := by
  have hsequence : Reader.sequence Text.readWord 0x3e
      (Text.join ", " (params.map id) ++ 0x3e :: rest) = some (params, rest) := by
    refine Reader.sequence_join (by decide) (fun p hp => ?_) (fun p hp r hr => ?_) rest
    · obtain ⟨b, s, hp, hb, -⟩ := Text.isWord_iff.mp (h p hp)
      refine ⟨b, s, hp, ?_⟩
      rintro rfl
      exact absurd hb (by decide)
    · refine Text.readWord_reads (h p hp) r (hr.mono fun b hb => ?_)
      have hcases : b = 0x2c ∨ b = 0x3e := by simpa [Reader.endsItem] using hb
      rcases hcases with rfl | rfl <;> rfl
  rwa [List.map_id] at hsequence

lemma readParams_none {rest : Text} (h : rest.StartsWith (· ≠ 0x3c)) :
    readParams rest = some ([], rest) := by
  unfold readParams
  split
  · simp at h
  · rfl

/-- The name of a type and its parameters are read back. -/
lemma WellFormed.read_plain {d : DataType} (h : d.WellFormed) (rest : Text)
    (hrest : rest.StartsWith endsType) :
    ∃ t, Text.readWord (d.plain ++ rest) = some (d.name, t) ∧
      readParams t = some (d.params, rest) := by
  obtain ⟨hname, -, hparams⟩ := h
  unfold plain
  split_ifs with hempty
  · have hnil : d.params = [] := by simpa using hempty
    refine ⟨rest, Text.readWord_reads hname rest (hrest.mono fun b hb => ?_), ?_⟩
    · exact (Bool.and_eq_true_iff.mp hb).1
    · rw [hnil]
      exact readParams_none (hrest.mono fun b hb => (Bool.and_eq_true_iff.mp hb).2)
  · refine ⟨0x3c :: (Text.join ", " d.params ++ 0x3e :: rest), ?_, readParams_sequence hparams rest⟩
    have htext : (d.name ++ (Text.ofString "<" ++ (Text.join ", " d.params ++ ">"))) ++ rest
        = d.name ++ 0x3c :: (Text.join ", " d.params ++ 0x3e :: rest) := by
      simp only [List.append_assoc]
      rfl
    rw [htext]
    exact Text.readWord_reads hname _ (Text.startsWith_cons.mpr rfl)

/-- A type is read back up to what may follow it. -/
lemma read_cql {d : DataType} (h : d.WellFormed) : read.Reads d.cql d endsType := by
  intro rest hrest
  rw [cql_eq]
  obtain ⟨name, params, _ | _⟩ := d
  · obtain ⟨t, hname, hparams⟩ := h.read_plain rest hrest
    rw [if_neg Bool.false_ne_true, read, hname]
    simp [h.2.1, hparams]
  · obtain ⟨t, hname, hparams⟩ := h.read_plain (">" ++ rest) (Text.startsWith_cons.mpr rfl)
    -- the first word is the name of no well-formed type
    have hword : ∀ u, Text.readWord ("frozen<" ++ u) = some (Text.ofString "frozen", "<" ++ u) :=
      fun u => rfl
    rw [if_pos rfl, List.append_assoc, List.append_assoc, read, hword]
    simp [hname, hparams]

end DataType

/-! ### Column definitions -/

namespace ColumnDefinition

def WellFormed (c : ColumnDefinition) : Prop :=
  c.name.WellFormed ∧ c.type.WellFormed

def read : Reader ColumnDefinition := fun t => do
  let (name, t) ← Identifier.read t
  let t ← Text.dropStart? " " t
  let (type, t) ← DataType.read t
  let (isStatic, t) := Text.readFlag " STATIC" t
  let (primaryKey, t) := Text.readFlag " PRIMARY KEY" t
  pure (⟨name, type, isStatic, primaryKey⟩, t)

/-- What stands behind the type of a column. -/
def marks (c : ColumnDefinition) : Text :=
  Text.ofString (if c.isStatic then " STATIC" else "")
    ++ Text.ofString (if c.primaryKey then " PRIMARY KEY" else "")

lemma marks_append_startsWith (c : ColumnDefinition) {rest : Text}
    (h : rest.StartsWith (· = 0x2c)) : Text.StartsWith DataType.endsType (c.marks ++ rest) := by
  rw [marks, List.append_assoc]
  cases c.isStatic with
  | true => exact (Text.startsWith_cons (b := 0x20)).mpr rfl
  | false =>
    cases c.primaryKey with
    | true => exact (Text.startsWith_cons (b := 0x20)).mpr rfl
    | false => exact h.of_eq rfl

/-- The marks of a column are read back. -/
lemma readFlag_marks (c : ColumnDefinition) {rest : Text} (h : rest.StartsWith (· = 0x2c)) :
    ∃ t, Text.readFlag " STATIC" (c.marks ++ rest) = (c.isStatic, t) ∧
      Text.readFlag " PRIMARY KEY" t = (c.primaryKey, rest) := by
  have hkey : Text.dropStart? " PRIMARY KEY" rest = none := Text.dropStart?_eq_none (h.of_eq rfl)
  refine ⟨Text.ofString (if c.primaryKey then " PRIMARY KEY" else "") ++ rest, ?_,
    Text.readFlag_append hkey _⟩
  rw [marks, List.append_assoc]
  refine Text.readFlag_append ?_ _
  cases c.primaryKey with
  | false => exact Text.dropStart?_eq_none (h.of_eq rfl)
  | true => rfl

/-- A column definition is read back up to the next one. -/
lemma read_cql {c : ColumnDefinition} (h : c.WellFormed) : read.Reads c.cql c (· = 0x2c) := by
  intro rest hrest
  have hcql : c.cql ++ rest = c.name.cql ++ (" " ++ (c.type.cql ++ (c.marks ++ rest))) := by
    simp only [cql, marks, List.append_assoc]
  have hname := Identifier.read_cql h.1 (" " ++ (c.type.cql ++ (c.marks ++ rest)))
    ((Text.startsWith_cons (b := 0x20)).mpr rfl)
  have htype := DataType.read_cql h.2 (c.marks ++ rest) (c.marks_append_startsWith hrest)
  obtain ⟨t, hstatic, hkey⟩ := c.readFlag_marks hrest
  rw [hcql, read, hname]
  simp only [Option.bind_eq_bind, Option.bind_some, Text.dropStart?_append, htype, hstatic, hkey,
    Option.pure_def]

lemma cql_ne_nil {c : ColumnDefinition} (h : c.WellFormed) : c.cql ≠ [] := by
  obtain ⟨b, t, hname, -⟩ := h.1.cql_start
  simp [cql, hname]

end ColumnDefinition

/-! ### Table options -/

namespace OrderColumn

def read : Reader OrderColumn := fun t => do
  let (name, t) ← Identifier.read t
  match Text.dropStart? " DESC" t with
  | some t => pure (⟨name, true⟩, t)
  | none => do
    let t ← Text.dropStart? " ASC" t
    pure (⟨name, false⟩, t)

/-- A column of a clustering order is read back, whatever follows. -/
lemma read_cql {c : OrderColumn} (h : c.name.WellFormed) (rest : Text) :
    read (c.cql ++ rest) = some (c, rest) := by
  obtain ⟨name, _ | _⟩ := c
  · have hname := Identifier.read_cql h (" ASC" ++ rest) (Text.startsWith_cons.mpr rfl)
    have hdesc : Text.dropStart? " DESC" (" ASC" ++ rest) = none := rfl
    rw [cql, if_neg Bool.false_ne_true, List.append_assoc, read, hname]
    simp [hdesc]
  · have hname := Identifier.read_cql h (" DESC" ++ rest) (Text.startsWith_cons.mpr rfl)
    rw [cql, if_pos rfl, List.append_assoc, read, hname]
    simp

/-- A column of a clustering order does not start like the end of the order. -/
lemma cql_start {c : OrderColumn} (h : c.name.WellFormed) :
    ∃ b t, c.cql = b :: t ∧ b ≠ 0x29 := by
  obtain ⟨b, t, hname, hb⟩ := h.cql_start
  refine ⟨b, _, by rw [cql, hname]; rfl, ?_⟩
  rintro rfl
  exact absurd hb (by decide)

end OrderColumn

namespace WithItem

/-- Whether a byte may stand in the value of a table option outside quotes. -/
def isValueByte (b : UInt8) : Bool :=
  Text.isWordByte b || b = 0x2e || b = 0x2b || b = 0x2d

/-- The text is a string literal, or it is made of letters, digits, low lines, dots and signs, as
words and numerals are. -/
def IsValue (v : Text) : Prop :=
  (∃ s, v = quoteLiteral s) ∨ v.all isValueByte = true

/-- The names of a table option are words, the one of a property is not `ID`, and its value is a
word, a numeral or a string literal. -/
def WellFormed : WithItem → Prop
  | hole => False
  | property name value => Text.isWord name = true ∧ name ≠ "ID" ∧ IsValue value
  | clusteringOrder columns => ∀ c ∈ columns, c.name.WellFormed
  | id value => IsValue value
  | compactStorage => True

/-- Read the value of a table option. -/
def readValue : Reader Text
  | 0x27 :: t => (Text.readQuoted 0x27 t).map fun p => (quoteLiteral p.1, p.2)
  | t => some (Text.readWhile isValueByte t)

def read : Reader WithItem := fun t => do
  let (name, rest) ← Text.readWord t
  match Text.dropStart? " = " rest with
  | some t => do
    let (value, t) ← readValue t
    pure (if name = "ID" then id value else property name value, t)
  | none =>
    match Text.dropStart? "CLUSTERING ORDER BY (" t with
    | some t => do
      let (columns, t) ← Reader.sequence OrderColumn.read 0x29 t
      pure (clusteringOrder columns, t)
    | none => do
      let t ← Text.dropStart? "COMPACT STORAGE" t
      pure (compactStorage, t)

/-- The value of an option is read back up to a space. -/
lemma readValue_reads {v : Text} (h : IsValue v) : readValue.Reads v v (· = 0x20) := by
  intro rest hrest
  rcases h with ⟨s, rfl⟩ | h
  · have htext : quoteLiteral s ++ rest = 0x27 :: (Text.doubled 0x27 s ++ 0x27 :: rest) := by
      rw [quoteLiteral, List.append_assoc, List.append_assoc]
      rfl
    have hquoted := Text.readQuoted_doubled (q := 0x27) (hrest.mono (by simp +contextual)) s
    rw [htext, readValue, hquoted]
    rfl
  · have hbytes := List.all_eq_true.mp h
    have hspan := Text.readWhile_append hbytes (hrest.of_eq rfl)
    have hquote : ∀ t, v ++ rest = 0x27 :: t → False := by
      intro t ht
      rcases List.append_eq_cons_iff.mp ht with ⟨-, rfl⟩ | ⟨s, rfl, -⟩
      · exact absurd (Text.startsWith_cons.mp hrest) (by decide)
      · exact absurd (hbytes 0x27 (by simp)) (by decide)
    rw [readValue, hspan]
    exact hquote

/-- An option is read back, of whichever kind. -/
lemma read_cql {i : WithItem} (h : i.WellFormed) : read.Reads i.cql i (· = 0x20) := by
  intro rest hrest
  cases i with
  | hole => exact h.elim
  | property name value =>
    obtain ⟨hname, hid, hvalue⟩ := h
    have hword := Text.readWord_reads hname (" = " ++ (value ++ rest))
      ((Text.startsWith_cons (b := 0x20)).mpr rfl)
    rw [cql, List.append_assoc, List.append_assoc, read, hword]
    simp [readValue_reads hvalue rest hrest, hid]
  | id value =>
    have hword : Text.readWord ("ID = " ++ (value ++ rest))
        = some (Text.ofString "ID", " = " ++ (value ++ rest)) := rfl
    rw [cql, List.append_assoc, read, hword]
    simp [readValue_reads h rest hrest]
  | clusteringOrder columns =>
    have hword : ∀ t, Text.readWord ("CLUSTERING ORDER BY (" ++ t)
        = some (Text.ofString "CLUSTERING", " ORDER BY (" ++ t) := fun t => rfl
    have hproperty : ∀ t, Text.dropStart? " = " (" ORDER BY (" ++ t) = none := fun t => rfl
    have hcolumns : Reader.sequence OrderColumn.read 0x29
        (Text.join ", " (columns.map OrderColumn.cql) ++ 0x29 :: rest) = some (columns, rest) := by
      refine Reader.sequence_join (by decide) (fun c hc => ?_) (fun c hc r _ => ?_) rest
      · exact OrderColumn.cql_start (h c hc)
      · exact OrderColumn.read_cql (h c hc) r
    have htext : (clusteringOrder columns).cql ++ rest = "CLUSTERING ORDER BY (" ++
        (Text.join ", " (columns.map OrderColumn.cql) ++ 0x29 :: rest) := by
      rw [cql, List.append_assoc, List.append_assoc]
      rfl
    rw [htext, read, hword]
    simp only [Option.bind_eq_bind, Option.bind_some, hproperty, Text.dropStart?_append, hcolumns,
      Option.pure_def]
  | compactStorage => rfl

lemma cql_ne_nil {i : WithItem} (h : i.WellFormed) : i.cql ≠ [] := by
  cases i with
  | hole => exact h.elim
  | property name value =>
    obtain ⟨b, s, rfl, -⟩ := Text.isWord_iff.mp h.1
    simp [cql]
  | clusteringOrder _ | id _ | compactStorage => exact List.cons_ne_nil _ _

end WithItem

/-! ### ALTER TABLE -/

namespace Alteration

/-- The columns and the options are well formed. -/
def WellFormed : Alteration → Prop
  | hole | dropCompactStorage => True
  | add columns => ∀ c ∈ columns, c.WellFormed
  | drop columns => ∀ c ∈ columns, c.WellFormed
  | rename source target => source.WellFormed ∧ target.WellFormed
  | options items => ∀ i ∈ items, i.WellFormed

/-- Read what stands behind `DROP`. -/
def readDrop (t : Text) : Option Alteration :=
  match Reader.list Identifier.read ", " t with
  | some columns => some (drop columns)
  | none => if t = "COMPACT STORAGE" then some dropCompactStorage else none

/-- Read what stands behind `RENAME`. -/
def readRename (t : Text) : Option Alteration := do
  let (source, t) ← Identifier.read t
  let t ← Text.dropStart? " TO " t
  let (target, _) ← Identifier.read t
  pure (rename source target)

/-- Read an alteration up to the end of the text. Its first byte tells the kind. -/
def read? : Text → Option Alteration
  | [] => some hole
  | 0x41 :: t => do
    let t ← Text.dropStart? "DD " t
    (Reader.list ColumnDefinition.read ", " t).map add
  | 0x44 :: t => (Text.dropStart? "ROP " t).bind readDrop
  | 0x52 :: t => (Text.dropStart? "ENAME " t).bind readRename
  | _ :: t => do
    let t ← Text.dropStart? "ITH " t
    (Reader.list WithItem.read " AND " t).map options

lemma readDrop_cql {columns : List Identifier} (h : ∀ c ∈ columns, c.WellFormed) :
    readDrop (Text.join ", " (columns.map Identifier.cql)) = some (drop columns) := by
  have hcomma : Text.ofString ", " = [0x2c, 0x20] := rfl
  have hcolumns : Reader.list Identifier.read ", " (Text.join ", " (columns.map Identifier.cql))
      = some columns := by
    rw [hcomma]
    exact Reader.list_join (fun c hc => Identifier.read_cql (h c hc))
      (fun c hc => (h c hc).cql_ne_nil) rfl
  rw [readDrop, hcolumns]

lemma readRename_cql {source target : Identifier} (hsource : source.WellFormed)
    (htarget : target.WellFormed) :
    readRename (source.cql ++ (" TO " ++ target.cql)) = some (rename source target) := by
  have hlast := Identifier.read_cql htarget [] (Text.startsWith_nil _)
  have hfirst := Identifier.read_cql hsource (" TO " ++ target.cql)
    ((Text.startsWith_cons (b := 0x20)).mpr rfl)
  rw [List.append_nil] at hlast
  simp [readRename, hfirst, hlast]

/-- An alteration is read back up to the end, since its first byte tells the kind. -/
lemma read?_cql {a : Alteration} (h : a.WellFormed) : read? a.cql = some a := by
  have hcomma : Text.ofString ", " = [0x2c, 0x20] := rfl
  have hand : Text.ofString " AND " = 0x20 :: Text.ofString "AND " := rfl
  cases a with
  | hole | dropCompactStorage => rfl
  | add columns =>
    have hread : ∀ t, read? ("ADD " ++ t) = (Reader.list ColumnDefinition.read ", " t).map add :=
      fun t => rfl
    rw [cql, hread, hcomma, Reader.list_join (fun c hc => ColumnDefinition.read_cql (h c hc))
      (fun c hc => ColumnDefinition.cql_ne_nil (h c hc)) rfl]
    rfl
  | drop columns => exact readDrop_cql h
  | rename source target =>
    have hread : ∀ t, read? ("RENAME " ++ t) = readRename t := fun t => rfl
    rw [cql, List.append_assoc, List.append_assoc, hread, readRename_cql h.1 h.2]
  | options items =>
    have hread : ∀ t, read? ("WITH " ++ t) = (Reader.list WithItem.read " AND " t).map options :=
      fun t => rfl
    rw [cql, hread, hand, Reader.list_join (fun i hi => WithItem.read_cql (h i hi))
      (fun i hi => WithItem.cql_ne_nil (h i hi)) rfl]
    rfl

end Alteration

namespace AlterTable

/-- The table and the alteration are well formed. -/
def WellFormed (a : AlterTable) : Prop :=
  a.table.WellFormed ∧ a.alteration.WellFormed

def read? (t : Text) : Option AlterTable := do
  let t ← Text.dropStart? "ALTER TABLE " t
  let (table, t) ← TableName.read t
  let t ← Text.dropStart? " " t
  let alteration ← Alteration.read? t
  pure ⟨table, alteration⟩

lemma read?_cql {a : AlterTable} (h : a.WellFormed) : read? a.cql = some a := by
  have htable := TableName.read_cql h.1 (" " ++ a.alteration.cql)
    ((Text.startsWith_cons (b := 0x20)).mpr rfl)
  rw [cql, List.append_assoc, List.append_assoc, read?]
  simp [htable, Alteration.read?_cql h.2]

end AlterTable

/-! ### CREATE INDEX -/

namespace IndexTarget

def WellFormed (t : IndexTarget) : Prop :=
  ∀ name ∈ t.column?, name.WellFormed

/-- The kind of index that a word in front of a parenthesis names. -/
def kindNamed? (word : Text) : Option IndexKind :=
  if word = "KEYS" then some .keys
  else if word = "ENTRIES" then some .entries
  else if word = "FULL" then some .full
  else none

/-- Read an index target with a blank behind it. -/
def read? : Text → Option IndexTarget
  | 0x20 :: _ => some hole
  | t => do
    let (first, t) ← Identifier.read t
    match Text.dropStart? "( " t with
    | none => pure (column .values first)
    | some t => do
      let kind ← kindNamed? first.name
      let (name, _) ← Identifier.read t
      pure (column kind name)

/-- A column that is indexed by its values is read back. -/
lemma read?_name {name : Identifier} (h : name.WellFormed) :
    read? (name.cql ++ " )") = some (column .values name) := by
  have hread := Identifier.read_cql h " )" ((Text.startsWith_cons (b := 0x20)).mpr rfl)
  have hplain : Text.dropStart? "( " " )" = none := rfl
  have hstart : ∀ t, name.cql ++ Text.ofString " )" = 0x20 :: t → False := by
    intro t ht
    obtain ⟨b, s, hname, hb⟩ := h.cql_start
    rw [hname, List.cons_append] at ht
    cases ht
    exact absurd hb (by decide)
  rw [read?]
  · simp [hread, hplain]
  · exact hstart

lemma read?_cql {t : IndexTarget} (h : t.WellFormed) : read? (t.cql ++ " )") = some t := by
  cases t with
  | hole => rfl
  | column kind name =>
    have hname : name.WellFormed := h name rfl
    -- behind the word of a kind comes the name alone
    have hinner := Identifier.read_cql hname (" )" ++ " )")
      ((Text.startsWith_cons (b := 0x20)).mpr rfl)
    have hread : kind ≠ .values → read? ((column kind name).cql ++ " )")
        = (Identifier.read (name.cql ++ (" )" ++ " )"))).bind fun p => some (column kind p.1) := by
      intro hkind
      cases kind with
      | values => exact absurd rfl hkind
      | keys | entries | full =>
        simp only [cql, IndexKind.apply, List.append_assoc]
        rfl
    cases kind with
    | values => exact read?_name hname
    | keys | entries | full =>
      rw [hread (by decide), hinner]
      rfl

end IndexTarget

namespace CreateIndex

/-- The names and the target are well formed. -/
structure WellFormed (c : CreateIndex) : Prop where
  name : ∀ name ∈ c.name, name.WellFormed
  table : c.table.WellFormed
  target : c.target.WellFormed

/-- Read the name of an index, if there is one, and the word `ON`. -/
def readName : Reader (Option Identifier) := fun t => do
  let (first, t) ← Identifier.read t
  let t ← Text.dropStart? " " t
  match Text.dropStart? "ON " t with
  | some t => pure (some first, t)
  | none => pure (none, t)

def read? (t : Text) : Option CreateIndex := do
  let t ← Text.dropStart? "CREATE INDEX " t
  let (ifNotExists, t) := Text.readFlag "IF NOT EXISTS " t
  let (name, t) ← readName t
  let (table, t) ← TableName.read t
  let t ← Text.dropStart? "( " t
  let target ← IndexTarget.read? t
  pure ⟨ifNotExists, name, table, target⟩

/-- The text of the name of an index, if there is one, and of the word `ON`. -/
def nameText : Option Identifier → Text
  | some name => name.cql ++ " ON "
  | none => "ON "

/-- The text of the statement, cut where the reader goes on. -/
lemma cql_eq (c : CreateIndex) :
    c.cql = "CREATE INDEX " ++ (Text.ofString (if c.ifNotExists then "IF NOT EXISTS " else "") ++
      (nameText c.name ++ (c.table.cql ++ ("( " ++ (c.target.cql ++ " )"))))) := by
  have hon : Text.ofString " ON " = " " ++ Text.ofString "ON " := rfl
  simp only [cql, List.append_assoc]
  cases c.name with
  | none => rfl
  | some name => simp only [nameText, hon, List.append_assoc]

/-- The name of a table in front of a parenthesis does not begin with the word `ON`. -/
lemma dropStart?_on {table : TableName} (h : table.WellFormed) (rest : Text) :
    Text.dropStart? "ON " (table.cql ++ ("( " ++ rest)) = none := by
  have htable := TableName.reads_cql h ("( " ++ rest) ((Text.startsWith_cons (b := 0x28)).mpr rfl)
  cases hdrop : Text.dropStart? "ON " (table.cql ++ ("( " ++ rest)) with
  | none => rfl
  | some u =>
    -- the table would be the word `ON`, with a blank behind it instead of the parenthesis
    have hread : TableName.read ("ON " ++ u) = some (⟨none, ⟨"ON", false⟩⟩, " " ++ u) := rfl
    rw [Text.eq_append_of_dropStart? hdrop, hread] at htable
    cases htable

/-- The name of an index does not begin with the words for a condition. -/
lemma dropStart?_condition {name : Option Identifier} (h : ∀ n ∈ name, n.WellFormed)
    (rest : Text) : Text.dropStart? "IF NOT EXISTS " (nameText name ++ rest) = none := by
  cases name with
  | none => rfl
  | some name =>
    have hname := Identifier.read_cql (h name rfl) (" ON " ++ rest)
      ((Text.startsWith_cons (b := 0x20)).mpr rfl)
    rw [nameText, List.append_assoc]
    cases hdrop : Text.dropStart? "IF NOT EXISTS " (name.cql ++ (" ON " ++ rest)) with
    | none => rfl
    | some u =>
      -- the index would be the word `IF`, with another word than `ON` behind it
      have hread : Identifier.read ("IF NOT EXISTS " ++ u)
          = some (⟨"IF", false⟩, " NOT EXISTS " ++ u) := rfl
      rw [Text.eq_append_of_dropStart? hdrop, hread] at hname
      cases hname

/-- The name of an index, or that there is none, is read back up to the table. -/
lemma readName_nameText {name : Option Identifier} (h : ∀ n ∈ name, n.WellFormed)
    {table : TableName} (htable : table.WellFormed) (rest : Text) :
    readName (nameText name ++ (table.cql ++ ("( " ++ rest)))
      = some (name, table.cql ++ ("( " ++ rest)) := by
  cases name with
  | none =>
    have hread : ∀ t, Identifier.read ("ON " ++ t) = some (⟨"ON", false⟩, " " ++ t) := fun t => rfl
    rw [nameText, readName, hread]
    simp [dropStart?_on htable]
  | some name =>
    have hon : Text.ofString " ON " = " " ++ Text.ofString "ON " := rfl
    have hread := Identifier.read_cql (h name rfl)
      (" ON " ++ (table.cql ++ ("( " ++ rest))) ((Text.startsWith_cons (b := 0x20)).mpr rfl)
    rw [nameText, List.append_assoc, readName, hread, hon, List.append_assoc]
    simp

lemma read?_cql {c : CreateIndex} (h : c.WellFormed) : read? c.cql = some c := by
  have htable := TableName.reads_cql h.table ("( " ++ (c.target.cql ++ " )"))
    ((Text.startsWith_cons (b := 0x28)).mpr rfl)
  rw [cql_eq, read?, Text.dropStart?_append]
  simp only [Option.bind_eq_bind, Option.bind_some,
    Text.readFlag_append (dropStart?_condition h.name _), readName_nameText h.name h.table, htable,
    Text.dropStart?_append, IndexTarget.read?_cql h.target, Option.pure_def]

end CreateIndex

/-! ### Statements -/

namespace Statement

/-- A well-formed statement that changes a table or creates an index. -/
def WellFormedSchema : Statement → Prop
  | alterTable a => a.WellFormed
  | createIndex c => c.WellFormed
  | insert _ => False

def readSchema? (t : Text) : Option Statement :=
  if t.head? = some 0x41 then (AlterTable.read? t).map alterTable
  else (CreateIndex.read? t).map createIndex

lemma head?_cql_alterTable (a : AlterTable) : a.cql.head? = some 0x41 := rfl

lemma head?_cql_createIndex (c : CreateIndex) : c.cql.head? = some 0x43 := by
  rw [CreateIndex.cql_eq]
  rfl

lemma readSchema?_cql {s : Statement} (h : s.WellFormedSchema) : readSchema? s.cql = some s := by
  cases s with
  | alterTable a =>
    rw [cql, readSchema?, if_pos (head?_cql_alterTable a), AlterTable.read?_cql h]
    rfl
  | createIndex c =>
    rw [cql, readSchema?, head?_cql_createIndex, if_neg (by decide), CreateIndex.read?_cql h]
    rfl
  | insert i => exact h.elim

/-- An INSERT statement starts with `I`, or with `B` if it opens a batch. -/
lemma head?_cql_insert (i : Insert) : i.cql.head? = some 0x42 ∨ i.cql.head? = some 0x49 := by
  obtain ⟨_ | batch, table, columns, values, usage, ifNotExists⟩ := i
  · right
    simp only [Insert.cql, List.append_assoc]
    rfl
  · left
    simp only [Insert.cql, Batch.cql, List.append_assoc]
    rfl

/-- No statement of a schema looks like an insertion, which starts with another letter. -/
lemma WellFormedSchema.cql_ne_insert {s : Statement} (h : s.WellFormedSchema) (i : Insert) :
    s.cql ≠ i.cql := by
  intro heq
  have hinsert := head?_cql_insert i
  rw [← heq] at hinsert
  cases s with
  | alterTable a => exact absurd hinsert (by rw [cql, head?_cql_alterTable]; decide)
  | createIndex c => exact absurd hinsert (by rw [cql, head?_cql_createIndex]; decide)
  | insert i => exact h

/-- Two well-formed ALTER TABLE or CREATE INDEX statements with the same text are the same, and
neither has the text of an INSERT statement. -/
theorem eq_of_cql_eq {s t : Statement} (hs : s.WellFormedSchema) (ht : t.WellFormedSchema) :
    (s.cql = t.cql → s = t) ∧ ∀ i : Insert, s.cql ≠ i.cql ∧ t.cql ≠ i.cql := by
  refine ⟨fun h => ?_, fun i => ⟨hs.cql_ne_insert i, ht.cql_ne_insert i⟩⟩
  have hread : some s = some t := by rw [← readSchema?_cql hs, ← readSchema?_cql ht, h]
  exact Option.some.inj hread

/-- The statement that sets options of the table `t`. -/
def setOptions (items : List WithItem) : Statement :=
  .alterTable ⟨⟨none, ⟨"t", false⟩⟩, .options items⟩

/-- Words that look like a second option inside a string literal are no second option. -/
theorem cql_setOptions_ne :
    (setOptions [.property "a" (quoteLiteral "b AND c = d")]).WellFormedSchema ∧
      (setOptions [.property "a" "b", .property "c" "d"]).WellFormedSchema ∧
      (setOptions [.property "a" (quoteLiteral "b AND c = d")]).cql
        ≠ (setOptions [.property "a" "b", .property "c" "d"]).cql := by
  have htable : TableName.WellFormed ⟨none, ⟨"t", false⟩⟩ := ⟨by simp, by decide⟩
  have hliteral : (setOptions [.property "a" (quoteLiteral "b AND c = d")]).WellFormedSchema := by
    refine ⟨htable, ?_⟩
    simpa [Alteration.WellFormed] using ⟨by decide, by decide, .inl ⟨_, rfl⟩⟩
  have hitems : (setOptions [.property "a" "b", .property "c" "d"]).WellFormedSchema := by
    refine ⟨htable, ?_⟩
    simpa [Alteration.WellFormed] using
      ⟨⟨by decide, by decide, .inr rfl⟩, ⟨by decide, by decide, .inr rfl⟩⟩
  refine ⟨hliteral, hitems, fun h => ?_⟩
  have hsame := (eq_of_cql_eq hliteral hitems).1 h
  simp [setOptions] at hsame

end Statement

end CqlWriter
