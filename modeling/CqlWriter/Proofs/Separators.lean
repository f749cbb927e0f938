import Mathlib
import CqlWriter.Statement.Basic
import CqlWriter.Proofs.Text

/-!
# Statement boundaries

A tool that runs a script cuts it at the semicolons that stand outside quotes. Every text that a
statement is made of leads such a scan from outside quotes back to outside quotes and shows it no
semicolon on the way, provided that this holds of the pieces that are written as they are. So the
parts that the scan cuts out are the statements of the script.
-/

namespace CqlWriter

/-! ### The scan -/

/-- Where a scan of CQL text stands: outside quotes, in a string literal or in a quoted name. -/
inductive Region where
  | plain
  | literal
  | name
  deriving DecidableEq, Repr

namespace Region

/-- The region after one more byte. A quote enters or leaves the region that it delimits. -/
def next : Region → UInt8 → Region
  | plain, b => if b = 0x27 then literal else if b = 0x22 then name else plain
  | literal, b => if b = 0x27 then plain else literal
  | name, b => if b = 0x22 then plain else name

/-- The region after a text. -/
def scan (r : Region) (t : Text) : Region :=
  t.foldl next r

/-- Whether a byte that is met in a region separates statements. -/
def IsSeparator (r : Region) (b : UInt8) : Prop :=
  r = plain ∧ b = 0x3b

instance (r : Region) (b : UInt8) : Decidable (r.IsSeparator b) :=
  inferInstanceAs (Decidable (r = plain ∧ b = 0x3b))

/-- A text put in front of the first of the parts of a cut. -/
def extend (t : Text) : List Text × Text → List Text × Text
  | ([], last) => ([], t ++ last)
  | (part :: parts, last) => ((t ++ part) :: parts, last)

/-- The parts of a text that end at a separator, without it, and what comes after the last one. -/
def cut : Region → Text → List Text × Text
  | _, [] => ([], [])
  | r, b :: rest =>
    if r.IsSeparator b then
      let parts := cut (r.next b) rest
      ([] :: parts.1, parts.2)
    else extend [b] (cut (r.next b) rest)

/-- A text takes a scan from one region to another and holds no separator. -/
structure Leads (r : Region) (t : Text) (s : Region) : Prop where
  scan_eq : r.scan t = s
  uncut : (r.cut t).1 = []

end Region

/-- A text is closed if a scan that starts outside quotes ends there and meets no separator. -/
def Text.Closed (t : Text) : Prop :=
  Region.plain.Leads t .plain

namespace Region

@[simp] lemma scan_nil (r : Region) : r.scan [] = r := rfl

@[simp] lemma scan_cons (r : Region) (b : UInt8) (t : Text) :
    r.scan (b :: t) = (r.next b).scan t := rfl

/-- A scan goes on where it has stopped. -/
@[simp] lemma scan_append (r : Region) (t u : Text) : r.scan (t ++ u) = (r.scan t).scan u := by
  simp [scan]

@[simp] lemma extend_nil (parts : List Text × Text) : extend [] parts = parts := by
  obtain ⟨_ | ⟨part, parts⟩, last⟩ := parts <;> simp [extend]

lemma extend_append (t u : Text) (parts : List Text × Text) :
    extend t (extend u parts) = extend (t ++ u) parts := by
  obtain ⟨_ | ⟨part, parts⟩, last⟩ := parts <;> simp [extend]

/-- A byte that separates nothing goes to the part in front of it. -/
lemma cut_cons_of_not {r : Region} {b : UInt8} (h : ¬ r.IsSeparator b) (t : Text) :
    r.cut (b :: t) = extend [b] ((r.next b).cut t) := by
  simp [cut, h]

@[simp] lemma extend_fst_eq_nil (t : Text) (parts : List Text × Text) :
    (extend t parts).1 = [] ↔ parts.1 = [] := by
  obtain ⟨_ | ⟨part, parts⟩, last⟩ := parts <;> simp [extend]

namespace Leads

lemma nil (r : Region) : r.Leads [] r := ⟨rfl, rfl⟩

lemma cons {r s : Region} {b : UInt8} {t : Text} (hb : ¬ r.IsSeparator b)
    (h : (r.next b).Leads t s) : r.Leads (b :: t) s := by
  refine ⟨h.scan_eq, ?_⟩
  rw [cut_cons_of_not hb, extend_fst_eq_nil]
  exact h.uncut

lemma not_isSeparator {r s : Region} {b : UInt8} {t : Text} (h : r.Leads (b :: t) s) :
    ¬ r.IsSeparator b := by
  intro hb
  simpa [cut, hb] using h.uncut

lemma tail {r s : Region} {b : UInt8} {t : Text} (h : r.Leads (b :: t) s) :
    (r.next b).Leads t s := by
  refine ⟨h.scan_eq, ?_⟩
  have huncut := h.uncut
  rwa [cut_cons_of_not h.not_isSeparator, extend_fst_eq_nil] at huncut

/-- A text without separators stays in one part with what follows. -/
lemma cut_append {r s : Region} {t : Text} (h : r.Leads t s) (u : Text) :
    r.cut (t ++ u) = extend t (s.cut u) := by
  induction t generalizing r with
  | nil =>
    have hrs : r = s := h.scan_eq
    simp [hrs]
  | cons b t ih =>
    rw [List.cons_append, cut_cons_of_not h.not_isSeparator, ih h.tail, extend_append]
    rfl

/-- Texts without separators lead on one after the other. -/
lemma append {r s u : Region} {t v : Text} (h : r.Leads t s) (h' : s.Leads v u) :
    r.Leads (t ++ v) u := by
  refine ⟨?_, ?_⟩
  · rw [scan_append, h.scan_eq, h'.scan_eq]
  · rw [h.cut_append, extend_fst_eq_nil]
    exact h'.uncut

/-- Inside quotes of either kind, a text in which the quote is doubled never leaves them. -/
lemma doubled {r : Region} {q : UInt8} (hr : r ≠ plain) (hq : r.next q = plain)
    (hback : plain.next q = r) (hsep : q ≠ 0x3b) (hstay : ∀ b, b ≠ q → r.next b = r)
    (t : Text) : r.Leads (Text.doubled q t) r := by
  induction t with
  | nil => exact Leads.nil r
  | cons b t ih =>
    by_cases hb : b = q
    · subst hb
      rw [Text.doubled_cons_self]
      refine Leads.cons (fun h => hr h.1) ?_
      rw [hq]
      refine Leads.cons (fun h => hsep h.2) ?_
      rw [hback]
      exact ih
    · rw [Text.doubled_cons_of_ne hb]
      refine Leads.cons (fun h => hr h.1) ?_
      rw [hstay b hb]
      exact ih

end Leads

end Region

/-! ### Closed texts -/

namespace Text

namespace Closed

lemma nil : Closed [] := Region.Leads.nil _

lemma append {t u : Text} (ht : t.Closed) (hu : u.Closed) : Closed (t ++ u) :=
  Region.Leads.append ht hu

/-- Bytes that are neither quotes nor semicolons make a closed text. -/
lemma of_forall {t : Text} (h : ∀ b ∈ t, b ≠ 0x27 ∧ b ≠ 0x22 ∧ b ≠ 0x3b) : t.Closed := by
  induction t with
  | nil => exact nil
  | cons b t ih =>
    obtain ⟨hlit, hname, hsep⟩ := h b (by simp)
    refine Region.Leads.cons (fun hb => hsep hb.2) ?_
    rw [show Region.plain.next b = .plain by simp [Region.next, hlit, hname]]
    exact ih fun c hc => h c (by simp [hc])

/-- Closed texts with closed separators are closed together. -/
lemma join {sep : Text} {ts : List Text} (hsep : sep.Closed) (hts : ∀ t ∈ ts, t.Closed) :
    Closed (Text.join sep ts) := by
  cases ts with
  | nil => exact nil
  | cons t ts =>
    rw [join_cons]
    refine append (hts t (by simp)) ?_
    have hrest : ∀ u ∈ ts, u.Closed := fun u hu => hts u (by simp [hu])
    clear hts
    induction ts with
    | nil => exact nil
    | cons u us ih =>
      rw [List.flatMap_cons]
      refine append (append hsep (hrest u (by simp))) (ih ?_)
      exact fun v hv => hrest v (by simp [hv])

lemma ofNat (n : Nat) : Closed (Text.ofNat n) := by
  refine of_forall fun b hb => ?_
  have hdigit := isDigit_of_mem_ofNat n b hb
  refine ⟨?_, ?_, ?_⟩ <;> rintro rfl <;> exact absurd hdigit (by decide)

end Closed

instance (t : Text) : Decidable t.Closed :=
  decidable_of_iff (Region.plain.scan t = .plain ∧ (Region.plain.cut t).1 = [])
    ⟨fun h => ⟨h.1, h.2⟩, fun h => ⟨h.scan_eq, h.uncut⟩⟩

end Text

/-- A string literal is closed, whatever its value: quotes inside are doubled. -/
lemma quoteLiteral_closed (value : Text) : (quoteLiteral value).Closed := by
  have hopen : Region.plain.Leads (Text.ofString "'") .literal := ⟨rfl, rfl⟩
  have hclose : Region.literal.Leads (Text.ofString "'") .plain := ⟨rfl, rfl⟩
  have hbody : Region.literal.Leads (Text.doubled 0x27 value) .literal := by
    apply Region.Leads.doubled (by decide) (by rfl) (by rfl) (by decide)
    intro b hb
    simp [Region.next, hb]
  exact (hopen.append hbody).append hclose

/-- A quoted name is closed. -/
lemma quoteName_closed (name : Text) : (quoteName name).Closed := by
  have hopen : Region.plain.Leads (Text.ofString "\"") .name := ⟨rfl, rfl⟩
  have hclose : Region.name.Leads (Text.ofString "\"") .plain := ⟨rfl, rfl⟩
  have hbody : Region.name.Leads (Text.doubled 0x22 (name.takeWhile (· ≠ 0))) .name := by
    apply Region.Leads.doubled (by decide) (by rfl) (by rfl) (by decide)
    intro b hb
    simp [Region.next, hb]
  exact (hopen.append hbody).append hclose

/-! ### Pieces that are written as they are

A quoted name and a string literal may hold any text; every other text of a statement has to be
closed. -/

def Identifier.VerbatimClosed (i : Identifier) : Prop :=
  i.quoted = false → i.name.Closed

def TableName.VerbatimClosed (t : TableName) : Prop :=
  (∀ ks ∈ t.keyspace, ks.VerbatimClosed) ∧ t.name.VerbatimClosed

def DataType.VerbatimClosed (d : DataType) : Prop :=
  d.name.Closed ∧ ∀ p ∈ d.params, p.Closed

def ColumnDefinition.VerbatimClosed (c : ColumnDefinition) : Prop :=
  c.name.VerbatimClosed ∧ c.type.VerbatimClosed

def WithItem.VerbatimClosed : WithItem → Prop
  | .property name value => name.Closed ∧ value.Closed
  | .clusteringOrder columns => ∀ c ∈ columns, c.name.VerbatimClosed
  | .id value => value.Closed
  | .hole | .compactStorage => True

def Alteration.VerbatimClosed : Alteration → Prop
  | .add columns => ∀ c ∈ columns, c.VerbatimClosed
  | .drop columns => ∀ c ∈ columns, c.VerbatimClosed
  | .rename source target => source.VerbatimClosed ∧ target.VerbatimClosed
  | .options items => ∀ w ∈ items, w.VerbatimClosed
  | .hole | .dropCompactStorage => True

def IndexTarget.VerbatimClosed : IndexTarget → Prop
  | .hole => True
  | .column _ name => name.VerbatimClosed

/-- The constants of an operand are string literals of any value or closed texts, and its names are
closed, at every depth. -/
inductive Operand.VerbatimClosed : Operand → Prop
  | hole : VerbatimClosed .hole
  | string (value : Text) : VerbatimClosed (.string value)
  | const {text : Text} : text.Closed → VerbatimClosed (.const text)
  | param {name : Text} : name.Closed → VerbatimClosed (.param name)
  | column {name : Identifier} : name.VerbatimClosed → VerbatimClosed (.column name)
  | call {name : Text} {args : List Operand} :
      name.Closed → (∀ a ∈ args, VerbatimClosed a) → VerbatimClosed (.call name args)
  | tuple {elements : List Operand} :
      (∀ e ∈ elements, VerbatimClosed e) → VerbatimClosed (.tuple elements)
  | collection {kind : CollectionKind} {elements : List (Operand × Operand)} :
      (∀ e ∈ elements, VerbatimClosed e.1) → (∀ e ∈ elements, VerbatimClosed e.2) →
        VerbatimClosed (.collection kind elements)
  | null : VerbatimClosed .null

def InsertValues.VerbatimClosed : InsertValues → Prop
  | .hole => True
  | .operands values => ∀ v ∈ values, v.VerbatimClosed
  | .json text => text.Closed

def Statement.VerbatimClosed : Statement → Prop
  | .alterTable a => a.table.VerbatimClosed ∧ a.alteration.VerbatimClosed
  | .createIndex c =>
    (∀ name ∈ c.name, name.VerbatimClosed) ∧ c.table.VerbatimClosed ∧ c.target.VerbatimClosed
  | .insert i =>
    i.table.VerbatimClosed ∧ (∀ c ∈ i.columns, c.VerbatimClosed) ∧ i.values.VerbatimClosed

/-! ### The text of every node is closed -/

lemma Identifier.VerbatimClosed.cql_closed {i : Identifier} (h : i.VerbatimClosed) :
    i.cql.Closed := by
  unfold Identifier.cql
  split_ifs with hq
  · exact quoteName_closed i.name
  · exact h (by simpa using hq)

lemma TableName.VerbatimClosed.cql_closed {t : TableName} (h : t.VerbatimClosed) :
    t.cql.Closed := by
  obtain ⟨hks, hname⟩ := h
  unfold TableName.cql
  cases hk : t.keyspace with
  | none => exact hname.cql_closed
  | some ks =>
    exact ((hks ks (by simp [hk])).cql_closed.append (by decide)).append hname.cql_closed

lemma DataType.VerbatimClosed.cql_closed {d : DataType} (h : d.VerbatimClosed) :
    d.cql.Closed := by
  obtain ⟨hname, hparams⟩ := h
  have hplain : Text.Closed (if d.params.isEmpty then d.name
      else d.name ++ "<" ++ Text.join ", " d.params ++ ">") := by
    split_ifs
    · exact hname
    · exact ((hname.append (by decide)).append (.join (by decide) hparams)).append (by decide)
  unfold DataType.cql
  by_cases hfrozen : d.frozen
  · rw [if_pos hfrozen]
    exact (Text.Closed.append (by decide) hplain).append (by decide)
  · rw [if_neg hfrozen]
    exact hplain

lemma ColumnDefinition.VerbatimClosed.cql_closed {c : ColumnDefinition}
    (h : c.VerbatimClosed) : c.cql.Closed := by
  have hstatic : (Text.ofString (if c.isStatic then " STATIC" else "")).Closed := by
    split_ifs <;> decide
  have hkey : (Text.ofString (if c.primaryKey then " PRIMARY KEY" else "")).Closed := by
    split_ifs <;> decide
  have htype : Text.Closed (c.name.cql ++ " " ++ c.type.cql) :=
    (h.1.cql_closed.append (by decide)).append h.2.cql_closed
  exact (htype.append hstatic).append hkey

lemma OrderColumn.cql_closed {c : OrderColumn} (h : c.name.VerbatimClosed) : c.cql.Closed := by
  refine h.cql_closed.append ?_
  split_ifs <;> decide

lemma WithItem.VerbatimClosed.cql_closed {w : WithItem} (h : w.VerbatimClosed) :
    w.cql.Closed := by
  cases w with
  | hole => exact .nil
  | property name value => exact (h.1.append (by decide)).append h.2
  | clusteringOrder columns =>
    refine (Text.Closed.append (by decide) (.join (by decide) ?_)).append (by decide)
    simp only [List.mem_map, forall_exists_index, and_imp, forall_apply_eq_imp_iff₂]
    exact fun c hc => OrderColumn.cql_closed (h c hc)
  | id value => exact Text.Closed.append (by decide) h
  | compactStorage => decide

lemma Alteration.VerbatimClosed.cql_closed {a : Alteration} (h : a.VerbatimClosed) :
    a.cql.Closed := by
  cases a with
  | hole => exact .nil
  | add columns =>
    refine Text.Closed.append (by decide) (.join (by decide) ?_)
    simp only [List.mem_map, forall_exists_index, and_imp, forall_apply_eq_imp_iff₂]
    exact fun c hc => (h c hc).cql_closed
  | drop columns =>
    refine Text.Closed.append (by decide) (.join (by decide) ?_)
    simp only [List.mem_map, forall_exists_index, and_imp, forall_apply_eq_imp_iff₂]
    exact fun c hc => (h c hc).cql_closed
  | dropCompactStorage => decide
  | rename source target =>
    exact ((Text.Closed.append (by decide) h.1.cql_closed).append (by decide)).append
      h.2.cql_closed
  | options items =>
    refine Text.Closed.append (by decide) (.join (by decide) ?_)
    simp only [List.mem_map, forall_exists_index, and_imp, forall_apply_eq_imp_iff₂]
    exact fun w hw => (h w hw).cql_closed

lemma IndexTarget.VerbatimClosed.cql_closed {t : IndexTarget} (h : t.VerbatimClosed) :
    t.cql.Closed := by
  cases t with
  | hole => exact .nil
  | column kind name =>
    have hname : name.cql.Closed := Identifier.VerbatimClosed.cql_closed h
    cases kind with
    | values => exact hname
    | keys | entries | full =>
      refine (Text.Closed.append ?_ hname).append ?_ <;> decide

/-- An operand is closed at every depth. The induction is on the operand. -/
lemma Operand.VerbatimClosed.cql_closed {o : Operand} (h : o.VerbatimClosed) :
    o.cql.Closed := by
  induction h with
  | hole => exact .nil
  | string value => exact quoteLiteral_closed value
  | const htext => exact htext
  | @param name hname =>
    rw [Operand.cql]
    split_ifs
    · decide
    · exact Text.Closed.append (by decide) hname
  | column hname => exact hname.cql_closed
  | call hname _ ih =>
    rw [Operand.cql, cqlList_eq_map]
    refine ((hname.append (by decide)).append (.join (by decide) ?_)).append (by decide)
    simpa using ih
  | tuple _ ih =>
    rw [Operand.cql, cqlList_eq_map]
    refine (Text.Closed.append (by decide) (.join (by decide) ?_)).append (by decide)
    simpa using ih
  | @collection kind elements _ _ ihkey ihvalue =>
    have helements : ∀ t ∈ cqlElements kind elements, t.Closed := by
      rw [cqlElements_eq_map]
      intro t ht
      obtain ⟨e, he, rfl⟩ := List.mem_map.mp ht
      unfold elementCql
      split_ifs
      · exact ((ihkey e he).append (by decide)).append (ihvalue e he)
      · exact ihvalue e he
    have hbody : Text.Closed (Text.join ", " (cqlElements kind elements)) :=
      .join (by decide) helements
    rw [Operand.cql, collectionCql]
    split_ifs
    · exact (Text.Closed.append (by decide) hbody).append (by decide)
    · exact (Text.Closed.append (by decide) hbody).append (by decide)
  | null => decide

lemma Batch.cql_closed (b : Batch) : b.cql.Closed := by
  unfold Batch.cql
  refine Text.Closed.append ?_ ?_
  · cases b.kind with
    | logged | unlogged | counter => decide
    | other code => exact (by decide : Text.Closed ("BEGIN " ++ Text.ofString "" ++ "BATCH "))
  · cases b.timestamp with
    | none => decide
    | some t => exact (Text.Closed.append (by decide) (.ofNat _)).append (by decide)

lemma Usage.cql_closed (u : Usage) : u.cql.Closed := by
  have hparts : ∀ t ∈ u.parts, t.Closed := by
    intro t ht
    unfold Usage.parts at ht
    rcases List.mem_append.mp ht with ht | ht
    all_goals
      split at ht
      · rw [List.mem_singleton.mp ht]
        exact Text.Closed.append (by decide) (.ofNat _)
      · simp at ht
  unfold Usage.cql Usage.clause
  split_ifs
  · decide
  · refine Text.Closed.append (by decide) (Text.Closed.append (by decide) ?_)
    exact .join (by decide) hparts

lemma InsertValues.VerbatimClosed.cql_closed {v : InsertValues} (h : v.VerbatimClosed) :
    v.cql.Closed := by
  cases v with
  | hole => exact .nil
  | operands values =>
    rw [InsertValues.cql, Operand.cqlList_eq_map]
    refine (Text.Closed.append (by decide) (.join (by decide) ?_)).append (by decide)
    simpa using fun v hv => (h v hv).cql_closed
  | json text => exact Text.Closed.append (by decide) h

/-- The text of a statement has no separator outside quotes. -/
lemma Statement.VerbatimClosed.cql_closed {s : Statement} (h : s.VerbatimClosed) :
    s.cql.Closed := by
  cases s with
  | alterTable a =>
    obtain ⟨htable, halteration⟩ := h
    exact ((Text.Closed.append (by decide) htable.cql_closed).append (by decide)).append
      halteration.cql_closed
  | createIndex c =>
    obtain ⟨hname, htable, htarget⟩ := h
    simp only [Statement.cql, CreateIndex.cql]
    refine ((((((Text.Closed.append (by decide) ?guard).append ?index).append (by decide)).append
      htable.cql_closed).append (by decide)).append htarget.cql_closed).append (by decide)
    case guard => split_ifs <;> decide
    case index =>
      cases hn : c.name with
      | none => decide
      | some name => exact (hname name (by simp [hn])).cql_closed.append (by decide)
  | insert i =>
    obtain ⟨htable, hcolumns, hvalues⟩ := h
    simp only [Statement.cql, Insert.cql]
    refine (((((((Text.Closed.append ?batch (by decide)).append htable.cql_closed).append
      (by decide)).append ?names).append (by decide)).append hvalues.cql_closed).append
        ?guard).append ?usage
    case batch =>
      cases i.batch with
      | none => decide
      | some b => exact b.cql_closed
    case names =>
      refine .join (by decide) ?_
      simpa using fun c hc => (hcolumns c hc).cql_closed
    case guard => split_ifs <;> decide
    case usage =>
      cases i.usage with
      | none => decide
      | some u => exact u.cql_closed

/-! ### Cutting a script -/

namespace Statement

/-- The texts of the statements, each after the first behind the newline in front of it. -/
def lines : List Statement → List Text
  | [] => []
  | s :: rest => s.cql :: rest.map fun t => "\n" ++ t.cql

/-- A closed text in front of a separator is cut out as one part. -/
lemma cut_closed_separator {t : Text} (h : t.Closed) (u : Text) :
    Region.plain.cut (t ++ ";" ++ u)
      = (t :: (Region.plain.cut u).1, (Region.plain.cut u).2) := by
  have hsep : Region.plain.cut (";" ++ u)
      = ([] :: (Region.plain.cut u).1, (Region.plain.cut u).2) := rfl
  rw [List.append_assoc, h.cut_append, hsep, Region.extend, List.append_nil]

/-- A script is cut at the ends of its statements. -/
lemma cut_lines {statements : List Statement} (h : ∀ s ∈ statements, s.VerbatimClosed) :
    Region.plain.cut (statements.flatMap fun s => "\n" ++ (s.cql ++ ";"))
      = (statements.map fun s => Text.ofString "\n" ++ s.cql, []) := by
  induction statements with
  | nil => rfl
  | cons s rest ih =>
    have hline : Text.Closed ("\n" ++ s.cql) :=
      Text.Closed.append (by decide) (h s (by simp)).cql_closed
    rw [List.flatMap_cons, ← List.append_assoc, cut_closed_separator hline,
      ih fun t ht => h t (by simp [ht])]
    rfl

/-- Cutting a script at its separators gives back the texts of its statements, and nothing is left
after the last separator. -/
theorem cut_script {statements : List Statement} (h : ∀ s ∈ statements, s.VerbatimClosed) :
    Region.plain.cut (script statements) = (lines statements, []) := by
  cases statements with
  | nil => rfl
  | cons s rest =>
    have hcut := cut_lines fun t ht => h t (List.mem_cons_of_mem s ht)
    rw [script, List.map_cons, Text.join_cons, List.flatMap_map,
      cut_closed_separator (h s (by simp)).cql_closed, hcut]
    rfl

/-- A table name with a quote and a semicolon in it and a nested literal with both kinds of quotes
do not move the boundary. -/
theorem cut_script_nested_quotes :
    Region.plain.cut (script
      [.insert { table := ⟨none, ⟨"a\";b", true⟩⟩, columns := [⟨"c", false⟩]
                 values := .operands [.tuple [.call "f" [.string "it's;\""], .const "1.5"]] },
       .createIndex { table := .qualified "k" "t", target := .column .keys ⟨"d';", true⟩ }])
      = ([Text.ofString "INSERT INTO \"a\"\";b\" (c) VALUES ((f('it''s;\"'), 1.5))",
          Text.ofString "\nCREATE INDEX ON k.t( KEYS( \"d';\" ) )"], []) := by
  refine (cut_script ?_).trans rfl
  simp only [List.mem_cons, List.not_mem_nil, or_false, forall_eq_or_imp, forall_eq]
  refine ⟨⟨⟨by simp, by simp [Identifier.VerbatimClosed]⟩, ?_, ?_⟩,
    ⟨by simp, ⟨?_, ?_⟩, by simp [IndexTarget.VerbatimClosed, Identifier.VerbatimClosed]⟩⟩
  · simp only [List.mem_singleton, forall_eq]
    exact fun _ => by decide
  · simp only [InsertValues.VerbatimClosed, List.mem_singleton, forall_eq]
    refine .tuple ?_
    simp only [List.mem_cons, List.not_mem_nil, or_false, forall_eq_or_imp, forall_eq]
    exact ⟨.call (by decide) (by simpa using .string _), .const (by decide)⟩
  · simp only [TableName.qualified, Option.mem_some_iff, forall_eq']
    exact fun _ => by decide
  · exact fun _ => by decide

end Statement

end CqlWriter
