import Mathlib
import CqlWriter.Statement.Basic
import CqlWriter.Proofs.Text

/-!
# The names that a statement writes

The text of a statement is made of the names in it and of other texts around them, which stay the
same when the names are changed. So it makes sense to speak of the names that a statement writes,
one for each place, in their order.
-/

namespace CqlWriter

/-! ### Texts with names in them -/

/-- A piece of a text: a name that is written there, or a text that does not depend on names. -/
inductive Piece where
  | fixed (t : Text)
  | name (i : Identifier)

namespace Piece

/-- The text of a piece in which each name is replaced as `f` tells. -/
def text (f : Identifier → Identifier) : Piece → Text
  | fixed t => t
  | name i => (f i).cql

def name? : Piece → Option Identifier
  | fixed _ => none
  | name i => some i

end Piece

/-- A text that depends on a renaming writes the names: it is a row of pieces, the names among them
are the given ones in this order, and a renaming changes nothing but these. -/
def Writes (text : (Identifier → Identifier) → Text) (names : List Identifier) : Prop :=
  ∃ pieces : List Piece, pieces.filterMap Piece.name? = names ∧
    ∀ f, text f = pieces.flatMap (Piece.text f)

namespace Writes

variable {t u : (Identifier → Identifier) → Text} {is js : List Identifier}

lemma fixed (t : Text) : Writes (fun _ => t) [] :=
  ⟨[.fixed t], rfl, fun f => by simp [Piece.text]⟩

lemma name (i : Identifier) : Writes (fun f => (f i).cql) [i] :=
  ⟨[.name i], rfl, fun f => by simp [Piece.text]⟩

/-- Texts side by side write their names one after the other. -/
lemma append (ht : Writes t is) (hu : Writes u js) : Writes (fun f => t f ++ u f) (is ++ js) := by
  obtain ⟨ps, rfl, hps⟩ := ht
  obtain ⟨qs, rfl, hqs⟩ := hu
  refine ⟨ps ++ qs, List.filterMap_append, ?_⟩
  intro f
  simp only [hps, hqs, List.flatMap_append]

lemma fixed_append (t : Text) (hu : Writes u js) : Writes (fun f => t ++ u f) js :=
  (fixed t).append hu

lemma append_fixed (ht : Writes t is) (u : Text) : Writes (fun f => t f ++ u) is := by
  simpa using ht.append (fixed u)

/-- A joined list writes the names of its items one after another. -/
lemma join {α : Type} (sep : Text) {g : (Identifier → Identifier) → α → α} {cql : α → Text}
    {names : α → List Identifier} {xs : List α}
    (h : ∀ x ∈ xs, Writes (fun f => cql (g f x)) (names x)) :
    Writes (fun f => Text.join sep ((xs.map (g f)).map cql)) (xs.flatMap names) := by
  cases xs with
  | nil => exact fixed []
  | cons x xs =>
    simp only [List.map_cons, Text.join_cons, List.flatMap_cons, List.flatMap_map]
    apply append (h x (by simp))
    have hrest : ∀ y ∈ xs, Writes (fun f => cql (g f y)) (names y) := by
      intro y hy
      exact h y (by simp [hy])
    clear h
    induction xs with
    | nil => exact fixed []
    | cons y ys ih =>
      simp only [List.flatMap_cons]
      apply append (fixed_append sep (hrest y (by simp)))
      apply ih
      intro z hz
      exact hrest z (by simp [hz])

/-- If every name is made `n` bytes long, each of them makes the text `n` bytes longer. -/
lemma length_flatMap_text (n : Nat) (pieces : List Piece) :
    (pieces.flatMap (Piece.text fun _ => ⟨List.replicate n 0x78, false⟩)).length
      = (pieces.flatMap (Piece.text fun _ => ⟨[], false⟩)).length
        + n * (pieces.filterMap Piece.name?).length := by
  induction pieces with
  | nil => simp
  | cons p ps ih =>
    cases p with
    | fixed t => simp [Piece.text, Piece.name?, List.filterMap_cons, ih, Nat.add_assoc]
    | name i =>
      simp only [List.flatMap_cons, Piece.text, Identifier.cql, List.filterMap_cons, Piece.name?,
        List.length_append, List.length_cons, ih]
      simp
      ring

/-- A text cannot be seen to write more names or fewer. -/
lemma length_unique (h : Writes t is) (h' : Writes t js) : is.length = js.length := by
  obtain ⟨ps, rfl, hps⟩ := h
  obtain ⟨qs, rfl, hqs⟩ := h'
  have hlong := length_flatMap_text 1 ps
  have hlong' := length_flatMap_text 1 qs
  rw [← hps, ← hps] at hlong
  rw [← hqs, ← hqs] at hlong'
  omega

end Writes

/-! ### Induction on operands -/

/-- What holds of an operand if it holds of its parts holds of every operand. -/
@[elab_as_elim]
theorem Operand.inductionOnParts {motive : Operand → Prop} (hole : motive .hole)
    (const : ∀ text, motive (.const text)) (param : ∀ name, motive (.param name))
    (column : ∀ name, motive (.column name))
    (call : ∀ name args, (∀ a ∈ args, motive a) → motive (.call name args))
    (tuple : ∀ elements, (∀ e ∈ elements, motive e) → motive (.tuple elements))
    (collection : ∀ kind elements, (∀ e ∈ elements, motive e.1 ∧ motive e.2) →
      motive (.collection kind elements))
    (null : motive .null) (o : Operand) : motive o := by
  refine @Operand.rec motive (fun os => ∀ o ∈ os, motive o)
    (fun es => ∀ e ∈ es, motive e.1 ∧ motive e.2) (fun e => motive e.1 ∧ motive e.2)
    hole const param column call tuple collection null ?_ ?_ ?_ ?_ ?_ o
  · simp
  · intro o os ho hos
    exact List.forall_mem_cons.mpr ⟨ho, hos⟩
  · simp
  · intro e es he hes
    exact List.forall_mem_cons.mpr ⟨he, hes⟩
  · intro k v hk hv
    exact ⟨hk, hv⟩

/-! ### Renaming -/

/-- The table name with each name replaced as `f` tells. -/
def TableName.mapNames (f : Identifier → Identifier) (t : TableName) : TableName :=
  ⟨t.keyspace.map f, f t.name⟩

def ColumnDefinition.mapNames (f : Identifier → Identifier) (c : ColumnDefinition) :
    ColumnDefinition :=
  { c with name := f c.name }

def OrderColumn.mapNames (f : Identifier → Identifier) (c : OrderColumn) : OrderColumn :=
  { c with name := f c.name }

def WithItem.mapNames (f : Identifier → Identifier) : WithItem → WithItem
  | .clusteringOrder columns => .clusteringOrder (columns.map (OrderColumn.mapNames f))
  | item => item

def Alteration.mapNames (f : Identifier → Identifier) : Alteration → Alteration
  | .add columns => .add (columns.map (ColumnDefinition.mapNames f))
  | .drop columns => .drop (columns.map f)
  | .rename source target => .rename (f source) (f target)
  | .options items => .options (items.map (WithItem.mapNames f))
  | alteration => alteration

def IndexTarget.mapNames (f : Identifier → Identifier) : IndexTarget → IndexTarget
  | .hole => .hole
  | .column kind name => .column kind (f name)

namespace Operand

mutual

/-- The operand with each name in it replaced as `f` tells. -/
def mapNames (f : Identifier → Identifier) : Operand → Operand
  | column name => column (f name)
  | call name args => call name (mapNamesList f args)
  | tuple elements => tuple (mapNamesList f elements)
  | collection kind elements => collection kind (mapNamesElements f elements)
  | o => o

def mapNamesList (f : Identifier → Identifier) : List Operand → List Operand
  | [] => []
  | o :: os => mapNames f o :: mapNamesList f os

def mapNamesElements (f : Identifier → Identifier) :
    List (Operand × Operand) → List (Operand × Operand)
  | [] => []
  | (k, v) :: es => (mapNames f k, mapNames f v) :: mapNamesElements f es

end

lemma mapNamesList_eq_map (f : Identifier → Identifier) (os : List Operand) :
    mapNamesList f os = os.map (mapNames f) := by
  induction os with
  | nil => rfl
  | cons o os ih => rw [mapNamesList, ih, List.map_cons]

lemma mapNamesElements_eq_map (f : Identifier → Identifier) (es : List (Operand × Operand)) :
    mapNamesElements f es = es.map fun e => (e.1.mapNames f, e.2.mapNames f) := by
  induction es with
  | nil => rfl
  | cons e es ih => rw [mapNamesElements, ih, List.map_cons]

@[simp] lemma isHole_mapNames (f : Identifier → Identifier) (o : Operand) :
    (o.mapNames f).isHole = o.isHole := by
  cases o <;> rfl

/-- Replacing every name by itself changes nothing. -/
lemma mapNames_id (o : Operand) : o.mapNames id = o := by
  induction o using Operand.inductionOnParts with
  | hole | const _ | param _ | column _ | null => rfl
  | call name args ih | tuple args ih =>
    rw [mapNames, mapNamesList_eq_map, List.map_congr_left ih, List.map_id']
  | collection kind elements ih =>
    have hparts : elements.map (fun e => (e.1.mapNames id, e.2.mapNames id)) = elements.map id := by
      apply List.map_congr_left
      intro e he
      rw [(ih e he).1, (ih e he).2]
      rfl
    rw [mapNames, mapNamesElements_eq_map, hparts, List.map_id]

end Operand

def InsertValues.mapNames (f : Identifier → Identifier) : InsertValues → InsertValues
  | .operands values => .operands (values.map (Operand.mapNames f))
  | values => values

/-- The statement with each name in it replaced as `f` tells. -/
def Statement.mapNames (f : Identifier → Identifier) : Statement → Statement
  | .alterTable a => .alterTable ⟨a.table.mapNames f, a.alteration.mapNames f⟩
  | .createIndex c =>
    .createIndex { c with
      name := c.name.map f
      table := c.table.mapNames f
      target := c.target.mapNames f }
  | .insert i =>
    .insert { i with
      table := i.table.mapNames f
      columns := i.columns.map f
      values := i.values.mapNames f }

/-! ### The names of each part, in the order of its text -/

/-- The names that a table name writes. -/
def TableName.written (t : TableName) : List Identifier :=
  t.keyspace.toList ++ [t.name]

/-- The columns of a clustering order. -/
def WithItem.orderColumns : WithItem → List Identifier
  | .clusteringOrder columns => columns.map OrderColumn.name
  | _ => []

def Alteration.orderColumns : Alteration → List Identifier
  | .options items => items.flatMap WithItem.orderColumns
  | _ => []

/-- The names that an alteration writes. -/
def Alteration.written : Alteration → List Identifier
  | .add columns => columns.map ColumnDefinition.name
  | .drop columns => columns
  | .rename source target => [source, target]
  | .options items => items.flatMap WithItem.orderColumns
  | _ => []

namespace Operand

mutual

/-- The names that an operand writes. The key of an element is written in a map only. -/
def written : Operand → List Identifier
  | column name => [name]
  | call _ args => writtenList args
  | tuple elements => writtenList elements
  | collection kind elements => writtenElements kind elements
  | _ => []

def writtenList : List Operand → List Identifier
  | [] => []
  | o :: os => written o ++ writtenList os

def writtenElements (kind : CollectionKind) : List (Operand × Operand) → List Identifier
  | [] => []
  | (k, v) :: es => (if kind = .map then written k else []) ++ written v ++ writtenElements kind es

end

/-- The names of a list are those of its operands, in order. -/
lemma writtenList_eq_flatMap (os : List Operand) : writtenList os = os.flatMap written := by
  induction os with
  | nil => rfl
  | cons o os ih => rw [writtenList, ih, List.flatMap_cons]

lemma writtenElements_eq_flatMap (kind : CollectionKind) (es : List (Operand × Operand)) :
    writtenElements kind es
      = es.flatMap fun e => (if kind = .map then e.1.written else []) ++ e.2.written := by
  induction es with
  | nil => rfl
  | cons e es ih => rw [writtenElements, ih, List.flatMap_cons]

end Operand

def InsertValues.written : InsertValues → List Identifier
  | .operands values => values.flatMap Operand.written
  | _ => []

/-- The names that a statement writes. -/
def Statement.written : Statement → List Identifier
  | .alterTable a => a.table.written ++ a.alteration.written
  | .createIndex c => c.name.toList ++ c.table.written ++ c.target.column?.toList
  | .insert i => i.table.written ++ i.columns ++ i.values.written

def Statement.orderColumns : Statement → List Identifier
  | .alterTable a => a.alteration.orderColumns
  | .createIndex _ | .insert _ => []

/-! ### The text of each part writes its names -/

lemma TableName.writes (t : TableName) : Writes (fun f => (t.mapNames f).cql) t.written := by
  obtain ⟨keyspace, name⟩ := t
  cases keyspace with
  | none => exact .name name
  | some ks => exact ((Writes.name ks).append_fixed ".").append (.name name)

lemma ColumnDefinition.writes (c : ColumnDefinition) :
    Writes (fun f => (c.mapNames f).cql) [c.name] := by
  have htype := ((Writes.name c.name).append_fixed " ").append_fixed c.type.cql
  exact (htype.append_fixed (Text.ofString (if c.isStatic then " STATIC" else ""))).append_fixed
    (Text.ofString (if c.primaryKey then " PRIMARY KEY" else ""))

lemma OrderColumn.writes (c : OrderColumn) : Writes (fun f => (c.mapNames f).cql) [c.name] :=
  (Writes.name c.name).append_fixed (Text.ofString (if c.descending then " DESC" else " ASC"))

/-- A list of names with separators writes these names. -/
lemma Writes.join_names (sep : Text) (is : List Identifier) :
    Writes (fun f => Text.join sep ((is.map f).map Identifier.cql)) is := by
  have h := Writes.join sep fun i (_ : i ∈ is) => Writes.name i
  rwa [List.flatMap_singleton'] at h

/-- A table option writes the columns of its clustering order. -/
lemma WithItem.writes (w : WithItem) : Writes (fun f => (w.mapNames f).cql) w.orderColumns := by
  cases w with
  | clusteringOrder columns =>
    have h := Writes.join ", " fun c (_ : c ∈ columns) => OrderColumn.writes c
    rw [← List.map_eq_flatMap] at h
    exact (h.fixed_append "CLUSTERING ORDER BY (").append_fixed ")"
  | hole | property _ _ | id _ | compactStorage => exact .fixed _

/-- An alteration writes its names in the order of its text. -/
lemma Alteration.writes (a : Alteration) : Writes (fun f => (a.mapNames f).cql) a.written := by
  cases a with
  | add columns =>
    have h := Writes.join ", " fun c (_ : c ∈ columns) => ColumnDefinition.writes c
    rw [← List.map_eq_flatMap] at h
    exact h.fixed_append "ADD "
  | drop columns => exact (Writes.join_names ", " columns).fixed_append "DROP "
  | rename source target =>
    exact (((Writes.name source).fixed_append "RENAME ").append_fixed " TO ").append (.name target)
  | options items =>
    have h := Writes.join " AND " fun w (_ : w ∈ items) => WithItem.writes w
    exact h.fixed_append "WITH "
  | hole | dropCompactStorage => exact .fixed _

lemma IndexTarget.writes (t : IndexTarget) :
    Writes (fun f => (t.mapNames f).cql) t.column?.toList := by
  cases t with
  | hole => exact .fixed []
  | column kind name =>
    cases kind with
    | values => exact .name name
    | keys | entries | full => exact ((Writes.name name).fixed_append _).append_fixed _

namespace Operand

/-- The text of an element of a collection writes the key in a map only. -/
lemma writes_element (kind : CollectionKind) {e : Operand × Operand}
    (hkey : Writes (fun f => (e.1.mapNames f).cql) e.1.written)
    (hvalue : Writes (fun f => (e.2.mapNames f).cql) e.2.written) :
    Writes (fun f => elementCql kind (e.1.mapNames f).isHole (e.1.mapNames f).cql
        (e.2.mapNames f).cql)
      ((if kind = .map then e.1.written else []) ++ e.2.written) := by
  unfold elementCql
  by_cases hmap : kind = .map
  · cases hhole : e.1.isHole with
    | false => simpa [hmap, hhole] using (hkey.append_fixed ": ").append hvalue
    | true =>
      -- a key that is absent has no names
      have hnone : e.1.written = [] := by
        cases hk : e.1 with
        | hole | const _ | param _ | null => rfl
        | column _ | call _ _ | tuple _ | collection _ _ => simp [hk, isHole] at hhole
      simpa [hmap, hhole, hnone] using hvalue
  · simpa [hmap] using hvalue

/-- An operand writes its names at every depth. The induction is on the operand. -/
lemma writes (o : Operand) : Writes (fun f => (o.mapNames f).cql) o.written := by
  induction o using Operand.inductionOnParts with
  | hole | const _ | param _ | null => exact .fixed _
  | column name => exact .name name
  | call name args ih =>
    simp only [mapNames, cql, written, cqlList_eq_map, mapNamesList_eq_map,
      writtenList_eq_flatMap]
    exact ((Writes.join ", " ih).fixed_append (name ++ "(")).append_fixed ")"
  | tuple elements ih =>
    simp only [mapNames, cql, written, cqlList_eq_map, mapNamesList_eq_map,
      writtenList_eq_flatMap]
    exact ((Writes.join ", " ih).fixed_append "(").append_fixed ")"
  | collection kind elements ih =>
    have h : Writes
        (fun f => Text.join ", " ((elements.map fun e => (e.1.mapNames f, e.2.mapNames f)).map
          fun e => elementCql kind e.1.isHole e.1.cql e.2.cql))
        (elements.flatMap fun e => (if kind = .map then e.1.written else []) ++ e.2.written) :=
      Writes.join ", " fun e he => writes_element kind (ih e he).1 (ih e he).2
    simp only [mapNames, cql, written, cqlElements_eq_map, mapNamesElements_eq_map,
      writtenElements_eq_flatMap, collectionCql]
    by_cases hlist : kind = .list
    · simp only [if_pos hlist]
      exact (h.fixed_append "[").append_fixed "]"
    · simp only [if_neg hlist]
      exact (h.fixed_append "\x7b").append_fixed "\x7d"

end Operand

lemma InsertValues.writes (v : InsertValues) : Writes (fun f => (v.mapNames f).cql) v.written := by
  cases v with
  | operands values =>
    simp only [mapNames, cql, written, Operand.cqlList_eq_map]
    exact ((Writes.join ", " fun o _ => o.writes).fixed_append "VALUES (").append_fixed ")"
  | hole | json _ => exact .fixed _

namespace Statement

lemma mapNames_id (s : Statement) : s.mapNames id = s := by
  have htable : ∀ t : TableName, t.mapNames id = t := by
    intro t
    simp [TableName.mapNames]
  cases s with
  | alterTable a =>
    have halteration : a.alteration.mapNames id = a.alteration := by
      have horder : OrderColumn.mapNames id = id := rfl
      have hcolumn : ColumnDefinition.mapNames id = id := rfl
      have hitem : WithItem.mapNames id = id := by
        funext w
        cases w <;> simp [WithItem.mapNames, horder]
      cases a.alteration <;> simp [Alteration.mapNames, hcolumn, hitem]
    simp [mapNames, htable, halteration]
  | createIndex c =>
    have htarget : c.target.mapNames id = c.target := by
      cases c.target <;> rfl
    simp [mapNames, htable, htarget]
  | insert i =>
    have hvalues : i.values.mapNames id = i.values := by
      cases i.values with
      | operands values =>
        rw [InsertValues.mapNames, List.map_congr_left fun o _ => o.mapNames_id, List.map_id']
      | hole | json _ => rfl
    simp [mapNames, htable, hvalues]

/-- A statement writes its names in the order of its text. -/
lemma writes (s : Statement) : Writes (fun f => (s.mapNames f).cql) s.written := by
  cases s with
  | alterTable a =>
    exact ((a.table.writes.fixed_append "ALTER TABLE ").append_fixed " ").append
      a.alteration.writes
  | createIndex c =>
    obtain ⟨ifNotExists, name, table, target⟩ := c
    have hopen := Writes.fixed
      ("CREATE INDEX " ++ Text.ofString (if ifNotExists then "IF NOT EXISTS " else ""))
    cases name with
    | none =>
      exact ((((hopen.append_fixed "").append_fixed "ON ").append table.writes).append_fixed
        "( " |>.append target.writes).append_fixed " )"
    | some name =>
      have hname := hopen.append ((Writes.name name).append_fixed " ")
      exact (((hname.append_fixed "ON ").append table.writes).append_fixed
        "( " |>.append target.writes).append_fixed " )"
  | insert i =>
    obtain ⟨batch, table, columns, values, usage, ifNotExists⟩ := i
    have hnames (opening : Text) := (((Writes.fixed (opening ++ "INSERT INTO ")).append
      table.writes).append_fixed " (").append (Writes.join_names ", " columns)
    have hguard (opening : Text) := (((hnames opening).append_fixed ") ").append
      values.writes).append_fixed (Text.ofString (if ifNotExists then " IF NOT EXISTS" else ""))
    simp only [mapNames, cql, Insert.cql]
    exact (hguard _).append_fixed _

/-- The text of the statement is made of the given names, in this order, and of other texts around
them. These stay the same when the names in the statement are changed. -/
def Shows (s : Statement) (names : List Identifier) : Prop :=
  ∃ pieces : List Piece, pieces.filterMap Piece.name? = names ∧
    s.cql = pieces.flatMap (Piece.text id) ∧ ∀ f, (s.mapNames f).cql = pieces.flatMap (Piece.text f)

/-- What a statement shows are the names that it writes. -/
lemma shows_iff {s : Statement} {names : List Identifier} :
    s.Shows names ↔ Writes (fun f => (s.mapNames f).cql) names := by
  constructor
  · rintro ⟨pieces, hnames, -, htext⟩
    exact ⟨pieces, hnames, htext⟩
  · rintro ⟨pieces, hnames, htext⟩
    refine ⟨pieces, hnames, ?_, htext⟩
    simpa [mapNames_id] using htext id

end Statement

end CqlWriter
