import Mathlib
import CqlWriter.Statement.Node
import CqlWriter.Proofs.WrittenNames

/-!
# Searching a statement for identifiers

The nodes of a statement are its parts as a walk meets them. A search for identifiers meets the
names that the statement writes in their order, up to the columns of a clustering order: these are
written and have no nodes of their own. Keys outside of maps are met and not written.
-/

namespace CqlWriter

namespace Statement.Node

/-- The identifiers that a search finds in one tree after another. -/
def identifiersIn (ts : List (Tree Statement.Node)) : List Statement.Node :=
  Tree.findAll (fun n => n.kind = .identifier) ts

@[simp] lemma identifiersIn_nil : identifiersIn [] = [] := rfl

@[simp] lemma identifiersIn_tree (i : Identifier) (ts : List (Tree Statement.Node)) :
    identifiersIn (i.tree :: ts) = identifier i :: identifiersIn ts := rfl

@[simp] lemma identifiersIn_append (ts us : List (Tree Statement.Node)) :
    identifiersIn (ts ++ us) = identifiersIn ts ++ identifiersIn us := by
  induction ts with
  | nil => rfl
  | cons t ts ih =>
    simp only [identifiersIn, List.cons_append, Tree.findAll, List.append_assoc] at ih ⊢
    rw [ih]

/-- A search goes on below every node that is no identifier. -/
lemma identifiersIn_node {n : Statement.Node} (h : n.kind ≠ .identifier)
    (children ts : List (Tree Statement.Node)) :
    identifiersIn (.node n children :: ts) = identifiersIn children ++ identifiersIn ts := by
  simp [identifiersIn, Tree.findAll, Tree.find, h]

lemma identifiersIn_flatMap {α : Type} (g : α → List (Tree Statement.Node)) (xs : List α) :
    identifiersIn (xs.flatMap g) = xs.flatMap fun x => identifiersIn (g x) := by
  induction xs with
  | nil => rfl
  | cons x xs ih => simp [ih]

lemma identifiersIn_names (is : List Identifier) :
    identifiersIn (is.map Identifier.tree) = is.map identifier := by
  induction is with
  | nil => rfl
  | cons i is ih => simp [ih]

/-- A table name is found with its keyspace in front of it. -/
@[simp] lemma identifiersIn_table (t : TableName) (ts : List (Tree Statement.Node)) :
    identifiersIn (t.tree :: ts) = t.written.map identifier ++ identifiersIn ts := by
  rw [TableName.tree, identifiersIn_node (by simp [kind])]
  cases hk : t.keyspace <;> simp [TableName.written, hk]

/-- An alteration writes the names that are found in it, and the columns of clustering orders. -/
lemma identifiersIn_alteration (a : Alteration) :
    identifiersIn a.forest ++ a.orderColumns.map identifier = a.written.map identifier := by
  cases a with
  | add columns =>
    have hcolumn : ∀ c : ColumnDefinition, identifiersIn [c.tree] = [identifier c.name] := by
      intro c
      rfl
    rw [Alteration.forest, identifiersIn_node (by simp [kind]), List.map_eq_flatMap,
      identifiersIn_flatMap]
    simp [Alteration.orderColumns, Alteration.written, hcolumn, ← List.map_eq_flatMap]
  | drop columns =>
    rw [Alteration.forest, identifiersIn_node (by simp [kind]), identifiersIn_names]
    simp [Alteration.orderColumns, Alteration.written]
  | options items =>
    have hitem : ∀ w : WithItem, identifiersIn w.forest = [] := by
      intro w
      cases w <;> rfl
    rw [Alteration.forest, identifiersIn_node (by simp [kind]), identifiersIn_flatMap]
    simp [Alteration.orderColumns, Alteration.written, hitem]
  | hole | dropCompactStorage | rename _ _ => rfl

/-- The indexed column is found, if there is one. -/
lemma identifiersIn_indexTarget (t : IndexTarget) :
    identifiersIn t.forest = t.column?.toList.map identifier := by
  cases t <;> rfl

end Statement.Node

namespace Operand

open Statement.Node

lemma forestList_eq_flatMap (os : List Operand) : forestList os = os.flatMap forest := by
  induction os with
  | nil => rfl
  | cons o os ih => rw [forestList, ih, List.flatMap_cons]

/-- The trees of the elements are those of keys and values in turn. -/
lemma forestElements_eq_flatMap (es : List (Operand × Operand)) :
    forestElements es = es.flatMap fun e => e.1.forest ++ e.2.forest := by
  induction es with
  | nil => rfl
  | cons e es ih => rw [forestElements, ih, List.flatMap_cons]

/-- All names that an operand writes are found in it, in the same order. -/
lemma written_sublist (o : Operand) :
    (o.written.map identifier).Sublist (identifiersIn o.forest) := by
  induction o using Operand.inductionOnParts with
  | hole | const _ | param _ | null | column _ => exact List.Sublist.refl _
  | call name args ih | tuple args ih =>
    rw [forest, identifiersIn_node (by simp [kind]), forestList_eq_flatMap, identifiersIn_flatMap,
      written, writtenList_eq_flatMap, List.map_flatMap]
    simpa using List.Sublist.flatMap_right args ih
  | collection kind elements ih =>
    rw [forest, identifiersIn_node (by simp [Statement.Node.kind]), forestElements_eq_flatMap,
      identifiersIn_flatMap, written, writtenElements_eq_flatMap, List.map_flatMap]
    rw [identifiersIn_nil, List.append_nil]
    apply List.Sublist.flatMap_right
    intro e he
    rw [List.map_append, identifiersIn_append]
    refine List.Sublist.append ?_ (ih e he).2
    split_ifs
    · exact (ih e he).1
    · exact List.nil_sublist _

/-- Only the elements of maps have keys, at any depth. -/
inductive KeysInMaps : Operand → Prop
  | hole : KeysInMaps .hole
  | const (text : Text) : KeysInMaps (.const text)
  | param (name : Text) : KeysInMaps (.param name)
  | column (name : Identifier) : KeysInMaps (.column name)
  | null : KeysInMaps .null
  | call {name : Text} {args : List Operand} :
      (∀ a ∈ args, KeysInMaps a) → KeysInMaps (.call name args)
  | tuple {elements : List Operand} : (∀ e ∈ elements, KeysInMaps e) → KeysInMaps (.tuple elements)
  | keyless {kind : CollectionKind} {elements : List (Operand × Operand)} :
      (∀ e ∈ elements, e.1 = .hole) → (∀ e ∈ elements, KeysInMaps e.2) →
        KeysInMaps (.collection kind elements)
  | map {elements : List (Operand × Operand)} :
      (∀ e ∈ elements, KeysInMaps e.1) → (∀ e ∈ elements, KeysInMaps e.2) →
        KeysInMaps (.collection .map elements)

/-- If only maps have keys, nothing else is found in an operand than the names that it writes. -/
lemma KeysInMaps.identifiersIn_forest {o : Operand} (h : o.KeysInMaps) :
    identifiersIn o.forest = o.written.map identifier := by
  induction h with
  | hole | const _ | param _ | null | column _ => rfl
  | call _ ih | tuple _ ih =>
    rw [forest, identifiersIn_node (by simp [kind]), forestList_eq_flatMap, identifiersIn_flatMap,
      written, writtenList_eq_flatMap, List.map_flatMap, List.flatMap_congr ih, identifiersIn_nil,
      List.append_nil]
  | @keyless kind elements hkeys _ ih =>
    rw [forest, identifiersIn_node (by simp [Statement.Node.kind]), forestElements_eq_flatMap,
      identifiersIn_flatMap, written, writtenElements_eq_flatMap, List.map_flatMap]
    rw [identifiersIn_nil, List.append_nil]
    apply List.flatMap_congr
    intro e he
    simp [hkeys e he, ih e he, forest, written]
  | @map elements _ _ ihkey ihvalue =>
    rw [forest, identifiersIn_node (by simp [Statement.Node.kind]), forestElements_eq_flatMap,
      identifiersIn_flatMap, written, writtenElements_eq_flatMap, List.map_flatMap]
    rw [identifiersIn_nil, List.append_nil]
    apply List.flatMap_congr
    intro e he
    simp [ihkey e he, ihvalue e he]

end Operand

namespace InsertValues

open Statement.Node

def operandList : InsertValues → List Operand
  | operands values => values
  | _ => []

/-- A search finds every identifier that is written in the row, in order. -/
lemma written_sublist (v : InsertValues) :
    (v.written.map identifier).Sublist (identifiersIn v.forest) := by
  cases v with
  | operands values =>
    rw [forest, identifiersIn_node (by simp [kind]), Operand.forestList_eq_flatMap,
      identifiersIn_flatMap, written, List.map_flatMap]
    simpa using List.Sublist.flatMap_right values fun o _ => o.written_sublist
  | hole | json _ => exact List.Sublist.refl _

/-- A search finds no other identifier if only the elements of maps have keys. -/
lemma identifiersIn_forest {v : InsertValues} (h : ∀ o ∈ v.operandList, o.KeysInMaps) :
    identifiersIn v.forest = v.written.map identifier := by
  cases v with
  | operands values =>
    rw [forest, identifiersIn_node (by simp [kind]), Operand.forestList_eq_flatMap,
      identifiersIn_flatMap, written, List.map_flatMap]
    rw [List.flatMap_congr fun o (ho : o ∈ values) => (h o ho).identifiersIn_forest]
    simp
  | hole | json _ => rfl

end InsertValues

namespace Statement

lemma find_identifier_eq (s : Statement) :
    (Node.statement s).find .identifier = Node.identifiersIn s.children := by
  have hkind : (Node.statement s).kind ≠ .identifier := by
    cases s <;> simp [Node.kind]
  exact (Node.identifiersIn_node hkind s.children []).trans (List.append_nil _)

/-- In the statement to alter a table it finds what is written but for the columns of a clustering
order. -/
lemma find_identifier_alterTable (a : AlterTable) :
    (Node.statement (.alterTable a)).find .identifier
        ++ a.alteration.orderColumns.map Node.identifier
      = (alterTable a).written.map Node.identifier := by
  rw [find_identifier_eq, children, Node.identifiersIn_table, List.append_assoc,
    Node.identifiersIn_alteration, written, List.map_append]

lemma find_identifier_createIndex (c : CreateIndex) :
    (Node.statement (.createIndex c)).find .identifier
      = (createIndex c).written.map Node.identifier := by
  rw [find_identifier_eq, children, Node.identifiersIn_append, Node.identifiersIn_table,
    Node.identifiersIn_indexTarget, written]
  cases c.name <;> simp

/-- In an insertion it finds the table and the columns before the row. -/
lemma find_identifier_insert (i : Insert) :
    (Node.statement (.insert i)).find .identifier
      = (i.table.written ++ i.columns).map Node.identifier
        ++ Node.identifiersIn i.values.forest := by
  have hbatch : Node.identifiersIn (i.batch.map fun b => Tree.leaf (Node.batch b)).toList = [] := by
    cases i.batch <;> rfl
  have husage : Node.identifiersIn (i.usage.map fun u => Tree.leaf (Node.usage u)).toList = [] := by
    cases i.usage <;> rfl
  rw [find_identifier_eq, children]
  simp [hbatch, husage, Node.identifiersIn_names]

/-- Only the elements of maps have keys. -/
def KeysInMaps : Statement → Prop
  | insert i => ∀ v ∈ i.values.operandList, v.KeysInMaps
  | _ => True

/-- All names that a statement writes are found in it in the same order, up to the columns of
clustering orders, which follow them in the text. -/
lemma written_sublist (s : Statement) :
    (s.written.map Node.identifier).Sublist
      ((Node.statement s).find .identifier ++ s.orderColumns.map Node.identifier) := by
  cases s with
  | alterTable a => rw [orderColumns, find_identifier_alterTable]
  | createIndex c => simp [orderColumns, find_identifier_createIndex]
  | insert i =>
    rw [orderColumns, find_identifier_insert, written]
    simpa using i.values.written_sublist

/-- If only maps have keys, nothing else is found. -/
lemma KeysInMaps.written_eq {s : Statement} (h : s.KeysInMaps) :
    s.written.map Node.identifier
      = (Node.statement s).find .identifier ++ s.orderColumns.map Node.identifier := by
  cases s with
  | alterTable a => rw [orderColumns, find_identifier_alterTable]
  | createIndex c => simp [orderColumns, find_identifier_createIndex]
  | insert i =>
    rw [orderColumns, find_identifier_insert, written]
    simp [InsertValues.identifiersIn_forest h]

/-- A search for identifiers finds all names that the text of the statement shows, each as often as
it stands there and in the same order, exactly if there are no columns of a clustering order. If
only maps have keys, these columns are all that is missing, and nothing else is found. -/
theorem find_identifier (s : Statement) :
    ((∃ names, s.Shows names ∧
        (names.map Node.identifier).Sublist ((Node.statement s).find .identifier)) ↔
      s.orderColumns = []) ∧
    (s.KeysInMaps → ∃ names, s.Shows names ∧ names.map Node.identifier
      = (Node.statement s).find .identifier ++ s.orderColumns.map Node.identifier) := by
  refine ⟨⟨?_, ?_⟩, ?_⟩
  · rintro ⟨names, hshows, hfound⟩
    by_contra hcolumns
    -- only an alteration has such columns, and then all other names are found and no more
    have hkeys : s.KeysInMaps := by
      cases s with
      | alterTable a => trivial
      | createIndex c => trivial
      | insert i => exact absurd rfl hcolumns
    have hlength := (shows_iff.mp hshows).length_unique s.writes
    have hle := hfound.length_le
    have heq := congrArg List.length hkeys.written_eq
    have hpos := List.length_pos_iff.mpr hcolumns
    simp only [List.length_map, List.length_append] at hle heq
    omega
  · intro hnone
    refine ⟨s.written, shows_iff.mpr s.writes, ?_⟩
    simpa [hnone] using s.written_sublist
  · intro hkeys
    exact ⟨s.written, shows_iff.mpr s.writes, hkeys.written_eq⟩

def oneOrder : Statement :=
  .alterTable ⟨.simple "t", .options [.clusteringOrder [⟨⟨"c", false⟩, true⟩]]⟩

/-- The column of a clustering order is written and not found. -/
theorem find_identifier_oneOrder :
    (Node.statement oneOrder).find .identifier = [.identifier ⟨"t", false⟩] ∧
      oneOrder.Shows [⟨"t", false⟩, ⟨"c", false⟩] ∧
      ¬ ∃ names, oneOrder.Shows names ∧
        (names.map Node.identifier).Sublist ((Node.statement oneOrder).find .identifier) := by
  refine ⟨rfl, shows_iff.mpr oneOrder.writes, ?_⟩
  rintro ⟨names, hshows, hfound⟩
  have hlength := (shows_iff.mp hshows).length_unique oneOrder.writes
  have hle := hfound.length_le
  rw [List.length_map, hlength] at hle
  exact absurd hle (by decide)

end Statement

end CqlWriter
