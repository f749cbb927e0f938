import Mathlib
import CqlWriter.Proofs.EntryNumbers
import CqlWriter.Proofs.IdentifierSearch
import CqlWriter.Proofs.NumberLiterals
import CqlWriter.Proofs.WalkOrder

/-!
# Names that are left out

A name or a literal of a statement is blank if nothing is written for it. The entries of a document
have to give some of the names of their statements: a table, the columns that are added, renamed or
indexed. The others are taken as they are given, so a statement has a blank part exactly if one of
these is given as an empty text.
-/

namespace CqlWriter

/-! ### Blank parts of a statement -/

/-- Whether nothing is written for an identifier. -/
def Identifier.isBlank (i : Identifier) : Bool :=
  !i.quoted && i.name.isEmpty

/-- An identifier is blank exactly when it is made of an empty text. -/
lemma Identifier.isBlank_ofText (t : Text) : (ofText t).isBlank = t.isEmpty := by
  unfold ofText
  split_ifs with h
  · -- a text between quotes has at least these
    cases t with
    | nil => cases h
    | cons b t => rfl
  · rfl

namespace Statement.Node

/-- Whether nothing is written for a name, a literal or the name of a function. -/
def isBlank : Statement.Node → Bool
  | identifier i => i.isBlank
  | operand (.const text) => text.isEmpty
  | operand (.call name _) => name.isEmpty
  | _ => false

/-- No part of the node is blank, at any depth. -/
def Named (n : Statement.Node) : Prop :=
  ∀ m ∈ n.walk fun _ => true, m.isBlank = false

/-- A node has no blank part if it is not blank and its children have none. -/
lemma named_iff {n : Statement.Node} :
    n.Named ↔ n.isBlank = false ∧ ∀ c ∈ n.slots, c.Named := by
  cases hn : n.isHole with
  | true =>
    have hblank : n.isBlank = false := by
      unfold isHole at hn
      split at hn
      case h_6 => cases hn
      all_goals rfl
    simp [Named, walk_of_isHole hn, (forest_of_isHole hn).2, hblank]
  | false =>
    simp only [Named, walk_eq hn, if_true, List.forall_mem_cons, List.forall_mem_flatMap]

@[simp] lemma named_identifier {i : Identifier} : (identifier i).Named ↔ i.isBlank = false := by
  simp [named_iff (n := identifier i), isBlank, slots]

@[simp] lemma named_const {text : Text} : (operand (.const text)).Named ↔ text ≠ [] := by
  simp [named_iff (n := operand (.const text)), isBlank, slots]

@[simp] lemma named_param {name : Text} : (operand (.param name)).Named := by
  simp [named_iff (n := operand (.param name)), isBlank, slots]

@[simp] lemma named_null : (operand .null).Named := by
  simp [named_iff (n := operand .null), isBlank, slots]

@[simp] lemma named_column {i : Identifier} :
    (operand (.column i)).Named ↔ i.isBlank = false := by
  simp [named_iff (n := operand (.column i)), isBlank, slots]

/-- A function needs a name, and so do its arguments. -/
@[simp] lemma named_call {name : Text} {args : List Operand} :
    (operand (.call name args)).Named ↔ name ≠ [] ∧ ∀ a ∈ args, (operand a).Named := by
  simp [named_iff (n := operand (.call name args)), isBlank, slots]

@[simp] lemma named_tuple {elements : List Operand} :
    (operand (.tuple elements)).Named ↔ ∀ e ∈ elements, (operand e).Named := by
  simp [named_iff (n := operand (.tuple elements)), isBlank, slots]

/-- A collection has what is written for its elements, which may be without keys. -/
lemma named_collection {kind : CollectionKind} {elements : List (Operand × Operand)} :
    (operand (.collection kind elements)).Named ↔
      ∀ e ∈ elements, ∀ c ∈ elementSlots kind e, c.Named := by
  rw [named_iff, slots, List.forall_mem_flatMap]
  simp [isBlank]

@[simp] lemma named_withItem {w : WithItem} : (withItem w).Named := by
  simp [named_iff (n := withItem w), isBlank, slots]

@[simp] lemma named_columnDefinition {c : ColumnDefinition} :
    (columnDefinition c).Named ↔ c.name.isBlank = false := by
  have htype : (dataType c.type).Named := by
    simp [named_iff (n := dataType c.type), isBlank, slots]
  simp [named_iff (n := columnDefinition c), isBlank, slots, htype]

/-- A table name may have two parts, neither of which may be blank. -/
lemma named_tableName {t : TableName} :
    (tableName t).Named ↔ ∀ i ∈ t.written, i.isBlank = false := by
  obtain ⟨keyspace, name⟩ := t
  cases keyspace <;>
    simp [named_iff (n := tableName _), isBlank, slots, TableName.written]

end Statement.Node

/-- No name of the alteration is blank. A walk does not meet the columns of a clustering order. -/
def Alteration.Named (a : Alteration) : Prop :=
  (Statement.Node.alteration a).Named ∧ ∀ c ∈ a.orderColumns, c.isBlank = false

namespace Alteration

@[simp] lemma named_add {columns : List ColumnDefinition} :
    (add columns).Named ↔ ∀ c ∈ columns, c.name.isBlank = false := by
  simp [Named, Statement.Node.named_iff (n := .alteration _), Statement.Node.isBlank,
    Statement.Node.slots, orderColumns]

@[simp] lemma named_drop {columns : List Identifier} :
    (drop columns).Named ↔ ∀ c ∈ columns, c.isBlank = false := by
  simp [Named, Statement.Node.named_iff (n := .alteration _), Statement.Node.isBlank,
    Statement.Node.slots, orderColumns]

@[simp] lemma named_dropCompactStorage : dropCompactStorage.Named := by
  simp [Named, Statement.Node.named_iff (n := .alteration _), Statement.Node.isBlank,
    Statement.Node.slots, orderColumns]

@[simp] lemma named_rename {source target : Identifier} :
    (rename source target).Named ↔ source.isBlank = false ∧ target.isBlank = false := by
  simp [Named, Statement.Node.named_iff (n := .alteration _), Statement.Node.isBlank,
    Statement.Node.slots, orderColumns]

/-- The columns of a clustering order are not met by a walk, and so are asked for here. -/
@[simp] lemma named_options {items : List WithItem} :
    (options items).Named ↔ ∀ w ∈ items, ∀ c ∈ w.orderColumns, c.isBlank = false := by
  rw [Named, Statement.Node.named_iff, orderColumns, List.forall_mem_flatMap]
  simp [Statement.Node.isBlank, Statement.Node.slots]

end Alteration

namespace Statement

/-- No name or literal of the statement is blank, at any depth. -/
def Named (s : Statement) : Prop :=
  (Node.statement s).Named ∧ ∀ c ∈ s.orderColumns, c.isBlank = false

instance (s : Statement) : Decidable s.Named :=
  inferInstanceAs (Decidable ((∀ m ∈ (Node.statement s).walk fun _ => true, m.isBlank = false) ∧
    ∀ c ∈ s.orderColumns, c.isBlank = false))

lemma named_alterTable {a : AlterTable} :
    (alterTable a).Named ↔ (Node.tableName a.table).Named ∧ a.alteration.Named := by
  simp [Named, Alteration.Named, Node.named_iff (n := .statement _), Node.isBlank, Node.slots,
    orderColumns, and_assoc]

lemma named_createIndex {c : CreateIndex} :
    (createIndex c).Named ↔ (∀ i ∈ c.name, i.isBlank = false) ∧ (Node.tableName c.table).Named ∧
      ∀ i ∈ c.target.column?, i.isBlank = false := by
  obtain ⟨ifNotExists, name, table, target⟩ := c
  have htarget : (Node.indexTarget target).Named ↔ ∀ i ∈ target.column?, i.isBlank = false := by
    cases target <;>
      simp [Node.named_iff (n := .indexTarget _), Node.isBlank, Node.slots, IndexTarget.column?]
  cases name <;>
    simp [Named, Node.named_iff (n := .statement _), Node.isBlank, Node.slots, orderColumns,
      htarget]

/-- An insertion has names in its table, its columns and its row. -/
lemma named_insert {i : Insert} :
    (insert i).Named ↔ (Node.tableName i.table).Named ∧ (∀ c ∈ i.columns, c.isBlank = false) ∧
      ∀ v ∈ i.values.operandList, (Node.operand v).Named := by
  obtain ⟨batch, table, columns, values, usage, ifNotExists⟩ := i
  have hbatch : ∀ b, (Node.batch b).Named := by
    simp [Node.named_iff (n := .batch _), Node.isBlank, Node.slots]
  have husage : ∀ u, (Node.usage u).Named := by
    simp [Node.named_iff (n := .usage _), Node.isBlank, Node.slots]
  have hvalues : (Node.insertValues values).Named ↔
      ∀ v ∈ values.operandList, (Node.operand v).Named := by
    cases values <;>
      simp [Node.named_iff (n := .insertValues _), Node.isBlank, Node.slots,
        InsertValues.operandList]
  cases batch <;> cases usage <;>
    simp [Named, Node.named_iff (n := .statement _), Node.isBlank, Node.slots, orderColumns,
      hbatch, husage, hvalues, or_imp, forall_and]

end Statement

namespace Text

/-- Only the empty text has an empty lower case. -/
lemma lower_ne_nil {t : Text} (h : t ≠ []) : t.lower ≠ [] := by
  cases t with
  | nil => exact absurd rfl h
  | cons b t =>
    obtain ⟨g, gs, hglyphs⟩ : ∃ g gs, glyphs (b :: t) = g :: gs := by
      rw [glyphs, Glyph.readFrom]
      split
      · exact ⟨_, _, rfl⟩
      · exact ⟨_, _, rfl⟩
    intro hnil
    rw [lower, hglyphs, List.map_cons, ofChars, List.flatMap_cons,
      List.append_eq_nil_iff] at hnil
    have hsize := String.length_utf8EncodeChar (lowerChar g.shown)
    rw [hnil.1] at hsize
    exact absurd hsize.symm (Char.utf8Size_pos _).ne'

lemma lower_eq_nil_iff {t : Text} : t.lower = [] ↔ t = [] := by
  constructor
  · intro h
    by_contra hne
    exact lower_ne_nil hne h
  · rintro rfl
    rfl

lemma ofInt_ne_nil (n : Int) : ofInt n ≠ [] := by
  rw [ofInt]
  split_ifs
  · exact List.append_ne_nil_of_left_ne_nil (List.cons_ne_nil _ _) _
  · exact ofNat_ne_nil _

end Text

namespace Document

open Yaml

/-! ### Texts that operands have to give -/

def namedKinds : List Text :=
  ["const", "column", "func"]

namespace Visit

/-- What is met has to give the text by itself to be written as an operand. -/
inductive NeedsItself : Visit → Text → Prop
  | truth {n : Node} {line : Nat} {text : Text} :
      n.StandsFor (.scalar line .bool text) → NeedsItself (operand n) text
  | named {n body m : Node} {kind : Text} {args : Option Node} :
      Names n kind body args → kind ∈ namedKinds → body.StandsFor m →
        NeedsItself (operand n) m.text

/-- What is met has to give the text, by itself or in one of its parts. -/
inductive Needs : Visit → Text → Prop
  | itself {v : Visit} {t : Text} : v.NeedsItself t → Needs v t
  | part {v w : Visit} {ws : List Visit} {t : Text} :
      v.HasParts ws → w ∈ ws → Needs w t → Needs v t

/-- The grammar tells the parts of what is met in one way only. -/
lemma HasParts.unique {v : Visit} {ws ws' : List Visit} (h : v.HasParts ws)
    (h' : v.HasParts ws') : ws = ws' := by
  cases h with
  | leaf h =>
    have hshape : Shape.of 0 _ = _ := Shape.of_eq_leaf h
    cases h' with
    | leaf h' => rfl
    | elements h' => cases hshape.symm.trans (Shape.of_eq_elements h')
    | entries h' => cases hshape.symm.trans (Shape.of_eq_entries h')
  | elements h =>
    have hshape : Shape.of 0 _ = _ := Shape.of_eq_elements h
    cases h' with
    | leaf h' => cases hshape.symm.trans (Shape.of_eq_leaf h')
    | elements h' =>
      cases hshape.symm.trans (Shape.of_eq_elements h')
      rfl
    | entries h' => cases hshape.symm.trans (Shape.of_eq_entries h')
  | entries h =>
    have hshape : Shape.of 0 _ = _ := Shape.of_eq_entries h
    cases h' with
    | leaf h' => cases hshape.symm.trans (Shape.of_eq_leaf h')
    | elements h' => cases hshape.symm.trans (Shape.of_eq_elements h')
    | entries h' =>
      cases hshape.symm.trans (Shape.of_eq_entries h')
      rfl
  | keyAndValue h =>
    cases h' with
    | keyAndValue h' =>
      obtain ⟨rfl, rfl⟩ := h.unique h'
      rfl

/-- All texts that are needed are there if those that are needed by themselves and those of the
parts are. -/
lemma forall_needs_iff {v : Visit} {ws : List Visit} (h : v.HasParts ws) :
    (∀ t, v.Needs t → t ≠ []) ↔
      (∀ t, v.NeedsItself t → t ≠ []) ∧ ∀ w ∈ ws, ∀ t, w.Needs t → t ≠ [] := by
  constructor
  · intro hall
    exact ⟨fun t ht => hall t (.itself ht), fun w hw t ht => hall t (.part h hw ht)⟩
  · rintro ⟨hitself, hparts⟩ t ht
    cases ht with
    | itself ht => exact hitself t ht
    | part h' hw ht =>
      cases h.unique h'
      exact hparts _ hw t ht

/-- What a mapping needs by itself is the text of its body. -/
lemma NeedsItself.of_names {n body : Node} {kind t : Text} {args : Option Node}
    (ht : (operand n).NeedsItself t) (h : Names n kind body args) :
    kind ∈ namedKinds ∧ t = body.resolved.text := by
  obtain ⟨line, tag, entries, key, hn, hkinds, hkey, -⟩ := names_iff.mp h
  cases ht with
  | truth hscalar => cases hn.symm.trans (Node.standsFor_iff.mp hscalar)
  | named h' hkind hbody =>
    obtain ⟨line', tag', entries', key', hn', hkinds', hkey', -⟩ := names_iff.mp h'
    cases hn.symm.trans hn'
    cases hkinds.symm.trans hkinds'
    rw [← hkey, hkey', Node.standsFor_iff.mp hbody]
    exact ⟨hkind, rfl⟩

lemma needsItself_iff_of_names {n body m : Node} {kind : Text} {args : Option Node}
    (h : Names n kind body args) (hkind : kind ∈ namedKinds) (hbody : body.StandsFor m)
    (t : Text) : (operand n).NeedsItself t ↔ t = m.text := by
  rw [← Node.standsFor_iff.mp hbody]
  constructor
  · intro ht
    exact (ht.of_names h).2
  · rintro rfl
    exact .named h hkind (Node.standsFor_iff.mpr rfl)

lemma not_needsItself_of_names {n body : Node} {kind : Text} {args : Option Node}
    (h : Names n kind body args) (hkind : kind ∉ namedKinds) (t : Text) :
    ¬ (operand n).NeedsItself t :=
  fun ht => hkind (ht.of_names h).1

/-- Of the scalars only one with the tag of a truth value is written as its own text. -/
lemma needsItself_of_scalar {n : Node} {line : Nat} {tag : Tag} {text : Text}
    (h : n.StandsFor (.scalar line tag text)) (t : Text) :
    (operand n).NeedsItself t ↔ tag = .bool ∧ t = text := by
  rw [Node.standsFor_iff] at h
  constructor
  · intro ht
    cases ht with
    | truth hscalar =>
      cases h.symm.trans (Node.standsFor_iff.mp hscalar)
      exact ⟨rfl, rfl⟩
    | named hnames _ _ =>
      obtain ⟨_, _, _, _, hn, -⟩ := names_iff.mp hnames
      cases h.symm.trans hn
  · rintro ⟨rfl, rfl⟩
    exact .truth (Node.standsFor_iff.mpr h)

end Visit

/-! ### Literals are not blank -/

lemma decimal_ne_nil {t : Text} (h : isDecimal t) : (Text.dropStart? "+" t).getD t ≠ [] := by
  cases t with
  | nil => cases h
  | cons b t =>
    by_cases hplus : b = Text.byte '+'
    · subst hplus
      intro hnil
      have hdrop : Text.dropStart? "+" (Text.byte '+' :: t) = some t := rfl
      rw [hdrop] at hnil
      cases hnil
      cases h
    · have hdrop : Text.dropStart? "+" (b :: t) = none := by
        apply Text.dropStart?_eq_none
        intro c hc
        cases hc
        exact decide_eq_true hplus
      simp [hdrop]

/-- A floating-point number is never written as nothing. -/
lemma floatLiteral_ne_nil (text : Text) (x : Binary64) : floatLiteral text x ≠ [] := by
  cases x with
  | infinite negative => cases negative <;> exact List.cons_ne_nil _ _
  | nan => exact List.cons_ne_nil _ _
  | finite negative m e =>
    simp only [floatLiteral]
    split_ifs with hwide
    · exact decimal_ne_nil (Bool.and_eq_true_iff.mp hwide).2
    · intro hnil
      have hmark := mem_finiteLiteral negative m e
      simp [hnil] at hmark

/-! ### Operands -/

/-- An operand without parts is blank exactly when the text that it needs is. -/
lemma SpellsLeaf.named_iff {n : Node} {o : Operand} (h : SpellsLeaf n o) :
    (Statement.Node.operand o).Named ↔ ∀ t, (Visit.operand n).NeedsItself t → t ≠ [] := by
  cases h with
  | null hn => simp [Visit.needsItself_of_scalar hn]
  | string hn htag =>
    have hquoted : ∀ t, quoteLiteral t ≠ [] := fun t => List.cons_ne_nil _ _
    rcases htag with rfl | rfl <;>
      simp [Visit.needsItself_of_scalar hn, Operand.string, hquoted]
  | truth hn => simp [Visit.needsItself_of_scalar hn, Text.lower_eq_nil_iff]
  | integer hn htag _ =>
    rcases htag with rfl | rfl <;> simp [Visit.needsItself_of_scalar hn, Text.ofInt_ne_nil]
  | real hn htag _ =>
    rcases htag with rfl | rfl <;> simp [Visit.needsItself_of_scalar hn, floatLiteral_ne_nil]
  | const h hbody | call h hbody =>
    simp [Visit.needsItself_iff_of_names h (by decide) hbody]
  | param h hbody => simp [Visit.not_needsItself_of_names h (by decide)]
  | column h hbody =>
    simp [Visit.needsItself_iff_of_names h (by decide) hbody, Identifier.isBlank_ofText]

/-- An operand with elements is blank by itself or in one of them. -/
lemma SpellsElements.named_iff {n : Node} {make : List Operand → Operand} {items : List Node}
    (h : SpellsElements n make items) (os : List Operand) :
    (Statement.Node.operand (make os)).Named ↔
      (∀ t, (Visit.operand n).NeedsItself t → t ≠ []) ∧
        ∀ o ∈ os, (Statement.Node.operand o).Named := by
  cases h with
  | tuple h _ => simp [Visit.not_needsItself_of_names h (by decide)]
  | list h _ | set h _ =>
    simp [Visit.not_needsItself_of_names h (by decide), Statement.Node.named_collection,
      Statement.Node.elementSlots, Operand.isHole]
  | call h hbody _ => simp [Visit.needsItself_iff_of_names h (by decide) hbody]

lemma SpellsEntries.not_needsItself {n : Node} {items : List Node} (h : SpellsEntries n items)
    (t : Text) : ¬ (Visit.operand n).NeedsItself t := by
  obtain ⟨body, hnames, -⟩ := h
  exact Visit.not_needsItself_of_names hnames (by decide) t

lemma not_needsItself_mapEntry (n : Node) (t : Text) : ¬ (Visit.mapEntry n).NeedsItself t := by
  rintro ⟨⟩

/-- An operand has a blank part exactly if one of the nodes that spell it leaves out its text. -/
lemma Spells.named_iff {n : Node} {o : Operand} (h : Spells n o) :
    (Statement.Node.operand o).Named ↔ ∀ t, (Visit.operand n).Needs t → t ≠ [] := by
  induction h with
  | leaf h =>
    rw [h.named_iff, Visit.forall_needs_iff (.leaf h)]
    simp
  | elements h hlength _ ih =>
    rw [h.named_iff, Visit.forall_needs_iff (.elements h), List.forall_mem_map]
    have hitems := List.forall₂_iff_zip.mpr ⟨hlength, ih⟩
    rw [forall_iff_of_forall₂ hitems fun m o hm => hm]
  | @entries n items es key value h hlength hread _ _ ihKey ihValue =>
    have helement : ∀ {m e}, (m, e) ∈ items.zip es →
        ((∀ c ∈ Statement.Node.elementSlots .map e, c.Named) ↔
          ∀ t, (Visit.mapEntry m).Needs t → t ≠ []) := by
      intro m e hm
      rw [Visit.forall_needs_iff (.keyAndValue (hread m (List.of_mem_zip hm).1))]
      simpa [not_needsItself_mapEntry, Statement.Node.elementSlots] using
        and_congr (ihKey hm) (ihValue hm)
    have hitems := List.forall₂_iff_zip.mpr ⟨hlength, helement⟩
    rw [Statement.Node.named_collection, Visit.forall_needs_iff (.entries h),
      List.forall_mem_map, forall_iff_of_forall₂ hitems fun m e hm => hm]
    simp [h.not_needsItself]

/-! ### Texts that entries have to give -/

/-- The texts around the dot of a table name, or the whole text. -/
def tableParts (t : Text) : List Text :=
  match TableName.splitDot? false t with
  | some (keyspace, name) => [keyspace, name]
  | none => [t]

/-- A table name is blank where one of the texts around its dot is empty. -/
lemma named_tableName_iff (t : Text) :
    (Statement.Node.tableName (.ofText t)).Named ↔ ∀ p ∈ tableParts t, p ≠ [] := by
  rw [Statement.Node.named_tableName, tableParts, TableName.ofText]
  cases TableName.splitDot? false t with
  | none => simp [TableName.written, Identifier.isBlank_ofText]
  | some p => simp [TableName.written, Identifier.isBlank_ofText]

/-- The names that an entry is refused without. -/
def AlterTableEntry.checked (a : AlterTableEntry) : List Text :=
  a.table :: (a.add.getD []).map ColumnEntry.name
    ++ a.rename.toList.flatMap fun r => [r.source, r.target]

/-- The names that are taken as an entry gives them. -/
def AlterTableEntry.unchecked (a : AlterTableEntry) : List Text :=
  tableParts a.table ++ a.drop.getD []
    ++ (a.options.getD []).flatMap fun w => (w.clusteringOrder.getD []).map OrderEntry.column

def CreateIndexEntry.checked (c : CreateIndexEntry) : List Text :=
  [c.table, c.column.name]

def CreateIndexEntry.unchecked (c : CreateIndexEntry) : List Text :=
  tableParts c.table

def InsertEntry.checked (i : InsertEntry) : List Text :=
  [i.table]

/-- The text is one that is taken as an entry gives it, as a name or in an operand. -/
def InsertEntry.Unchecked (i : InsertEntry) (t : Text) : Prop :=
  t ∈ tableParts i.table ∨ t ∈ i.columns ∨
    ∃ nodes ∈ i.values, ∃ n ∈ nodes, (Visit.operand n).Needs t

def StatementEntry.checked (e : StatementEntry) : List Text :=
  e.alterTable.toList.flatMap AlterTableEntry.checked
    ++ e.createIndex.toList.flatMap CreateIndexEntry.checked
    ++ e.insert.toList.flatMap InsertEntry.checked

/-- The text is one that is taken as an entry gives it. -/
def StatementEntry.Unchecked (e : StatementEntry) (t : Text) : Prop :=
  (∃ a ∈ e.alterTable, t ∈ a.unchecked) ∨ (∃ c ∈ e.createIndex, t ∈ c.unchecked) ∨
    ∃ i ∈ e.insert, i.Unchecked t

/-! ### ALTER TABLE -/

/-- What is made of a value that may be missing has a property if the value has the corresponding
one. -/
lemma given_forall_iff {α β : Type} {value : Option α} {build : α → Except Problem β}
    {xs : List β} {P : β → Prop} {Q : α → Prop} (h : given value build = .ok xs)
    (hbuild : ∀ a b, build a = .ok b → (P b ↔ Q a)) : (∀ x ∈ xs, P x) ↔ ∀ a ∈ value, Q a := by
  cases value with
  | none =>
    cases h
    simp
  | some a =>
    obtain ⟨b, hb, hpure⟩ := bind_eq_ok_iff.mp h
    cases hpure
    simp [hbuild a b hb]

lemma given_forall_and {α β : Type} {value : Option α} {build : α → Except Problem β}
    {xs : List β} {P : β → Prop} {Q : α → Prop} (h : given value build = .ok xs)
    (hbuild : ∀ a b, build a = .ok b → P b ∧ Q a) : (∀ x ∈ xs, P x) ∧ ∀ a ∈ value, Q a := by
  constructor
  · refine (given_forall_iff (P := P) (Q := fun _ => True) h fun a b hb => ?_).mpr (by simp)
    simp [(hbuild a b hb).1]
  · refine (given_forall_iff (P := fun _ => True) (Q := Q) h fun a b hb => ?_).mp (by simp)
    simp [(hbuild a b hb).2]

def ColumnEntry.column (c : ColumnEntry) : ColumnDefinition where
  name := .ofText c.name
  type := { name := c.type, params := c.params, frozen := c.frozen }
  isStatic := c.isStatic
  primaryKey := c.primaryKey

/-- A column is made exactly when it has a name and a type. -/
lemma ColumnEntry.build_eq_ok_iff {entry : Nat} {c : ColumnEntry} {d : ColumnDefinition} :
    c.build entry = .ok d ↔ (c.name ≠ [] ∧ c.type ≠ []) ∧ d = c.column := by
  unfold build
  split_ifs with hempty
  · rw [Bool.or_eq_true, List.isEmpty_iff, List.isEmpty_iff] at hempty
    refine iff_of_false (by simp) ?_
    rintro ⟨⟨hname, htype⟩, -⟩
    exact hempty.elim hname htype
  · rw [Bool.or_eq_true, not_or, List.isEmpty_iff, List.isEmpty_iff] at hempty
    simp [hempty, column, eq_comm]

lemma RenameEntry.build_eq_ok_iff {entry : Nat} {r : RenameEntry} {x : Alteration} :
    r.build entry = .ok x ↔ (r.source ≠ [] ∧ r.target ≠ []) ∧
      x = .rename (.ofText r.source) (.ofText r.target) := by
  unfold build
  split_ifs with hempty
  · rw [Bool.or_eq_true, List.isEmpty_iff, List.isEmpty_iff] at hempty
    refine iff_of_false (by simp) ?_
    rintro ⟨⟨hsource, htarget⟩, -⟩
    exact hempty.elim hsource htarget
  · rw [Bool.or_eq_true, not_or, List.isEmpty_iff, List.isEmpty_iff] at hempty
    simp [hempty, eq_comm]

/-- Columns that are added have names. -/
lemma ColumnEntry.named_of_mapM {entry : Nat} {cs : List ColumnEntry} {ds : List ColumnDefinition}
    (h : cs.mapM (·.build entry) = .ok ds) :
    (Alteration.add ds).Named ∧ ∀ c ∈ cs, c.name ≠ [] := by
  rw [Alteration.named_add]
  constructor
  · refine forall_of_mapM h fun c d hd => ?_
    obtain ⟨⟨hname, -⟩, rfl⟩ := ColumnEntry.build_eq_ok_iff.mp hd
    simpa [column, Identifier.isBlank_ofText] using hname
  · intro c hc
    obtain ⟨d, hd⟩ := exists_eq_ok_of_mapM h hc
    exact (build_eq_ok_iff.mp hd).1.1

/-- The one option of an entry orders by the columns that the entry gives. -/
lemma WithEntry.orderColumns_of_build {entry : Nat} {w : WithEntry} {item : WithItem}
    (h : w.build entry = .ok item) :
    item.orderColumns = (w.clusteringOrder.getD []).map fun o => Identifier.ofText o.column := by
  have hitems : w.items.flatMap WithItem.orderColumns
      = (w.clusteringOrder.getD []).map fun o => Identifier.ofText o.column := by
    obtain ⟨property, order, id, compact⟩ := w
    cases property <;> cases order <;> cases id <;> cases compact <;>
      simp [items, WithItem.orderColumns]
  unfold build at h
  split at h
  · rename_i hone
    cases h
    simpa [hone] using hitems
  · cases h

namespace AlterTableEntry

variable {entry : Nat} {a : AlterTableEntry}

lemma forall_checked_iff : (∀ t ∈ a.checked, t ≠ []) ↔ a.table ≠ [] ∧
    (∀ cs ∈ a.add, ∀ c ∈ cs, c.name ≠ []) ∧ ∀ r ∈ a.rename, r.source ≠ [] ∧ r.target ≠ [] := by
  obtain ⟨table, add, drop, compact, rename, options⟩ := a
  cases add <;> cases rename <;> simp [checked, or_imp, forall_and]

lemma forall_unchecked_iff : (∀ t ∈ a.unchecked, t ≠ []) ↔ (∀ p ∈ tableParts a.table, p ≠ []) ∧
    (∀ names ∈ a.drop, ∀ t ∈ names, t ≠ []) ∧
      ∀ ws ∈ a.options, ∀ w ∈ ws, ∀ o ∈ w.clusteringOrder.getD [], o.column ≠ [] := by
  obtain ⟨table, add, drop, compact, rename, options⟩ := a
  simp only [unchecked, List.forall_mem_append, List.forall_mem_flatMap, List.forall_mem_map,
    and_assoc]
  cases drop <;> cases options <;> simp

/-- The alterations of an entry have all names that are checked. They have the others if the entry
gives them. -/
lemma named_of_alterations {xs : List Alteration} (h : a.alterations entry = .ok xs) :
    (∀ cs ∈ a.add, ∀ c ∈ cs, c.name ≠ []) ∧ (∀ r ∈ a.rename, r.source ≠ [] ∧ r.target ≠ []) ∧
      ((∀ x ∈ xs, x.Named) ↔ (∀ names ∈ a.drop, ∀ t ∈ names, t ≠ []) ∧
        ∀ ws ∈ a.options, ∀ w ∈ ws, ∀ o ∈ w.clusteringOrder.getD [], o.column ≠ []) := by
  obtain ⟨added, hadded, h⟩ := bind_eq_ok_iff.mp h
  obtain ⟨dropped, hdropped, h⟩ := bind_eq_ok_iff.mp h
  obtain ⟨renamed, hrenamed, h⟩ := bind_eq_ok_iff.mp h
  obtain ⟨options, hoptions, hpure⟩ := bind_eq_ok_iff.mp h
  cases hpure
  have hadd : (∀ x ∈ added, x.Named) ∧ ∀ cs ∈ a.add, ∀ c ∈ cs, c.name ≠ [] := by
    apply given_forall_and hadded
    intro cs b hb
    obtain ⟨ds, hds, hpure⟩ := bind_eq_ok_iff.mp hb
    cases hpure
    exact ColumnEntry.named_of_mapM hds
  have hdrop : (∀ x ∈ dropped, x.Named) ↔ ∀ names ∈ a.drop, ∀ t ∈ names, t ≠ [] := by
    apply given_forall_iff hdropped
    intro names b hb
    cases hb
    simp [Identifier.isBlank_ofText]
  have hcompact : ∀ x ∈ (if a.dropCompactStorage then [.dropCompactStorage] else []),
      Alteration.Named x := by
    split_ifs <;> simp
  have hrename : (∀ x ∈ renamed, x.Named) ∧ ∀ r ∈ a.rename, r.source ≠ [] ∧ r.target ≠ [] := by
    apply given_forall_and hrenamed
    intro r b hb
    obtain ⟨hnames, rfl⟩ := RenameEntry.build_eq_ok_iff.mp hb
    simpa [Identifier.isBlank_ofText] using hnames
  have hwith : (∀ x ∈ options, x.Named) ↔
      ∀ ws ∈ a.options, ∀ w ∈ ws, ∀ o ∈ w.clusteringOrder.getD [], o.column ≠ [] := by
    apply given_forall_iff hoptions
    intro ws b hb
    obtain ⟨items, hitems, hpure⟩ := bind_eq_ok_iff.mp hb
    cases hpure
    rw [Alteration.named_options]
    apply forall_iff_of_forall₂ (mapM_eq_ok_iff.mp hitems)
    intro w item hitem
    simp [w.orderColumns_of_build hitem, Identifier.isBlank_ofText]
  refine ⟨hadd.2, hrename.2, ?_⟩
  simp only [List.forall_mem_append, hdrop, hwith]
  constructor
  · rintro ⟨⟨⟨⟨-, hd⟩, -⟩, -⟩, ho⟩
    exact ⟨hd, ho⟩
  · rintro ⟨hd, ho⟩
    exact ⟨⟨⟨⟨hadd.1, hd⟩, hcompact⟩, hrename.1⟩, ho⟩

/-- An ALTER TABLE statement has all names that are checked, and has no blank part if the entry
gives the others. -/
lemma named_of_build {s : AlterTable} (h : a.build entry = .ok s) :
    (∀ t ∈ a.checked, t ≠ []) ∧ ((Statement.alterTable s).Named ↔ ∀ t ∈ a.unchecked, t ≠ []) := by
  unfold build at h
  split at h
  · cases h
  · rename_i htable
    obtain ⟨alterations, halterations, h⟩ := bind_eq_ok_iff.mp h
    obtain ⟨hadd, hrename, hnamed⟩ := named_of_alterations halterations
    split at h
    · cases h
      rw [List.forall_mem_singleton] at hnamed
      rw [forall_checked_iff, forall_unchecked_iff, Statement.named_alterTable,
        named_tableName_iff, hnamed]
      exact ⟨⟨by simpa using htable, hadd, hrename⟩, Iff.rfl⟩
    · cases h

end AlterTableEntry

/-! ### CREATE INDEX and INSERT -/

/-- A CREATE INDEX statement has all names that are checked. Its own name may be left out, and is
not written then. -/
lemma CreateIndexEntry.named_of_build {entry : Nat} {c : CreateIndexEntry} {s : CreateIndex}
    (h : c.build entry = .ok s) : (∀ t ∈ c.checked, t ≠ []) ∧
      ((Statement.createIndex s).Named ↔ ∀ t ∈ c.unchecked, t ≠ []) := by
  have hname : ∀ i ∈ (if c.name.isEmpty then none else some (Identifier.ofText c.name)),
      i.isBlank = false := by
    split_ifs with hempty
    · simp
    · simpa [Identifier.isBlank_ofText] using hempty
  rcases c.build_cases entry with ⟨p, hp, -⟩ | ⟨htable, hcolumn, kind, hs⟩
  · rw [hp] at h
    cases h
  · rw [hs] at h
    cases h
    rw [Statement.named_createIndex, named_tableName_iff]
    refine ⟨by simpa [checked] using ⟨htable, hcolumn⟩, ?_⟩
    constructor
    · rintro ⟨-, hparts, -⟩
      exact hparts
    · intro hparts
      refine ⟨hname, hparts, ?_⟩
      simpa [IndexTarget.column?, Identifier.isBlank_ofText] using hcolumn

/-- The operands of a row are spelled by the nodes that the entry gives. -/
lemma InsertEntry.named_of_row {entry : Nat} {i : InsertEntry} {values : InsertValues}
    (h : i.row entry = .ok values) :
    (∀ v ∈ values.operandList, (Statement.Node.operand v).Named) ↔
      ∀ nodes ∈ i.values, ∀ n ∈ nodes, ∀ t, (Visit.operand n).Needs t → t ≠ [] := by
  unfold row at h
  split at h
  · cases h
  · rename_i hvalues _
    cases h
    simp [hvalues, InsertValues.operandList]
  · rename_i nodes hvalues _
    obtain ⟨os, hos, hpure⟩ := bind_eq_ok_iff.mp h
    cases hpure
    have hitems : (∀ o ∈ os, (Statement.Node.operand o).Named) ↔
        ∀ n ∈ nodes, ∀ t, (Visit.operand n).Needs t → t ≠ [] := by
      apply forall_iff_of_forall₂ (mapM_eq_ok_iff.mp hos)
      intro n o ho
      exact (spells_of_operand ho).named_iff
    simpa [hvalues, InsertValues.operandList] using hitems
  · cases h

/-- An insertion that is made has its table, and is blank only where something unchecked is empty.
-/
lemma InsertEntry.named_of_build {entry : Nat} {i : InsertEntry} {s : Insert}
    (h : i.build entry = .ok s) : (∀ t ∈ i.checked, t ≠ []) ∧
      ((Statement.insert s).Named ↔ ∀ t, i.Unchecked t → t ≠ []) := by
  unfold build at h
  dsimp only at h
  by_cases htable : i.table.isEmpty = true
  · rw [if_pos htable] at h
    cases h
  · rw [if_neg htable] at h
    obtain ⟨values, hvalues, h⟩ := bind_eq_ok_iff.mp h
    obtain ⟨batch, -, hpure⟩ := bind_eq_ok_iff.mp h
    cases hpure
    have hcolumns : (∀ c ∈ i.columns.map Identifier.ofText, c.isBlank = false) ↔
        ∀ t ∈ i.columns, t ≠ [] := by
      simp [Identifier.isBlank_ofText]
    rw [Statement.named_insert, named_tableName_iff, named_of_row hvalues, hcolumns]
    refine ⟨by simpa [checked] using htable, ?_⟩
    constructor
    · rintro ⟨htable, hcolumns, hvalues⟩ t (ht | ht | ⟨nodes, hnodes, n, hn, ht⟩)
      · exact htable t ht
      · exact hcolumns t ht
      · exact hvalues nodes hnodes n hn t ht
    · intro hall
      exact ⟨fun t ht => hall t (.inl ht), fun t ht => hall t (.inr (.inl ht)),
        fun nodes hnodes n hn t ht => hall t (.inr (.inr ⟨nodes, hnodes, n, hn, ht⟩))⟩

/-! ### Statements -/

/-- A statement of an entry has all names that are checked, and has no blank part if the entry gives
the others. -/
lemma StatementEntry.named_of_build {entry : Nat} {e : StatementEntry} {s : Statement}
    (h : e.build entry = .ok s) :
    (∀ t ∈ e.checked, t ≠ []) ∧ (s.Named ↔ ∀ t, e.Unchecked t → t ≠ []) := by
  unfold build at h
  split at h
  · cases h
  · rename_i a ha hc hi
    obtain ⟨b, hb, hpure⟩ := bind_eq_ok_iff.mp h
    cases hpure
    simpa [checked, Unchecked, ha, hc, hi] using a.named_of_build hb
  · rename_i c ha hc hi
    obtain ⟨b, hb, hpure⟩ := bind_eq_ok_iff.mp h
    cases hpure
    simpa [checked, Unchecked, ha, hc, hi] using c.named_of_build hb
  · rename_i i ha hc hi
    obtain ⟨b, hb, hpure⟩ := bind_eq_ok_iff.mp h
    cases hpure
    simpa [checked, Unchecked, ha, hc, hi] using i.named_of_build hb
  · cases h

/-! ### Refused entries -/

/-- An entry that leaves out a name that is checked is refused. -/
lemma StatementEntry.refused_of_checked {e : StatementEntry} (h : [] ∈ e.checked) (entry : Nat) :
    ∃ p, e.build entry = .error p ∧ p.IsRefusal := by
  have hfails : FailsOnly (e.build entry) Problem.IsRefusal := by
    refine failsOnly_build (fun _ hp => hp) fun ha hc i hi => ?_
    have htable : i.table = [] := by
      rw [Option.mem_def] at hi
      simpa [checked, ha, hc, hi, InsertEntry.checked, eq_comm] using h
    unfold InsertEntry.build
    dsimp only
    rw [if_pos (by simp [htable])]
    exact .error (Problem.isRefusal_missing _ _ _)
  cases hbuild : e.build entry with
  | ok s => exact absurd rfl ((named_of_build hbuild).1 [] h)
  | error p => exact ⟨p, rfl, hfails p hbuild⟩

/-! ### Documents -/

lemma exists_readEntries_of_parse_ok {bytes : Text} {ss : List Statement}
    (h : parse bytes = .ok ss) : ∃ entries, readEntries bytes = .ok entries := by
  unfold parse at h
  split at h
  · cases h
  · exact ⟨_, ‹_›⟩

/-- The statements of a document have all names that are checked: a document whose first bad entry
leaves one out is refused. The other names and texts are taken as they are given, so a statement has
a blank part exactly if its entry gives an empty text for one of them. -/
theorem parse_named_iff {bytes : Text} {entries : List StatementEntry}
    (h : readEntries bytes = .ok entries) :
    (∀ ss, parse bytes = .ok ss → List.Forall₂ (fun e s => (∀ t ∈ e.checked, t ≠ []) ∧
      (s.Named ↔ ∀ t, e.Unchecked t → t ≠ [])) entries ss) ∧
    ∀ before e after, entries = before ++ e :: after → (∀ d ∈ before, ∃ s, d.Gives s) →
      [] ∈ e.checked → ∃ p, parse bytes = .error p ∧ p.IsRefusal := by
  rw [parse_eq_buildFrom h]
  constructor
  · intro ss hss
    refine (buildFrom_eq_ok_iff.mp hss).imp ?_
    intro e s hs
    exact StatementEntry.named_of_build (hs 0)
  · intro before e after hsplit hbefore hchecked
    obtain ⟨p, hp, hrefusal⟩ := StatementEntry.refused_of_checked hchecked (0 + before.length)
    exact ⟨p, buildFrom_eq_error_iff.mpr ⟨before, e, after, hsplit, hbefore, hp⟩, hrefusal⟩

def dottedDocument : Text :=
  "statements: [\x7balter_table: \x7btable: k.t, drop: [a]\x7d\x7d, "
    ++ "\x7binsert: \x7btable: k., columns: [a], values: [\x7bfunc: now\x7d]\x7d\x7d]"

def tablelessDocument : Text :=
  "statements: [\x7binsert: \x7bcolumns: [a], json: x\x7d\x7d]"

theorem parse_named_iff_dotted :
    (∃ entries s s', readEntries dottedDocument = .ok entries ∧
      parse dottedDocument = .ok [s, s'] ∧ s.Named ∧ ¬ s'.Named ∧
      List.Forall₂ (fun e s => (∀ t ∈ e.checked, t ≠ []) ∧
        (s.Named ↔ ∀ t, e.Unchecked t → t ≠ [])) entries [s, s']) ∧
    ∃ e p, readEntries tablelessDocument = .ok [e] ∧ [] ∈ e.checked ∧
      parse tablelessDocument = .error p ∧ p.IsRefusal := by
  constructor
  · have hnamed : (parse dottedDocument).toOption.map (List.map fun s => decide s.Named)
        = some [true, false] := by decide +kernel
    obtain ⟨ss, hparse, hss⟩ := exists_eq_ok_of_toOption hnamed
    obtain ⟨entries, hread⟩ := exists_readEntries_of_parse_ok hparse
    obtain ⟨s, rest, rfl, hs, hrest⟩ := List.map_eq_cons_iff.mp hss
    obtain ⟨s', rfl, hs'⟩ := List.map_eq_singleton_iff.mp hrest
    exact ⟨entries, s, s', hread, hparse, of_decide_eq_true hs, of_decide_eq_false hs',
      (parse_named_iff hread).1 _ hparse⟩
  · have hchecked : (readEntries tablelessDocument).toOption.map (List.map StatementEntry.checked)
        = some [[[]]] := by decide +kernel
    obtain ⟨entries, hread, hentries⟩ := exists_eq_ok_of_toOption hchecked
    obtain ⟨e, rfl, he⟩ := List.map_eq_singleton_iff.mp hentries
    have hempty : [] ∈ e.checked := by simp [he]
    obtain ⟨p, hp, hrefusal⟩ := (parse_named_iff hread).2 [] e [] rfl (by simp) hempty
    exact ⟨e, p, hread, hempty, hp, hrefusal⟩

/-- A document of a statement that drops a column without a name. -/
def namelessDrop : Text :=
  "statements: [\x7balter_table: \x7btable: t, drop: ['']\x7d\x7d]"

/-- A document of a statement with a dot for a table, a function of the wrong shape and an empty
constant. -/
def namelessRow : Text :=
  "statements: [\x7binsert: \x7btable: ., "
    ++ "values: [\x7bfunc: [now]\x7d, \x7bconst: ''\x7d]\x7d\x7d]"

lemma exists_blank_of_toOption {doc : Text}
    (h : (parse doc).toOption.map (List.map fun s => decide s.Named) = some [false]) :
    ∃ s, parse doc = .ok [s] ∧ ¬ s.Named := by
  obtain ⟨ss, hparse, hss⟩ := exists_eq_ok_of_toOption h
  obtain ⟨s, rfl, hs⟩ := List.map_eq_singleton_iff.mp hss
  exact ⟨s, hparse, of_decide_eq_false hs⟩

/-- A document may be accepted and give a statement with a blank part. -/
theorem parse_nameless : (∃ s, parse namelessDrop = .ok [s] ∧ ¬ s.Named) ∧
    ∃ s, parse namelessRow = .ok [s] ∧ ¬ s.Named := by
  constructor
  · apply exists_blank_of_toOption
    decide +kernel
  · apply exists_blank_of_toOption
    decide +kernel

end Document

end CqlWriter
