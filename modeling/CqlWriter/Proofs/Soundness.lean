import Mathlib
import CqlWriter.Document.Build
import CqlWriter.Statement.Node
import CqlWriter.Proofs.InsertText
import CqlWriter.Proofs.OperandMaking

/-!
# Soundness of statements from a document

A statement may have holes: places where a part is absent. The statements of a document have none
where a part has to be, at any depth. So a rendering that stops at an absent part gives their whole
texts, and a walk through them meets no absent child.
-/

namespace CqlWriter

/-! ### Sound statements -/

/-- No part of the operand is absent, at any depth. The elements of a list or a set have no keys,
those of a map have keys and values, and there are no other kinds of collections. -/
inductive Operand.Sound : Operand → Prop
  | const (text : Text) : Sound (.const text)
  | param (name : Text) : Sound (.param name)
  | column (name : Identifier) : Sound (.column name)
  | null : Sound .null
  | call {name : Text} {args : List Operand} : (∀ o ∈ args, Sound o) → Sound (.call name args)
  | tuple {elements : List Operand} : (∀ o ∈ elements, Sound o) → Sound (.tuple elements)
  | keyless {kind : CollectionKind} {elements : List (Operand × Operand)} :
      kind = .list ∨ kind = .set → (∀ e ∈ elements, e.1 = .hole) → (∀ e ∈ elements, Sound e.2) →
        Sound (.collection kind elements)
  | map {elements : List (Operand × Operand)} :
      (∀ e ∈ elements, Sound e.1) → (∀ e ∈ elements, Sound e.2) →
        Sound (.collection .map elements)

/-- The row is there, and its operands are sound. -/
def InsertValues.Sound : InsertValues → Prop
  | hole => False
  | operands values => ∀ v ∈ values, v.Sound
  | json _ => True

/-- The alteration is there, and so is each of its options. -/
def Alteration.Sound : Alteration → Prop
  | hole => False
  | options items => ∀ i ∈ items, i ≠ .hole
  | _ => True

/-- The kind of the batch is one of the three, the row is sound, and the USING clause has a text. -/
structure Insert.Sound (i : Insert) : Prop where
  batch : ∀ b ∈ i.batch, b.WellFormed
  values : i.values.Sound
  usage : ∀ u ∈ i.usage, u.cql ≠ []

/-- No part of the statement is absent. -/
def Statement.Sound : Statement → Prop
  | alterTable a => a.alteration.Sound
  | createIndex c => c.target ≠ .hole
  | insert i => i.Sound

/-! ### Rendering -/

namespace Operand

mutual

/-- The text of an operand, if no part of it is absent. -/
def render? : Operand → Option Text
  | hole => none
  | call name args => (renderList? args).map fun ts => name ++ "(" ++ Text.join ", " ts ++ ")"
  | tuple elements => (renderList? elements).map fun ts => "(" ++ Text.join ", " ts ++ ")"
  | collection kind elements => (renderElements? kind elements).map (collectionCql kind)
  | o => some o.cql

def renderList? : List Operand → Option (List Text)
  | [] => some []
  | o :: os => do
    let text ← render? o
    let texts ← renderList? os
    pure (text :: texts)

/-- The texts of the elements of a collection, if no part of them is absent. An element of a map has
to have a key. -/
def renderElements? (kind : CollectionKind) : List (Operand × Operand) → Option (List Text)
  | [] => some []
  | (k, v) :: es => do
    let value ← render? v
    let text ← if kind = .map then (render? k).map (· ++ ": " ++ value) else some value
    let texts ← renderElements? kind es
    pure (text :: texts)

end

lemma renderList?_eq {os : List Operand} (h : ∀ o ∈ os, o.render? = some o.cql) :
    renderList? os = some (cqlList os) := by
  induction os with
  | nil => rfl
  | cons o os ih =>
    simp [renderList?, cqlList, h o (by simp), ih fun p hp => h p (by simp [hp])]

/-- Where there is no key, the values alone are written. -/
lemma renderElements?_keyless {kind : CollectionKind} (hkind : kind ≠ .map)
    {es : List (Operand × Operand)} (h : ∀ e ∈ es, e.2.render? = some e.2.cql) :
    renderElements? kind es = some (cqlElements kind es) := by
  induction es with
  | nil => rfl
  | cons e es ih =>
    simp [renderElements?, cqlElements, elementCql, hkind, h e (by simp),
      ih fun d hd => h d (by simp [hd])]

lemma eq_hole_of_isHole {o : Operand} (h : o.isHole = true) : o = hole := by
  cases o with
  | hole => rfl
  | const _ | param _ | column _ | call _ _ | tuple _ | collection _ _ | null => cases h

lemma Sound.isHole {o : Operand} (h : o.Sound) : o.isHole = false := by
  cases h <;> rfl

/-- In a map both keys and values are written. -/
lemma renderElements?_map {es : List (Operand × Operand)}
    (hkeys : ∀ e ∈ es, e.1.isHole = false ∧ e.1.render? = some e.1.cql)
    (hvalues : ∀ e ∈ es, e.2.render? = some e.2.cql) :
    renderElements? .map es = some (cqlElements .map es) := by
  induction es with
  | nil => rfl
  | cons e es ih =>
    obtain ⟨hhole, hkey⟩ := hkeys e (by simp)
    simp [renderElements?, cqlElements, elementCql, hhole, hkey, hvalues e (by simp),
      ih (fun d hd => hkeys d (by simp [hd])) fun d hd => hvalues d (by simp [hd])]

/-- A sound operand has a text, and it is the one that is printed. -/
lemma Sound.render?_eq {o : Operand} (h : o.Sound) : o.render? = some o.cql := by
  induction h with
  | const _ | param _ | column _ | null => rfl
  | call _ ih =>
    rw [render?, renderList?_eq ih, cql]
    rfl
  | tuple _ ih =>
    rw [render?, renderList?_eq ih, cql]
    rfl
  | keyless hkind _ _ ih =>
    rw [render?, renderElements?_keyless (by rintro rfl; simp at hkind) ih, cql]
    rfl
  | map hkeys _ ihKeys ihValues =>
    rw [render?, renderElements?_map (fun e he => ⟨(hkeys e he).isHole, ihKeys e he⟩) ihValues, cql]
    rfl

end Operand

namespace Statement

def renderRow? : InsertValues → Option Text
  | .hole => none
  | .operands values =>
    (Operand.renderList? values).map fun ts => "VALUES (" ++ Text.join ", " ts ++ ")"
  | .json text => some ("JSON " ++ text)

def renderItem? : WithItem → Option Text
  | .hole => none
  | item => some item.cql

/-- The text of an alteration, if no part of it is absent. -/
def renderAlteration? : Alteration → Option Text
  | .hole => none
  | .options items => (items.mapM renderItem?).map fun ts => "WITH " ++ Text.join " AND " ts
  | alteration => some alteration.cql

/-- The text of a statement, if no part of it is absent. -/
def render? : Statement → Option Text
  | alterTable a =>
    (renderAlteration? a.alteration).map fun t => "ALTER TABLE " ++ a.table.cql ++ " " ++ t
  | createIndex c => if c.target = .hole then none else some c.cql
  | insert i =>
    (renderRow? i.values).map fun t =>
      i.opening ++ "INSERT INTO " ++ i.table.cql ++ " ("
        ++ Text.join ", " (i.columns.map Identifier.cql) ++ ") " ++ t ++ i.ending

lemma renderAlteration?_eq {a : Alteration} (h : a.Sound) : renderAlteration? a = some a.cql := by
  cases a with
  | hole => exact h.elim
  | add _ | drop _ | dropCompactStorage | rename _ _ => rfl
  | options items =>
    have hitem : ∀ i ∈ items, renderItem? i = pure i.cql := by
      intro i hi
      cases i with
      | hole => exact absurd rfl (h _ hi)
      | property _ _ | clusteringOrder _ | id _ | compactStorage => rfl
    have hitems : items.mapM renderItem? = some (items.map WithItem.cql) := by
      rw [mapM_congr hitem, List.mapM_pure]
      rfl
    rw [renderAlteration?, hitems, Alteration.cql]
    rfl

/-- A sound statement has a text, and it is the one that is printed. -/
lemma Sound.render?_eq {s : Statement} (h : s.Sound) : s.render? = some s.cql := by
  cases s with
  | alterTable a =>
    rw [render?, renderAlteration?_eq h]
    rfl
  | createIndex c =>
    rw [render?, if_neg h]
    rfl
  | insert i =>
    have hrow : renderRow? i.values = some i.values.cql := by
      have hvalues := h.values
      cases hi : i.values with
      | hole =>
        rw [hi] at hvalues
        exact hvalues.elim
      | operands values =>
        rw [hi] at hvalues
        rw [renderRow?, Operand.renderList?_eq fun v hv => (hvalues v hv).render?_eq]
        rfl
      | json text => rfl
    rw [render?, hrow, cql, Insert.cql_eq]
    simp only [Option.map_some, List.append_assoc]
    rfl

end Statement

/-! ### Walking -/

namespace Statement.Node

def isHole : Statement.Node → Bool
  | alteration .hole | indexTarget .hole | insertValues .hole | withItem .hole
  | operand .hole => true
  | _ => false

/-- The places for the elements of a collection. An element of a list or a set has none for a key
that it does not have. -/
def elementSlots (kind : CollectionKind) (e : Operand × Operand) : List Statement.Node :=
  if e.1.isHole && (kind = .list || kind = .set) then [operand e.2] else [operand e.1, operand e.2]

/-- The children of a node that a walk knows, in order, holes included. It knows none of a
clustering order, whose columns are not met. -/
def slots : Statement.Node → List Statement.Node
  | statement (.alterTable a) => [tableName a.table, alteration a.alteration]
  | statement (.createIndex c) =>
    (c.name.map identifier).toList ++ [tableName c.table, indexTarget c.target]
  | statement (.insert i) =>
    (i.batch.map batch).toList ++ tableName i.table :: i.columns.map identifier
      ++ insertValues i.values :: (i.usage.map usage).toList
  | alteration (.add columns) => columns.map columnDefinition
  | alteration (.drop columns) => columns.map identifier
  | alteration (.rename source target) => [identifier source, identifier target]
  | alteration (.options items) => items.map withItem
  | indexTarget (.column _ name) => [identifier name]
  | insertValues (.operands values) => values.map operand
  | tableName t => (t.keyspace.map identifier).toList ++ [identifier t.name]
  | columnDefinition c => [identifier c.name, dataType c.type]
  | operand (.column name) => [identifier name]
  | operand (.call _ args) => args.map operand
  | operand (.tuple elements) => elements.map operand
  | operand (.collection kind elements) => elements.flatMap (elementSlots kind)
  | _ => []

lemma flatMap_forest_identifier (is : List Identifier) :
    (is.map identifier).flatMap forest = is.map Identifier.tree := by
  rw [List.flatMap_map, List.map_eq_flatMap]
  rfl

lemma forestList_eq (os : List Operand) :
    Operand.forestList os = (os.map operand).flatMap forest := by
  induction os with
  | nil => rfl
  | cons o os ih =>
    rw [Operand.forestList, ih]
    rfl

/-- The trees of the elements are those of their slots: a key that is absent has no tree. -/
lemma forestElements_eq (kind : CollectionKind) (es : List (Operand × Operand)) :
    Operand.forestElements es = (es.flatMap (elementSlots kind)).flatMap forest := by
  induction es with
  | nil => rfl
  | cons e es ih =>
    have helement : (elementSlots kind e).flatMap forest = e.1.forest ++ e.2.forest := by
      unfold elementSlots
      split_ifs with hhole
      · -- a key that is absent has no tree
        have hkey := Operand.eq_hole_of_isHole (Bool.and_eq_true_iff.mp hhole).1
        simp [forest, hkey, Operand.forest]
      · simp [forest]
    rw [Operand.forestElements, ih, List.flatMap_cons, List.flatMap_append, helement]

/-- The tree of a node goes on below the node with the trees of its children. -/
lemma forest_eq {n : Statement.Node} (h : n.isHole = false) :
    n.forest = [.node n (n.slots.flatMap forest)] := by
  cases n with
  | statement s =>
    cases s with
    | alterTable a => simp [forest, tree, children, slots]
    | createIndex c => cases hc : c.name <;> simp [forest, tree, children, slots, hc]
    | insert i =>
      cases hbatch : i.batch <;> cases husage : i.usage <;>
        simp [forest, tree, children, slots, hbatch, husage, ← flatMap_forest_identifier]
  | alteration a =>
    cases a with
    | hole => cases h
    | add columns =>
      rw [slots, List.flatMap_map]
      simp [forest, Alteration.forest, List.map_eq_flatMap]
    | drop columns =>
      rw [slots, flatMap_forest_identifier]
      rfl
    | options items =>
      rw [slots, List.flatMap_map]
      rfl
    | dropCompactStorage | rename _ _ => rfl
  | indexTarget t =>
    cases t with
    | hole => cases h
    | column kind name => rfl
  | insertValues v =>
    cases v with
    | hole => cases h
    | operands values =>
      rw [slots, ← forestList_eq]
      rfl
    | json text => rfl
  | withItem w =>
    cases w with
    | hole => cases h
    | property _ _ | clusteringOrder _ | id _ | compactStorage => rfl
  | tableName t => cases ht : t.keyspace <;> simp [forest, TableName.tree, slots, ht]
  | operand o =>
    cases o with
    | hole => cases h
    | call name args | tuple args =>
      rw [slots, ← forestList_eq]
      rfl
    | collection kind elements =>
      rw [slots, ← forestElements_eq]
      rfl
    | const _ | param _ | column _ | null => rfl
  | columnDefinition _ | batch _ | usage _ | identifier _ | dataType _ => rfl

/-- No part of the node is absent. -/
def Sound : Statement.Node → Prop
  | statement s => s.Sound
  | alteration a => a.Sound
  | indexTarget t => t ≠ .hole
  | insertValues v => v.Sound
  | withItem w => w ≠ .hole
  | operand o => o.Sound
  | _ => True

lemma Sound.isHole {n : Statement.Node} (h : n.Sound) : n.isHole = false := by
  cases n with
  | alteration a =>
    cases a with
    | hole => exact h.elim
    | add _ | drop _ | dropCompactStorage | rename _ _ | options _ => rfl
  | indexTarget t =>
    cases t with
    | hole => exact absurd rfl h
    | column _ _ => rfl
  | insertValues v =>
    cases v with
    | hole => exact h.elim
    | operands _ | json _ => rfl
  | withItem w =>
    cases w with
    | hole => exact absurd rfl h
    | property _ _ | clusteringOrder _ | id _ | compactStorage => rfl
  | operand o => cases h <;> rfl
  | statement _ | batch _ | usage _ | identifier _ | tableName _ | columnDefinition _
  | dataType _ => rfl

/-- The slots of a sound collection hold sound parts. -/
lemma sound_of_mem_elementSlots {kind : CollectionKind} {elements : List (Operand × Operand)}
    (h : (Operand.collection kind elements).Sound) {e : Operand × Operand} (he : e ∈ elements)
    {c : Statement.Node} (hc : c ∈ elementSlots kind e) : c.Sound := by
  unfold elementSlots at hc
  cases h with
  | keyless hkind hkeys hvalues =>
    have hkeyless : (e.1.isHole && (kind = .list || kind = .set)) = true := by
      rw [hkeys e he]
      simpa [Operand.isHole] using hkind
    rw [if_pos hkeyless, List.mem_singleton] at hc
    subst hc
    exact hvalues e he
  | map hkeys hvalues =>
    rw [if_neg (by simp), List.mem_pair] at hc
    rcases hc with rfl | rfl
    · exact hkeys e he
    · exact hvalues e he

/-- The children of a sound node are sound. -/
lemma Sound.of_mem_slots {n c : Statement.Node} (h : n.Sound) (hc : c ∈ n.slots) : c.Sound := by
  cases n with
  | statement s =>
    cases s with
    | alterTable a =>
      rcases List.mem_pair.mp hc with rfl | rfl
      · trivial
      · exact h
    | createIndex c =>
      simp only [slots, List.mem_append, Option.mem_toList, Option.map_eq_some_iff,
        List.mem_pair] at hc
      rcases hc with ⟨name, -, rfl⟩ | rfl | rfl
      · trivial
      · trivial
      · exact h
    | insert i =>
      simp only [slots, List.mem_append, List.mem_cons, List.mem_map, Option.mem_toList,
        Option.map_eq_some_iff] at hc
      rcases hc with (⟨b, -, rfl⟩ | rfl | ⟨name, -, rfl⟩) | rfl | ⟨u, -, rfl⟩
      · trivial
      · trivial
      · trivial
      · exact h.values
      · trivial
  | alteration a =>
    cases a with
    | hole | dropCompactStorage => cases hc
    | add columns | drop columns =>
      obtain ⟨column, -, rfl⟩ := List.mem_map.mp hc
      trivial
    | rename source target => rcases List.mem_pair.mp hc with rfl | rfl <;> trivial
    | options items =>
      obtain ⟨item, hitem, rfl⟩ := List.mem_map.mp hc
      exact h item hitem
  | indexTarget t =>
    cases t with
    | hole => cases hc
    | column kind name =>
      rw [slots, List.mem_singleton] at hc
      subst hc
      trivial
  | insertValues v =>
    cases v with
    | hole | json _ => cases hc
    | operands values =>
      obtain ⟨v, hv, rfl⟩ := List.mem_map.mp hc
      exact h v hv
  | operand o =>
    cases o with
    | column name =>
      rw [slots, List.mem_singleton] at hc
      subst hc
      trivial
    | call name args =>
      obtain ⟨o, ho, rfl⟩ := List.mem_map.mp hc
      cases h with
      | call hargs => exact hargs o ho
    | tuple elements =>
      obtain ⟨o, ho, rfl⟩ := List.mem_map.mp hc
      cases h with
      | tuple helements => exact helements o ho
    | collection kind elements =>
      obtain ⟨e, he, hc⟩ := List.mem_flatMap.mp hc
      exact sound_of_mem_elementSlots h he hc
    | hole | const _ | param _ | null => cases hc
  | tableName t =>
    simp only [slots, List.mem_append, Option.mem_toList, Option.map_eq_some_iff,
      List.mem_singleton] at hc
    rcases hc with ⟨name, -, rfl⟩ | rfl <;> trivial
  | columnDefinition c => rcases List.mem_pair.mp hc with rfl | rfl <;> trivial
  | withItem _ | batch _ | usage _ | identifier _ | dataType _ => cases hc

/-- Every node that is met on a walk through the trees of sound nodes is sound. -/
lemma sound_of_mem_walkAll (descend : Statement.Node → Bool) (ts : List (Tree Statement.Node)) :
    ∀ ns : List Statement.Node, ts = ns.flatMap forest → (∀ n ∈ ns, n.Sound) →
      ∀ m ∈ Tree.walkAll descend ts, m.Sound := by
  -- the walk is through trees, so the nodes that they are the trees of are carried along
  refine Tree.walkAll.induct
    (fun t => ∀ n : Statement.Node, [t] = n.forest → n.Sound → ∀ m ∈ Tree.walk descend t, m.Sound)
    (fun ts => ∀ ns : List Statement.Node, ts = ns.flatMap forest → (∀ n ∈ ns, n.Sound) →
      ∀ m ∈ Tree.walkAll descend ts, m.Sound) ?node ?nil ?cons ts
  case node =>
    intro a children ih n hforest hn m hm
    rw [forest_eq hn.isHole] at hforest
    cases hforest
    rw [Tree.walk] at hm
    rcases List.mem_cons.mp hm with rfl | hm
    · exact hn
    · split at hm
      · exact ih a.slots rfl (fun c hc => hn.of_mem_slots hc) m hm
      · cases hm
  case nil =>
    intro ns _ _ m hm
    cases hm
  case cons =>
    intro t ts ih ihAll ns hns hsound m hm
    cases ns with
    | nil => cases hns
    | cons n ns =>
      have hn := hsound n (by simp)
      rw [List.flatMap_cons, forest_eq hn.isHole, List.singleton_append] at hns
      obtain ⟨ht, hts⟩ := List.cons.inj hns
      rw [Tree.walkAll] at hm
      rcases List.mem_append.mp hm with hm | hm
      · exact ih n (by rw [forest_eq hn.isHole, ht]) hn m hm
      · exact ihAll ns hts (fun k hk => hsound k (by simp [hk])) m hm

/-- No node that is met on a walk from a sound node has an absent child. -/
lemma Sound.isHole_of_mem_slots {root n c : Statement.Node} (h : root.Sound)
    {descend : Statement.Node → Bool} (hn : n ∈ root.walk descend) (hc : c ∈ n.slots) :
    c.isHole = false := by
  have hsound := sound_of_mem_walkAll descend root.forest [root] (by simp) (by simpa using h) n hn
  exact (hsound.of_mem_slots hc).isHole

end Statement.Node

/-! ### Operands of a document -/

namespace Document

/-- Whatever the grammar spells is sound. The induction is on the grammar. -/
lemma Spells.sound {n : Yaml.Node} {o : Operand} (h : Spells n o) : o.Sound := by
  induction h with
  | leaf h =>
    cases h with
    | null _ => exact .null
    | string _ _ | truth _ | integer _ _ _ | real _ _ _ | const _ => exact .const _
    | param _ => exact .param _
    | column _ => exact .column _
    | call _ => exact .call (by simp)
  | elements h hlength _ ih =>
    have hsound := forall_of_zip hlength ih
    cases h with
    | tuple _ _ => exact .tuple hsound
    | list _ _ => exact .keyless (.inl rfl) (by simp) (by simpa using hsound)
    | set _ _ => exact .keyless (.inr rfl) (by simp) (by simpa using hsound)
    | call _ _ => exact .call hsound
  | entries h hlength _ _ _ ihKey ihValue =>
    exact .map (forall_of_zip hlength ihKey) (forall_of_zip hlength ihValue)

/-! ### Statements of a document -/

lemma WithEntry.ne_hole_of_build {entry : Nat} {w : WithEntry} {item : WithItem}
    (h : w.build entry = .ok item) : item ≠ .hole := by
  have hitems : ∀ i ∈ w.items, i ≠ .hole := by
    intro i hi
    simp only [items, List.mem_append, Option.mem_toList, Option.map_eq_some_iff] at hi
    rcases hi with ((⟨p, -, rfl⟩ | ⟨os, -, rfl⟩) | ⟨t, -, rfl⟩) | hi
    · simp
    · simp
    · simp
    · split at hi
      · simp_all
      · cases hi
  unfold build at h
  split at h
  · rename_i hone
    cases h
    exact hitems item (by simp [hone])
  · cases h

/-- What is made of a value that may be left out is made of the value. -/
lemma exists_of_mem_given {α β : Type} {value : Option α} {build : α → Except Problem β}
    {xs : List β} (h : given value build = .ok xs) {x : β} (hx : x ∈ xs) :
    ∃ a, build a = .ok x := by
  cases value with
  | none =>
    cases h
    cases hx
  | some a =>
    obtain ⟨y, hy, hpure⟩ := bind_eq_ok_iff.mp h
    cases hpure
    rw [List.mem_singleton] at hx
    subst hx
    exact ⟨a, hy⟩

/-- Every alteration that is made is there, and so are its options. -/
lemma AlterTableEntry.sound_of_alterations {entry : Nat} {a : AlterTableEntry}
    {alterations : List Alteration} (h : a.alterations entry = .ok alterations) :
    ∀ x ∈ alterations, x.Sound := by
  obtain ⟨added, hadded, h⟩ := bind_eq_ok_iff.mp h
  obtain ⟨dropped, hdropped, h⟩ := bind_eq_ok_iff.mp h
  obtain ⟨renamed, hrenamed, h⟩ := bind_eq_ok_iff.mp h
  obtain ⟨options, hoptions, h⟩ := bind_eq_ok_iff.mp h
  cases h
  intro x hx
  simp only [List.mem_append] at hx
  rcases hx with (((hx | hx) | hx) | hx) | hx
  · obtain ⟨cs, hcs⟩ := exists_of_mem_given hadded hx
    obtain ⟨columns, -, hpure⟩ := bind_eq_ok_iff.mp hcs
    cases hpure
    trivial
  · obtain ⟨names, hnames⟩ := exists_of_mem_given hdropped hx
    cases hnames
    trivial
  · split at hx
    · rw [List.mem_singleton] at hx
      subst hx
      trivial
    · cases hx
  · obtain ⟨r, hr⟩ := exists_of_mem_given hrenamed hx
    unfold RenameEntry.build at hr
    split at hr
    · cases hr
    · cases hr
      trivial
  · obtain ⟨ws, hws⟩ := exists_of_mem_given hoptions hx
    obtain ⟨items, hitems, hpure⟩ := bind_eq_ok_iff.mp hws
    cases hpure
    exact forall_of_mapM hitems fun w i hi => WithEntry.ne_hole_of_build hi

lemma AlterTableEntry.sound_of_build {entry : Nat} {a : AlterTableEntry} {s : AlterTable}
    (h : a.build entry = .ok s) : s.alteration.Sound := by
  unfold build at h
  split at h
  · cases h
  · obtain ⟨alterations, halterations, h⟩ := bind_eq_ok_iff.mp h
    split at h
    · cases h
      exact sound_of_alterations halterations _ (by simp)
    · cases h

lemma CreateIndexEntry.ne_hole_of_build {entry : Nat} {c : CreateIndexEntry} {s : CreateIndex}
    (h : c.build entry = .ok s) : s.target ≠ .hole := by
  unfold build at h
  cases hkind : indexKinds.lookup c.column.kind.lower with
  | none =>
    rw [hkind] at h
    dsimp only at h
    split_ifs at h <;> cases h
  | some kind =>
    rw [hkind] at h
    dsimp only at h
    split_ifs at h <;> cases h <;> simp

lemma BatchEntry.wellFormed_of_build {entry : Nat} {b : BatchEntry} {s : Batch}
    (h : b.build entry = .ok s) : s.WellFormed := by
  have hkinds : ∀ p ∈ batchKinds, p.2 = .logged ∨ p.2 = .unlogged ∨ p.2 = .counter := by decide
  unfold build at h
  split at h
  · rename_i kind hkind
    cases h
    obtain ⟨before, after, hlist, -⟩ := List.lookup_eq_some_iff.mp hkind
    exact hkinds (b.kind.lower, kind) (by simp [hlist])
  · cases h

lemma InsertEntry.sound_of_row {entry : Nat} {i : InsertEntry} {values : InsertValues}
    (h : i.row entry = .ok values) : values.Sound := by
  unfold row at h
  split at h
  · cases h
  · cases h
    trivial
  · obtain ⟨operands, hoperands, hpure⟩ := bind_eq_ok_iff.mp h
    cases hpure
    exact forall_of_mapM hoperands fun n o ho => (spells_of_operand ho).sound
  · cases h

/-- The USING clause of a row that is written for a time or at a time. -/
lemma usage_cql_ne_nil {ttl timestamp : Option UInt64}
    (h : (ttl.isSome || timestamp.isSome) = true) : (⟨ttl, timestamp⟩ : Usage).cql ≠ [] := by
  have hsets : (⟨ttl, timestamp⟩ : Usage).WellFormed := by
    simpa [Usage.WellFormed] using h
  rw [hsets.cql_eq]
  exact List.cons_ne_nil _ _

/-- An insertion that is made is sound. It has a USING clause only if there is something to set. -/
lemma InsertEntry.sound_of_build {entry : Nat} {i : InsertEntry} {s : Insert}
    (h : i.build entry = .ok s) :
    s.Sound ∧ (s.usage.isSome = true ↔ i.ttl.isSome = true ∨ i.timestamp.isSome = true) := by
  unfold build at h
  dsimp only at h
  by_cases htable : i.table.isEmpty = true
  · rw [if_pos htable] at h
    cases h
  · rw [if_neg htable] at h
    obtain ⟨values, hvalues, h⟩ := bind_eq_ok_iff.mp h
    obtain ⟨batch, hbatch, h⟩ := bind_eq_ok_iff.mp h
    cases h
    refine ⟨⟨fun b hb => ?_, sound_of_row hvalues, fun u hu => ?_⟩, ?_⟩
    · cases hentry : i.batch with
      | none =>
        rw [hentry] at hbatch
        cases hbatch
        cases hb
      | some e =>
        rw [hentry] at hbatch
        obtain ⟨b', hb', hpure⟩ := bind_eq_ok_iff.mp hbatch
        cases hpure
        cases hb
        exact BatchEntry.wellFormed_of_build hb'
    · split at hu
      · cases hu
        exact usage_cql_ne_nil ‹_›
      · cases hu
    · split
      · simp_all
      · simp_all

/-- The statement is an INSERT statement only if the entry is one, and its USING clause is there
exactly if the entry gives a lifetime or a time stamp. -/
def UsageGiven (e : StatementEntry) : Statement → Prop
  | .insert i => ∃ given, e.insert = some given ∧
      (i.usage.isSome = true ↔ given.ttl.isSome = true ∨ given.timestamp.isSome = true)
  | _ => True

lemma StatementEntry.sound_of_build {entry : Nat} {e : StatementEntry} {s : Statement}
    (h : e.build entry = .ok s) : s.Sound ∧ UsageGiven e s := by
  unfold build at h
  split at h
  · cases h
  · obtain ⟨a, ha, hpure⟩ := bind_eq_ok_iff.mp h
    cases hpure
    exact ⟨AlterTableEntry.sound_of_build ha, trivial⟩
  · obtain ⟨c, hc, hpure⟩ := bind_eq_ok_iff.mp h
    cases hpure
    exact ⟨CreateIndexEntry.ne_hole_of_build hc, trivial⟩
  · rename_i given _ _ hgiven
    obtain ⟨i, hi, hpure⟩ := bind_eq_ok_iff.mp h
    cases hpure
    obtain ⟨hsound, husage⟩ := InsertEntry.sound_of_build hi
    exact ⟨hsound, given, hgiven, husage⟩
  · cases h

/-- The statements of a document are sound, each for its entry. -/
lemma sound_of_buildFrom {entry : Nat} {es : List StatementEntry} {ss : List Statement}
    (h : buildFrom entry es = .ok ss) :
    List.Forall₂ (fun e s => s.Sound ∧ UsageGiven e s) es ss := by
  induction es generalizing entry ss with
  | nil =>
    cases h
    exact .nil
  | cons e es ih =>
    obtain ⟨s, hs, h⟩ := bind_eq_ok_iff.mp h
    obtain ⟨rest, hrest, hpure⟩ := bind_eq_ok_iff.mp h
    cases hpure
    exact .cons (StatementEntry.sound_of_build hs) (ih hrest)

/-- Every statement of a document is sound, and the USING clause of an INSERT statement is there
exactly if its entry asks for one. So no part is absent where a rendering needs it or where a walk
would meet it. -/
theorem sound_of_parse {bytes : Text} {ss : List Statement} (h : parse bytes = .ok ss) :
    (∃ es, readEntries bytes = .ok es ∧
        List.Forall₂ (fun e s => s.Sound ∧ UsageGiven e s) es ss) ∧
      ∀ s ∈ ss, s.render? = some s.cql ∧
        ∀ descend, ∀ n ∈ (Statement.Node.statement s).walk descend, ∀ c ∈ n.slots,
          c.isHole = false := by
  unfold parse at h
  split at h
  · cases h
  · rename_i es hes
    have hsound := sound_of_buildFrom h
    refine ⟨⟨es, hes, hsound⟩, fun s hs => ?_⟩
    obtain ⟨hlength, hzip⟩ := List.forall₂_iff_zip.mp hsound
    have hs : s.Sound := forall_of_zip hlength (fun hm => (hzip hm).1) s hs
    have hnode : (Statement.Node.statement s).Sound := hs
    exact ⟨hs.render?_eq, fun descend n hn c hc => hnode.isHole_of_mem_slots hn hc⟩

def oneRow : Text :=
  "\x7bstatements: [\x7binsert: \x7btable: t, values: [\x7bset: [1]\x7d], ttl: 7\x7d\x7d]\x7d"

theorem sound_of_parse_oneRow :
    ∃ ss, parse oneRow = .ok ss ∧
      ss.map Statement.cql = ["INSERT INTO t () VALUES (\x7b1\x7d) USING TTL 7"] ∧
      ∀ s ∈ ss, s.render? = some s.cql ∧
        ∀ descend, ∀ n ∈ (Statement.Node.statement s).walk descend, ∀ c ∈ n.slots,
          c.isHole = false := by
  have htext : (parse oneRow).toOption.map (List.map Statement.cql)
      = some [Text.ofString "INSERT INTO t () VALUES (\x7b1\x7d) USING TTL 7"] := by
    decide +kernel
  cases hparse : parse oneRow with
  | error problem =>
    rw [hparse] at htext
    cases htext
  | ok ss =>
    rw [hparse] at htext
    exact ⟨ss, rfl, Option.some.inj htext, (sound_of_parse hparse).2⟩

end Document

end CqlWriter
