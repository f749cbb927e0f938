import Mathlib
import CqlWriter.Document.Build
import CqlWriter.Proofs.AliasTransparency
import CqlWriter.Proofs.EntryNumbers
import CqlWriter.Proofs.PartedReadings

/-!
# Aliases in the column of an index

The column of an index is written as a name, or as a mapping of a kind to a name. An alias of the
whole column stands for its copy. The key and the value inside the mapping are taken by their texts,
however, and the text of an alias is its own name.
-/

namespace CqlWriter

/-! ### Comparing nodes -/

namespace Yaml.Node

mutual

/-- Whether two nodes are the same. -/
def same : Node → Node → Bool
  | scalar l t x, scalar l' t' x' => l = l' && t = t' && x = x'
  | sequence l t ns, sequence l' t' ns' => l = l' && t = t' && sameList ns ns'
  | mapping l t es, mapping l' t' es' => l = l' && t = t' && samePairs es es'
  | reference l x none, reference l' x' none => l = l' && x = x'
  | reference l x (some n), reference l' x' (some n') => l = l' && x = x' && same n n'
  | _, _ => false

def sameList : List Node → List Node → Bool
  | [], [] => true
  | n :: ns, n' :: ns' => same n n' && sameList ns ns'
  | _, _ => false

def samePairs : List (Node × Node) → List (Node × Node) → Bool
  | [], [] => true
  | (k, v) :: es, (k', v') :: es' => same k k' && same v v' && samePairs es es'
  | _, _ => false

end

/-- Nodes that are compared as the same are equal. The induction goes over nodes, entries and lists
together. -/
lemma eq_of_same_all : (∀ n m, same n m = true → n = m) ∧
    (∀ es es', samePairs es es' = true → es = es') ∧
    ∀ ns ns', sameList ns ns' = true → ns = ns' := by
  refine same.mutual_induct _ _ _ ?_ ?_ ?_ ?_ ?_ ?_ ?_ ?_ ?_ ?_ ?_ ?_
  all_goals
    intros
    simp_all [same, sameList, samePairs]

/-- What a stream is composed to can be found out by computation. -/
lemma ofBytes_eq_of_same {bytes : Text} {root : Node}
    (h : (ofBytes bytes).toOption.any (·.any (·.same root)) = true) :
    ofBytes bytes = .ok (some root) := by
  cases hread : ofBytes bytes with
  | error failure => simp [hread, Except.toOption] at h
  | ok o =>
    cases o with
    | none => simp [hread, Except.toOption] at h
    | some n =>
      rw [hread] at h
      rw [eq_of_same_all.1 n root h]

end Yaml.Node

namespace Document

open Yaml Yaml.Decode

/-! ### Columns -/

/-- A node that is a name, or a mapping with one key. -/
inductive IsIndexColumn : Node → Prop
  | name {line : Nat} {tag : Tag} {text : Text} :
      tag ≠ .null → IsIndexColumn (.scalar line tag text)
  | kind {line : Nat} {tag : Tag} {k v : Node} :
      tag ≠ .null → IsIndexColumn (.mapping line tag [(k, v)])

/-- The column that a node shows. A key or value that is an alias shows its own name. -/
def columnOf : Node → IndexColumnEntry
  | .scalar _ _ text => ⟨"column", text⟩
  | .mapping _ _ [(k, v)] => ⟨k.text, v.text⟩
  | _ => {}

/-- The node is the other one or an alias of it. -/
def StandsFor (c n : Node) : Prop :=
  c = n ∨ ∃ line name, c = .reference line name (some n)

variable {n c : Node}

lemma IsIndexColumn.expanded (h : IsIndexColumn n) : IsIndexColumn n.expanded := by
  cases h with
  | name htag =>
    rw [Node.expanded]
    · exact .name htag
    all_goals simp
  | kind htag =>
    rw [Node.expanded, Node.expandedPairs, Node.expandedPairs]
    exact .kind htag

/-- A column is read as what it shows. -/
lemma IsIndexColumn.indexColumn_eq (h : IsIndexColumn n) :
    indexColumn n = pure (some (columnOf n)) := by
  cases h with
  | name htag =>
    rename_i line tag text
    cases tag with
    | null => exact absurd rfl htag
    | bool | int | float | str | timestamp | binary | merge | seq | map | other name => rfl
  | kind htag =>
    rename_i line tag k v
    cases tag with
    | null => exact absurd rfl htag
    | bool | int | float | str | timestamp | binary | merge | seq | map | other name => rfl

/-- A column is counted once when it is read. -/
lemma IsIndexColumn.follow_eq (h : IsIndexColumn n) :
    follow indexColumn n = (do count; pure (some (columnOf n))) := by
  have hplain : n.isReference = false := by
    cases h <;> rfl
  rw [follow_of_isReference hplain, h.indexColumn_eq]

/-- What is read for an alias of a column is counted twice, once as a copy. -/
lemma IsIndexColumn.run_copying_eq (h : IsIndexColumn n) (d : Decoding) :
    StateT.run (copying (follow indexColumn n)) d =
      if ({ d with nodes := d.nodes + 1, copies := d.copies + 1 } : Decoding).excessive then
        .error .malformed
      else .ok (some (columnOf n), { d with nodes := d.nodes + 1, copies := d.copies + 1 }) := by
  have hcounted : ({ d with depth := d.depth + 1 } : Decoding).counted
      = { d with nodes := d.nodes + 1, copies := d.copies + 1, depth := d.depth + 1 } := by
    simp [Decoding.counted]
  rw [run_copying, h.follow_eq, StateT.run_bind, run_count, hcounted]
  change (if Decoding.excessive { d with nodes := d.nodes + 1, copies := d.copies + 1 } then _
    else _) >>= _ >>= _ = _
  split <;> rfl

/-- The key and the value inside the column are no aliases. -/
def HasPlainParts (n : Node) : Prop :=
  ∀ line tag k v, n = .mapping line tag [(k, v)] → k.isReference = false ∧ v.isReference = false

lemma text_expanded {n : Node} (h : n.isReference = false) : n.expanded.text = n.text := by
  cases n with
  | scalar line tag text =>
    rw [Node.expanded]
    all_goals simp
  | sequence line tag items =>
    rw [Node.expanded]
    rfl
  | mapping line tag entries =>
    rw [Node.expanded]
    rfl
  | reference line name target => cases h

/-- Expanding a column whose parts are no aliases changes nothing about what it shows. -/
lemma IsIndexColumn.columnOf_expanded (h : IsIndexColumn n) (hparts : HasPlainParts n) :
    columnOf n.expanded = columnOf n := by
  cases h with
  | name _ =>
    rw [Node.expanded]
    all_goals simp
  | kind _ =>
    obtain ⟨hk, hv⟩ := hparts _ _ _ _ rfl
    rw [Node.expanded, Node.expandedPairs, Node.expandedPairs, columnOf, columnOf, text_expanded hk,
      text_expanded hv]

/-- Reading a column, or an alias of it, counts at most one alias more than reading another one. -/
lemma follow_indexColumn_parts {p : Prop} {n₀ : Node} (h₀ : IsIndexColumn n₀) (h : IsIndexColumn n)
    (hc : StandsFor c n) :
    Parts p (c ≠ n) (BothGive fun x y => x = columnOf n₀ ∧ y = columnOf n) (follow indexColumn n₀)
      (follow indexColumn c) := by
  intro d hd
  have hcounted : d.counted.Ahead p (c ≠ n) d.counted := (Decoding.Ahead.refl hd).counted
  left
  rw [h₀.follow_eq, StateT.run_bind, run_count]
  rcases hc with rfl | ⟨line, name, rfl⟩
  · rw [h.follow_eq, StateT.run_bind, run_count]
    split
    · exact .failed _
    · exact .given ⟨_, _, rfl, rfl, rfl, rfl⟩ hcounted List.nil_prefix
  · rw [follow, StateT.run_bind, run_count]
    cases hmany : d.counted.excessive with
    | true => exact .failed _
    | false =>
      have hne : Node.reference line name (some n) ≠ n := by
        rintro heq
        rw [← heq] at h
        cases h
      have hahead : d.counted.Ahead p (Node.reference line name (some n) ≠ n)
          { d.counted with nodes := d.counted.nodes + 1, copies := d.counted.copies + 1 } :=
        ⟨rfl, rfl, ⟨1, le_rfl, rfl, rfl, fun _ => hne⟩, hcounted.aliasless⟩
      change EndsAlike _ _ _ _ (.ok (some (columnOf n₀), d.counted))
        (StateT.run (copying (follow indexColumn n)) d.counted)
      rw [h.run_copying_eq]
      split
      · rename_i hmany'
        exact .excessive _ (hahead.of_excessive hmany hmany')
      · exact .given ⟨_, _, rfl, rfl, rfl, rfl⟩ hahead List.nil_prefix

/-! ### Entries that differ in the column -/

/-- The column is `x` in the first entry and `y` in the second, and the rest is the same. -/
def DifferIn (x y : IndexColumnEntry) (e e' : CreateIndexEntry) : Prop :=
  e.column = x ∧ e' = { e with column := y }

/-- The indexes of the statements differ in the column, and the rest is the same. -/
def IndexesDiffer (x y : IndexColumnEntry) (s s' : StatementEntry) : Prop :=
  ∃ e e', s.createIndex = some e ∧ s' = { s with createIndex := some e' } ∧ DifferIn x y e e'

section

variable {p q : Prop} (x y : IndexColumnEntry)

/-- No other field of an index looks at the column. -/
lemma createIndexRecord_putsRest : createIndexRecord.PutsAlike p q (DifferIn x y) ["column"] := by
  intro name put hname hlookup v hv a a' ha
  have hmem := Record.mem_fields hlookup
  simp only [createIndexRecord, List.mem_cons, Prod.mk.injEq, List.not_mem_nil, or_false] at hmem
  rcases hmem with ⟨-, rfl⟩ | ⟨-, rfl⟩ | ⟨-, rfl⟩ | ⟨rfl, -⟩
  · exact Field.of_lockstep flag_tame.steady (fun b e e' he => ⟨he.1, by rw [he.2]⟩) hv ha
  · exact Field.of_lockstep text_tame.steady (fun b e e' he => ⟨he.1, by rw [he.2]⟩) hv ha
  · exact Field.of_lockstep text_tame.steady (fun b e e' he => ⟨he.1, by rw [he.2]⟩) hv ha
  · exact absurd (by simp) hname

/-- No other field of a statement looks at the index. -/
lemma statementRecord_putsRest :
    statementRecord.PutsAlike p q (IndexesDiffer x y) ["create_index"] := by
  intro name put hname hlookup v hv a a' ha
  have hmem := Record.mem_fields hlookup
  simp only [statementRecord, List.mem_cons, Prod.mk.injEq, List.not_mem_nil, or_false] at hmem
  rcases hmem with ⟨-, rfl⟩ | ⟨rfl, -⟩ | ⟨-, rfl⟩
  · refine Field.of_lockstep (Tame.optional (alterTableRecord_tame.decode {})).steady ?_ hv ha
    rintro b s _ ⟨e, e', hs, rfl, he⟩
    exact ⟨e, e', hs, rfl, he⟩
  · exact absurd (by simp) hname
  · refine Field.of_lockstep (Tame.optional (insertRecord_tame.decode {})).steady ?_ hv ha
    rintro b s _ ⟨e, e', hs, rfl, he⟩
    exact ⟨e, e', hs, rfl, he⟩

lemma documentRecord_putsRest {T : List StatementEntry → List StatementEntry → Prop} :
    documentRecord.PutsAlike p q T ["statements"] := by
  intro name put hname hlookup v hv a a' ha
  have hmem := Record.mem_fields hlookup
  simp only [documentRecord, List.mem_singleton, Prod.mk.injEq] at hmem
  exact absurd (by simp [hmem.1]) hname

end

/-! ### Documents with a gap for the column -/

/-- A document with an index, where the column of the index is left out. -/
structure IndexFrame where
  root : MappingFrame
  line : Nat
  tag : Tag
  earlier : List Node
  statement : MappingFrame
  index : MappingFrame
  tag_ne : index.tag ≠ .null
  later : List Node

namespace IndexFrame

def node (i : IndexFrame) (c : Node) : Node :=
  i.root.node "statements" (.sequence i.line i.tag
    (i.earlier ++ i.statement.node "create_index" (i.index.node "column" c) :: i.later))

/-- There is no alias in the document besides the column. -/
structure Aliasless (i : IndexFrame) : Prop where
  root : i.root.Aliasless
  statements : ∀ n ∈ i.earlier ++ i.later, n.Aliasless
  statement : i.statement.Aliasless
  index : i.index.Aliasless

variable (i : IndexFrame) {n₀ : Node} (h₀ : IsIndexColumn n₀) (h : IsIndexColumn n)
  (hc : StandsFor c n)
include h₀ h hc

/-- Two indexes that differ in the column are read as entries that differ in it. -/
lemma index_parts : Parts i.Aliasless (c ≠ n) (BothGive (DifferIn (columnOf n₀) (columnOf n)))
    (createIndexRecord.decode {} (i.index.node "column" n₀))
    (createIndexRecord.decode {} (i.index.node "column" c)) := by
  refine Record.decode_parts rfl createIndexRecord_tame (createIndexRecord_putsRest _ _)
    Aliasless.index (fun e => ?_) {}
  refine Field.of_parts (follow_indexColumn_parts h₀ h hc) ?_
  rintro _ _ ⟨rfl, rfl⟩
  exact ⟨rfl, rfl⟩

lemma statement_parts :
    Parts i.Aliasless (c ≠ n) (BothGive (IndexesDiffer (columnOf n₀) (columnOf n)))
      (statementRecord.decode {} (i.statement.node "create_index" (i.index.node "column" n₀)))
      (statementRecord.decode {} (i.statement.node "create_index" (i.index.node "column" c))) := by
  have hoptional : ∀ v, Decode.optional createIndexRecord.typeName (createIndexRecord.decode {})
      (i.index.node "column" v) = createIndexRecord.decode {} (i.index.node "column" v) := by
    intro v
    rw [MappingFrame.node, Decode.optional]
    · intro line entries heq
      cases heq
    · intro line entries heq
      injection heq with _ htag
      exact i.tag_ne htag
  refine Record.decode_parts rfl statementRecord_tame (statementRecord_putsRest _ _)
    Aliasless.statement (fun s => ?_) {}
  have hindex := i.index_parts h₀ h hc
  rw [← hoptional, ← hoptional] at hindex
  refine Field.of_parts (follow_parts rfl rfl hindex) ?_
  rintro e e' he
  exact ⟨e, e', rfl, rfl, he⟩

/-- Two documents that differ in the column of an index are read as statements that differ in it. -/
lemma document_parts :
    Parts i.Aliasless (c ≠ n) (BothGive (DifferAt (IndexesDiffer (columnOf n₀) (columnOf n))))
      (Decode.document (documentRecord.decode []) (i.node n₀))
      (Decode.document (documentRecord.decode []) (i.node c)) := by
  refine .after_count (follow_parts rfl rfl ?_)
  refine Record.decode_parts rfl documentRecord_tame documentRecord_putsRest Aliasless.root
    (fun ss => ?_) []
  refine Field.of_parts (follow_parts rfl rfl (list_parts (statementRecord_tame.decode {})
    (follow_parts rfl rfl (i.statement_parts h₀ h hc)) Aliasless.statements _ _ _)) ?_
  exact fun _ _ hss => hss

end IndexFrame

/-! ### Building the index -/

/-- What is indexed for a column. -/
def IndexColumnEntry.target (entry : Nat) (c : IndexColumnEntry) : Except Problem IndexTarget :=
  if c.name.isEmpty then .error (.missing entry "create_index" "column")
  else
    match indexKinds.lookup c.kind.lower with
    | none => .error (.unknown entry "index column" c.kind)
    | some kind => .ok (.column kind (.ofText c.name))

/-- An index is made of its table and its column, and refused for the table first. -/
lemma CreateIndexEntry.build_eq (entry : Nat) (c : CreateIndexEntry) :
    c.build entry =
      if c.table.isEmpty then .error (.missing entry "create_index" "table")
      else (c.column.target entry).map fun target => {
        ifNotExists := c.ifNotExists
        name := if c.name.isEmpty then none else some (.ofText c.name)
        table := .ofText c.table
        target } := by
  unfold CreateIndexEntry.build IndexColumnEntry.target
  cases c.table.isEmpty with
  | true => rfl
  | false =>
    cases c.column.name.isEmpty with
    | true => rfl
    | false => cases indexKinds.lookup c.column.kind.lower <;> rfl

/-- A problem of the column tells the number of its entry and no other one. -/
lemma IndexColumnEntry.number_of_target {entry other : Nat} {c : IndexColumnEntry} {p : Problem}
    (h : c.target entry = .error p) (hother : p.inEntry other = p) : other = entry := by
  unfold IndexColumnEntry.target at h
  split at h
  · cases h
    injection hother
  · split at h
    · cases h
      injection hother
    · cases h

/-- Statements are made one after the other, and the numbers go on. -/
lemma buildFrom_append (first : Nat) (xs ys : List StatementEntry) :
    buildFrom first (xs ++ ys) = (do
      let ss ← buildFrom first xs
      let ts ← buildFrom (first + xs.length) ys
      pure (ss ++ ts)) := by
  induction xs generalizing first with
  | nil =>
    cases hys : buildFrom first ys <;> simp [buildFrom, hys, Bind.bind, Except.bind, Pure.pure,
      Except.pure]
  | cons x xs ih =>
    rw [List.cons_append, buildFrom, buildFrom, ih, List.length_cons, Nat.add_right_comm,
      Nat.add_assoc]
    simp only [bind_assoc, pure_bind, List.cons_append]

/-- A problem of a list of statements tells no smaller number than that of the first one. -/
lemma exists_inEntry_of_buildFrom {first : Nat} {entries : List StatementEntry} {p : Problem}
    (h : buildFrom first entries = .error p) : ∃ k ≥ first, p.inEntry k = p := by
  obtain ⟨before, e, after, rfl, -, he⟩ := buildFrom_eq_error_iff.mp h
  refine ⟨first + before.length, Nat.le_add_right _ _, ?_⟩
  have hnumbered : e.build (first + before.length)
      = (e.build (first + before.length)).mapError (Problem.inEntry (first + before.length)) :=
    e.numbered _ _
  rw [he] at hnumbered
  injection hnumbered with hp
  exact hp.symm

/-- What a document with an index is read as, where the column of the index is left out. -/
structure IndexReading where
  before : List StatementEntry
  statement : StatementEntry
  index : CreateIndexEntry
  after : List StatementEntry

namespace IndexReading

def number (r : IndexReading) : Nat :=
  r.before.length

def statementOn (r : IndexReading) (x : IndexColumnEntry) : StatementEntry :=
  { r.statement with createIndex := some { r.index with column := x } }

def entries (r : IndexReading) (x : IndexColumnEntry) : List StatementEntry :=
  r.before ++ r.statementOn x :: r.after

/-- The document is refused for something else before the column matters. -/
inductive RefusedBefore (r : IndexReading) : Prop
  | earlier {problem : Problem} : buildFrom 0 r.before = .error problem → RefusedBefore r
  | alterTable : r.statement.alterTable.isSome = true → RefusedBefore r
  | insert : r.statement.insert.isSome = true → RefusedBefore r
  | table : r.index.table.isEmpty = true → RefusedBefore r

/-- The document is refused for a later statement, whichever of the columns it has. -/
@[mk_iff]
structure RefusedLater (r : IndexReading) (x y : IndexColumnEntry) : Prop where
  first : ∃ target, x.target r.number = .ok target
  second : ∃ target, y.target r.number = .ok target
  later : ∃ problem, buildFrom (r.number + 1) r.after = .error problem

variable (r : IndexReading) (x y : IndexColumnEntry)

/-- If nothing is refused before, the column decides about the statement. -/
lemma build_statementOn (h : ¬ r.RefusedBefore) :
    (r.statementOn x).build r.number = (x.target r.number).map fun target => .createIndex {
      ifNotExists := r.index.ifNotExists
      name := if r.index.name.isEmpty then none else some (.ofText r.index.name)
      table := .ofText r.index.table
      target } := by
  have halter : r.statement.alterTable = none :=
    Option.not_isSome_iff_eq_none.mp fun hsome => h (.alterTable hsome)
  have hinsert : r.statement.insert = none :=
    Option.not_isSome_iff_eq_none.mp fun hsome => h (.insert hsome)
  have htable : ¬ r.index.table.isEmpty = true := fun hempty => h (.table hempty)
  rw [statementOn, StatementEntry.build, halter, hinsert]
  dsimp only
  rw [CreateIndexEntry.build_eq, if_neg htable]
  cases x.target r.number <;> rfl

lemma buildFrom_entries : buildFrom 0 (r.entries x) = (do
    let ss ← buildFrom 0 r.before
    let s ← (r.statementOn x).build r.number
    let ts ← buildFrom (r.number + 1) r.after
    pure (ss ++ s :: ts)) := by
  rw [entries, buildFrom_append, Nat.zero_add, buildFrom, number]
  simp only [bind_assoc, pure_bind]

/-- Another kind of statement, or an index without a table, is refused whatever the column is. -/
lemma build_statementOn_eq (h : r.statement.alterTable.isSome = true ∨
    r.statement.insert.isSome = true ∨ r.index.table.isEmpty = true) :
    (r.statementOn x).build r.number = (r.statementOn y).build r.number := by
  simp only [statementOn, StatementEntry.build, StatementEntry.kinds, Option.isSome_some]
  cases halter : r.statement.alterTable with
  | some a => cases r.statement.insert <;> rfl
  | none =>
    cases hinsert : r.statement.insert with
    | some e => rfl
    | none =>
      have htable : r.index.table.isEmpty = true := by simpa [halter, hinsert] using h
      simp only [CreateIndexEntry.build_eq, htable, if_true]

/-- What is refused before the column is refused alike, whichever column there is. -/
lemma RefusedBefore.buildFrom_eq {r : IndexReading} (h : r.RefusedBefore) :
    buildFrom 0 (r.entries x) = buildFrom 0 (r.entries y) := by
  rw [buildFrom_entries, buildFrom_entries]
  cases h with
  | earlier hearlier =>
    rw [hearlier]
    rfl
  | alterTable hsome => rw [r.build_statementOn_eq x y (.inl hsome)]
  | insert hsome => rw [r.build_statementOn_eq x y (.inr (.inl hsome))]
  | table hempty => rw [r.build_statementOn_eq x y (.inr (.inr hempty))]

/-- A later problem tells a later number, so it is not that of the column. -/
lemma buildFrom_after_ne (p : Problem) (h : x.target r.number = .error p) :
    buildFrom (r.number + 1) r.after ≠ .error p := by
  intro hafter
  obtain ⟨k, hk, hp⟩ := exists_inEntry_of_buildFrom hafter
  have heq := IndexColumnEntry.number_of_target h hp
  omega

/-- The column makes no difference just if what it indexes is the same or the document is refused
for something else. -/
lemma buildFrom_entries_eq_iff : buildFrom 0 (r.entries x) = buildFrom 0 (r.entries y) ↔
    x.target r.number = y.target r.number ∨ r.RefusedBefore ∨ r.RefusedLater x y := by
  by_cases hrefused : r.RefusedBefore
  · exact iff_of_true (hrefused.buildFrom_eq x y) (.inr (.inl hrefused))
  have hx := r.buildFrom_after_ne x
  have hy := r.buildFrom_after_ne y
  rw [buildFrom_entries, buildFrom_entries, r.build_statementOn x hrefused,
    r.build_statementOn y hrefused, refusedLater_iff]
  cases hbefore : buildFrom 0 r.before with
  | error problem => exact absurd (.earlier hbefore) hrefused
  | ok ss =>
    generalize x.target r.number = t, y.target r.number = u,
      buildFrom (r.number + 1) r.after = ts at hx hy ⊢
    cases t with
    | error p =>
      cases u with
      | error p' => simp [Bind.bind, Except.bind, Except.map, hrefused]
      | ok u =>
        cases ts with
        | error problem =>
          have hne : problem ≠ p := fun heq => hx p rfl (by rw [heq])
          simp [Bind.bind, Except.bind, Except.map, hrefused, hne.symm]
        | ok ts => simp [Bind.bind, Except.bind, Except.map, Pure.pure, Except.pure, hrefused]
    | ok t =>
      cases u with
      | error p =>
        cases ts with
        | error problem =>
          have hne : problem ≠ p := fun heq => hy p rfl (by rw [heq])
          simp [Bind.bind, Except.bind, Except.map, hrefused, hne]
        | ok ts => simp [Bind.bind, Except.bind, Except.map, Pure.pure, Except.pure, hrefused]
      | ok u =>
        cases ts with
        | error problem => simp [Bind.bind, Except.bind, Except.map]
        | ok ts => simp [Bind.bind, Except.bind, Except.map, Pure.pure, Except.pure, hrefused]

end IndexReading

/-! ### Documents -/

lemma readEntries_of_root {bytes : Text} {root : Node} (h : Node.ofBytes bytes = .ok (some root)) :
    readEntries bytes = entriesOf root := by
  rw [readEntries, h]
  rfl

lemma parse_of_failure {bytes : Text} {failure : Failure}
    (h : readEntries bytes = .error failure) : parse bytes = .error (.undecodable failure) := by
  unfold parse
  split
  · rename_i hread
    rw [h] at hread
    cases hread
    rfl
  · rename_i hread
    rw [h] at hread
    cases hread

/-- Statements that differ in the column of an index are a reading with two columns. -/
lemma exists_reading_of_differAt {x y : IndexColumnEntry} {es es' : List StatementEntry}
    (h : DifferAt (IndexesDiffer x y) es es') :
    ∃ r : IndexReading, es = r.entries x ∧ es' = r.entries y := by
  obtain ⟨before, s, _, after, rfl, rfl, e, _, hs, rfl, rfl, rfl⟩ := h
  refine ⟨⟨before, s, e, after⟩, ?_, rfl⟩
  rw [IndexReading.entries, IndexReading.statementOn, ← hs]

/-- A document with a column and the document with another one, or an alias of it, are read alike
but for the column, or they are refused alike, unless the alias is one too many. -/
lemma IndexFrame.entriesOf_cases (i : IndexFrame) {n₀ : Node} (h₀ : IsIndexColumn n₀)
    (h : IsIndexColumn n) (hc : StandsFor c n) :
    (∃ r : IndexReading, entriesOf (i.node n₀) = .ok (r.entries (columnOf n₀)) ∧
        entriesOf (i.node c) = .ok (r.entries (columnOf n))) ∨
      (∃ failure, entriesOf (i.node n₀) = .error failure ∧
        entriesOf (i.node c) = .error failure) ∨
      (entriesOf (i.node c) = .error .malformed ∧ c ≠ n ∧ ¬ i.Aliasless ∧
        500 ≤ (i.node c).size) := by
  unfold entriesOf
  rcases (i.document_parts h₀ h hc).run_cases with
    ⟨_, _, ⟨es, es', rfl, rfl, hes⟩, hfirst, hsecond⟩ | ⟨failure, hfirst, hsecond⟩ |
      ⟨hmany, haliases, hne⟩
  · obtain ⟨r, rfl, rfl⟩ := exists_reading_of_differAt hes
    rw [hfirst, hsecond]
    exact .inl ⟨r, rfl, rfl⟩
  · rw [hfirst, hsecond]
    exact .inr (.inl ⟨failure, rfl, rfl⟩)
  · rw [hmany]
    exact .inr (.inr ⟨rfl, hne, haliases, le_size_of_run hmany⟩)

/-- A document whose index has an alias for its column gives what the document with the copy gives.
An alias inside the column is taken by its own name. That makes no difference just if the name and
what it stands for index the same, or the document is refused for something else. A large document
with further aliases may be refused for the alias of the column. -/
theorem parse_index_alias {bytes copy : Text} {n c : Node} (i : IndexFrame) (h : IsIndexColumn n)
    (hc : StandsFor c n) (hbytes : Node.ofBytes bytes = .ok (some (i.node c)))
    (hcopy : Node.ofBytes copy = .ok (some (i.node n.expanded))) :
    (HasPlainParts n → columnOf n.expanded = columnOf n) ∧
      ((∃ r : IndexReading, readEntries copy = .ok (r.entries (columnOf n.expanded)) ∧
          readEntries bytes = .ok (r.entries (columnOf n)) ∧
          (parse bytes = parse copy ↔
            (columnOf n).target r.number = (columnOf n.expanded).target r.number ∨
              r.RefusedBefore ∨ r.RefusedLater (columnOf n) (columnOf n.expanded))) ∨
        (∃ failure, parse copy = .error (.undecodable failure) ∧
          parse bytes = .error (.undecodable failure)) ∨
        (parse bytes = .error (.undecodable .malformed) ∧ c ≠ n ∧ ¬ i.Aliasless ∧
          500 ≤ (i.node c).size)) := by
  refine ⟨h.columnOf_expanded, ?_⟩
  rw [readEntries_of_root hbytes, readEntries_of_root hcopy]
  rcases i.entriesOf_cases h.expanded h hc with ⟨r, hr, hr'⟩ | ⟨failure, hf, hf'⟩ | ⟨hmany, hrest⟩
  · refine .inl ⟨r, hr, hr', ?_⟩
    rw [parse_eq_buildFrom ((readEntries_of_root hbytes).trans hr'),
      parse_eq_buildFrom ((readEntries_of_root hcopy).trans hr)]
    exact r.buildFrom_entries_eq_iff _ _
  · right
    left
    exact ⟨failure, parse_of_failure ((readEntries_of_root hcopy).trans hf),
      parse_of_failure ((readEntries_of_root hbytes).trans hf')⟩
  · right
    right
    exact ⟨parse_of_failure ((readEntries_of_root hbytes).trans hmany), hrest⟩

def indexDocument (fields : Text) : Text :=
  "statements: [\x7bcreate_index: \x7b" ++ fields ++ "\x7d\x7d]"

def indexFrame (before after : List (Node × Node)) : IndexFrame where
  root := ⟨1, .map, [], 1, []⟩
  line := 1
  tag := .seq
  earlier := []
  statement := ⟨1, .map, [], 1, []⟩
  index := ⟨1, .map, before, 1, after⟩
  tag_ne := by simp
  later := []

/-- The name of an index on the table `t`. -/
def namedIndex : List (Node × Node) :=
  [(.scalar 1 .str "name", .scalar 1 .str "a"), (.scalar 1 .str "table", .scalar 1 .str "t")]

theorem parse_index_alias_named :
    parse (indexDocument "name: &a a, table: t, column: *a")
        = parse (indexDocument "name: &a a, table: t, column: a") ∧
      (parse (indexDocument "name: &a a, table: t, column: *a")).toOption.map
        (List.map Statement.cql) = some [Text.ofString "CREATE INDEX a ON t( a )"] := by
  have hname : (Node.scalar 1 .str "a").expanded = .scalar 1 .str "a" := by
    rw [Node.expanded]
    all_goals simp
  have hbytes : Node.ofBytes (indexDocument "name: &a a, table: t, column: *a")
      = .ok (some ((indexFrame namedIndex []).node (aliasOf (.scalar 1 .str "a")))) :=
    Node.ofBytes_eq_of_same (by decide +kernel)
  have hcopy : Node.ofBytes (indexDocument "name: &a a, table: t, column: a")
      = .ok (some ((indexFrame namedIndex []).node (Node.scalar 1 .str "a").expanded)) := by
    rw [hname]
    exact Node.ofBytes_eq_of_same (by decide +kernel)
  refine ⟨?_, by decide +kernel⟩
  obtain ⟨-, ⟨r, -, -, hsame⟩ | ⟨failure, hfirst, hsecond⟩ | ⟨-, -, -, hsize⟩⟩ :=
    parse_index_alias (indexFrame namedIndex []) (.name (by simp)) (.inr ⟨1, "a", rfl⟩) hbytes hcopy
  · exact hsame.mpr (.inl (by rw [hname]))
  · rw [hfirst, hsecond]
  · exact absurd hsize (by decide +kernel)

/-- An entry that merges a mapping that merges `k` aliases. -/
def manyMerged (k : Nat) : Node × Node :=
  (mergeKey, aliasOf (.mapping 1 .map
    [(mergeKey, .sequence 1 .seq (List.replicate k (aliasOf (.mapping 1 .map []))))]))

/-- An index on the table `t` that merges many aliases. -/
def crowdedIndex : IndexFrame :=
  indexFrame [(.scalar 1 .str "table", .scalar 1 .str "t")] [manyMerged 742]

/-- The texts of the statements in a document with an index that has the given fields. -/
def indexTexts (fields : Text) : Option (List Text) :=
  (parse (indexDocument fields)).toOption.map (List.map Statement.cql)

/-- An alias inside the column is taken by its name, as the name of the column or as its kind. The
alias of a column can be one too many. -/
theorem alias_in_column :
    (indexTexts "table: &a t, column: \x7bkeys: *a\x7d"
          = some [Text.ofString "CREATE INDEX ON t( KEYS( a ) )"] ∧
        indexTexts "table: &a t, column: \x7bkeys: t\x7d"
          = some [Text.ofString "CREATE INDEX ON t( KEYS( t ) )"]) ∧
      (errorOf (parse (indexDocument "name: &k keys, table: t, column: \x7b*k : c\x7d"))
          = some (.unknown 0 "index column" "k") ∧
        indexTexts "name: &k keys, table: t, column: \x7bkeys: c\x7d"
          = some [Text.ofString "CREATE INDEX keys ON t( KEYS( c ) )"]) ∧
      errorOf (entriesOf (crowdedIndex.node (aliasOf (.scalar 1 .str "c")))) = some .malformed ∧
        errorOf (entriesOf (crowdedIndex.node (.scalar 1 .str "c"))) = none := by
  decide +kernel

end Document

end CqlWriter
