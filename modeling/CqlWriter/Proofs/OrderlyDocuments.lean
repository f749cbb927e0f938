import Mathlib
import CqlWriter.Proofs.EntryNumbers
import CqlWriter.Proofs.ReadingCosts

/-!
# Orderly documents

A stream that cannot be composed is reported. If the root of the document is orderly, then so is the
rest: every failure of reading its entries can be reported, the operands in the entries are orderly
too, and the problem of an entry with such operands can be reported.
-/

namespace CqlWriter

namespace Yaml

/-! ### Composing -/

namespace Composer

lemma peek_reported : EndsOnly peek Failure.Reported := by
  refine .bind .get fun s => ?_
  split
  · exact .bind (.modify _) fun _ => .pure _
  · exact .throw rfl

lemma advance_reported : EndsOnly advance Failure.Reported :=
  .modify _

/-- Remembering an anchor adds no failure. -/
lemma anchored_reported (anchor : Option Text) {compose : Composer Draft}
    (h : EndsOnly compose Failure.Reported) :
    EndsOnly (anchored anchor compose) Failure.Reported := by
  cases anchor with
  | none => exact h
  | some name =>
    have hopen : EndsOnly (openAnchor name) Failure.Reported :=
      .bind .get fun _ => .bind (.modify _) fun _ => .pure _
    exact .bind hopen fun number => .bind h fun draft => .bind (.modify _) fun _ => .pure draft

/-- An alias without an anchor is reported. -/
lemma reference_reported (line : Nat) (name : Text) :
    EndsOnly (reference line name) Failure.Reported := by
  refine .bind .get fun s => ?_
  split
  · exact .throw rfl
  · split
    · exact .pure _
    · exact .bind (fun _ => .ok _) fun _ => .pure _

lemma tagName_reported (handle suffix : Text) :
    EndsOnly (tagName handle suffix) Failure.Reported := by
  unfold tagName
  split
  · exact .pure _
  · refine .bind .get fun s => ?_
    split
    · exact .pure _
    · exact .throw rfl

/-- The properties of a node are composed without a crash. -/
lemma properties_reported : EndsOnly properties Failure.Reported := by
  refine .bind peek_reported fun t => ?_
  split
  · refine .bind advance_reported fun _ => .bind peek_reported fun t => ?_
    split
    · exact .bind advance_reported fun _ => .bind peek_reported fun _ =>
        .bind (tagName_reported _ _) fun _ => .pure _
    · exact .pure _
  · refine .bind advance_reported fun _ => .bind peek_reported fun t => ?_
    split
    · exact .bind advance_reported fun _ => .bind peek_reported fun _ =>
        .bind (tagName_reported _ _) fun _ => .pure _
    · exact .bind (tagName_reported _ _) fun _ => .pure _
  · exact .pure _

/-- What composes the parts of a document in so many steps ends only with what can be reported. -/
structure Reports (fuel : Nat) : Prop where
  node : ∀ block unindented, EndsOnly (node block unindented fuel) Failure.Reported
  blockItems : EndsOnly (blockItems fuel) Failure.Reported
  unindentedItems : EndsOnly (unindentedItems fuel) Failure.Reported
  blockPairs : EndsOnly (blockPairs fuel) Failure.Reported
  blockValue : EndsOnly (blockValue fuel) Failure.Reported
  flowItems : ∀ first, EndsOnly (flowItems first fuel) Failure.Reported
  flowItemValue : EndsOnly (flowItemValue fuel) Failure.Reported
  flowPairs : ∀ first, EndsOnly (flowPairs first fuel) Failure.Reported
  flowValue : EndsOnly (flowValue fuel) Failure.Reported

/-- What stands between two parts of a flow collection. -/
lemma separated_reported {α : Type} {first : Bool} {t : Token} {k : PUnit → Composer α}
    (hk : ∀ u, EndsOnly (k u) Failure.Reported) :
    EndsOnly (if (!first) = true then
        if t.kind = .flowEntry then advance >>= k else throw .malformed >>= k
      else k PUnit.unit) Failure.Reported := by
  split
  · split
    · exact .bind advance_reported hk
    · exact .bind (.throw rfl) hk
  · exact hk _

namespace Reports

variable {fuel : Nat} (h : Reports fuel)

include h

/-- A node may be of any form, each of which is composed in fewer steps. -/
lemma node_succ (block unindented : Bool) :
    EndsOnly (Composer.node block unindented (fuel + 1)) Failure.Reported := by
  rw [Composer.node]
  refine .bind peek_reported fun first => ?_
  dsimp only
  split
  · exact .bind advance_reported fun _ => reference_reported _ _
  · refine .bind properties_reported fun props => .bind peek_reported fun t => ?_
    -- what has properties and no content is an empty scalar, and what has neither is malformed
    have hempty (tag : Tag) : EndsOnly (if props.present = true then
        anchored props.anchor (pure (.whole (.scalar (first.mark.line + 1) tag [])))
        else throw .malformed) Failure.Reported := by
      split
      · exact anchored_reported _ (.pure _)
      · exact .throw rfl
    split
    · split
      · exact anchored_reported _ (.bind h.unindentedItems fun _ => .pure _)
      · exact hempty _
    · exact .bind advance_reported fun _ => anchored_reported _ (.pure _)
    · exact .bind advance_reported fun _ =>
        anchored_reported _ (.bind (h.flowItems true) fun _ => .pure _)
    · exact .bind advance_reported fun _ =>
        anchored_reported _ (.bind (h.flowPairs true) fun _ => .pure _)
    · split
      · exact .bind advance_reported fun _ =>
          anchored_reported _ (.bind h.blockItems fun _ => .pure _)
      · exact hempty _
    · split
      · exact .bind advance_reported fun _ =>
          anchored_reported _ (.bind h.blockPairs fun _ => .pure _)
      · exact hempty _
    · exact hempty _

/-- A part that may be left out. -/
lemma orEmpty {p : Prop} [Decidable p] (draft : Draft) (block unindented : Bool) :
    EndsOnly (if p then pure draft else Composer.node block unindented fuel) Failure.Reported := by
  split
  · exact .pure _
  · exact h.node _ _

/-- A part that may be left out is empty or a node. -/
lemma orEmpty_bind {p : Prop} [Decidable p] {α : Type} {k : Draft → Composer α}
    (hk : ∀ draft, EndsOnly (k draft) Failure.Reported) (draft : Draft) (block unindented : Bool) :
    EndsOnly (if p then pure draft >>= k else Composer.node block unindented fuel >>= k)
      Failure.Reported := by
  split
  · exact .bind (.pure _) hk
  · exact .bind (h.node _ _) hk

lemma blockItems_succ : EndsOnly (Composer.blockItems (fuel + 1)) Failure.Reported := by
  rw [Composer.blockItems]
  refine .bind peek_reported fun t => ?_
  split
  · exact .bind advance_reported fun _ => .bind peek_reported fun _ =>
      h.orEmpty_bind (fun _ => .bind h.blockItems fun _ => .pure _) _ _ _
  · exact .bind advance_reported fun _ => .pure _
  · exact .throw rfl

lemma unindentedItems_succ : EndsOnly (Composer.unindentedItems (fuel + 1)) Failure.Reported := by
  rw [Composer.unindentedItems]
  refine .bind peek_reported fun t => ?_
  split
  · exact .bind advance_reported fun _ => .bind peek_reported fun _ =>
      h.orEmpty_bind (fun _ => .bind h.unindentedItems fun _ => .pure _) _ _ _
  · exact .pure _

lemma blockPairs_succ : EndsOnly (Composer.blockPairs (fuel + 1)) Failure.Reported := by
  rw [Composer.blockPairs]
  refine .bind peek_reported fun t => ?_
  split
  · exact .bind advance_reported fun _ => .bind peek_reported fun _ =>
      h.orEmpty_bind (fun _ => .bind h.blockValue fun _ => .bind h.blockPairs fun _ =>
        .pure _) _ _ _
  · exact .bind advance_reported fun _ => .pure _
  · exact .throw rfl

lemma blockValue_succ : EndsOnly (Composer.blockValue (fuel + 1)) Failure.Reported := by
  rw [Composer.blockValue]
  refine .bind peek_reported fun t => ?_
  split
  · exact .bind advance_reported fun _ => .bind peek_reported fun _ => h.orEmpty _ _ _
  · exact .pure _

lemma flowItemValue_succ : EndsOnly (Composer.flowItemValue (fuel + 1)) Failure.Reported := by
  rw [Composer.flowItemValue]
  refine .bind peek_reported fun t => ?_
  split
  · exact .bind advance_reported fun _ => .bind peek_reported fun _ => h.orEmpty _ _ _
  · exact .pure _

lemma flowValue_succ : EndsOnly (Composer.flowValue (fuel + 1)) Failure.Reported := by
  rw [Composer.flowValue]
  refine .bind peek_reported fun t => ?_
  split
  · exact .bind advance_reported fun _ => .bind peek_reported fun _ => h.orEmpty _ _ _
  · exact .pure _

lemma flowPairs_succ (first : Bool) :
    EndsOnly (Composer.flowPairs first (fuel + 1)) Failure.Reported := by
  rw [Composer.flowPairs]
  refine .bind peek_reported fun t => ?_
  split
  · exact .bind advance_reported fun _ => .pure _
  · refine separated_reported fun _ => .bind peek_reported fun t => ?_
    split
    · exact .bind advance_reported fun _ => .pure _
    · split
      · exact .bind advance_reported fun _ => .bind peek_reported fun _ =>
          h.orEmpty_bind (fun _ => .bind h.flowValue fun _ => .bind (h.flowPairs false) fun _ =>
            .pure _) _ _ _
      · exact .bind (h.node _ _) fun _ => .bind peek_reported fun _ =>
          .bind (h.flowPairs false) fun _ => .pure _

lemma flowItems_succ (first : Bool) :
    EndsOnly (Composer.flowItems first (fuel + 1)) Failure.Reported := by
  rw [Composer.flowItems]
  refine .bind peek_reported fun t => ?_
  split
  · exact .bind advance_reported fun _ => .pure _
  · refine separated_reported fun _ => .bind peek_reported fun t => ?_
    split
    · exact .bind advance_reported fun _ => .pure _
    · split
      · refine .bind advance_reported fun _ => .bind peek_reported fun next => ?_
        have hrest (k : Draft) : EndsOnly (do
            let v ← Composer.flowItemValue fuel
            let _ ← peek
            pure (.ofEntries (t.mark.line + 1) .map [(k, v)] :: (← Composer.flowItems false fuel)))
            Failure.Reported :=
          .bind h.flowItemValue fun _ => .bind peek_reported fun _ =>
            .bind (h.flowItems false) fun _ => .pure _
        dsimp only
        split
        · exact .bind advance_reported fun _ => .bind (.pure _) hrest
        · exact .bind (h.node _ _) hrest
      · exact .bind (h.node _ _) fun _ => .bind (h.flowItems false) fun _ => .pure _

end Reports

/-- The induction on the number of steps that may be taken. -/
lemma reports (fuel : Nat) : Reports fuel := by
  induction fuel with
  | zero =>
    have hthrow {α : Type} : EndsOnly (throw .malformed : Composer α) Failure.Reported :=
      .throw rfl
    exact {
      node := fun _ _ => by rw [node]; exact hthrow
      blockItems := by rw [blockItems]; exact hthrow
      unindentedItems := by rw [unindentedItems]; exact hthrow
      blockPairs := by rw [blockPairs]; exact hthrow
      blockValue := by rw [blockValue]; exact hthrow
      flowItems := fun _ => by rw [flowItems]; exact hthrow
      flowItemValue := by rw [flowItemValue]; exact hthrow
      flowPairs := fun _ => by rw [flowPairs]; exact hthrow
      flowValue := by rw [flowValue]; exact hthrow }
  | succ fuel ih =>
    exact ⟨ih.node_succ, ih.blockItems_succ, ih.unindentedItems_succ, ih.blockPairs_succ,
      ih.blockValue_succ, ih.flowItems_succ, ih.flowItemValue_succ, ih.flowPairs_succ,
      ih.flowValue_succ⟩

lemma directives_reported (fuel : Nat) (versioned : Bool) :
    EndsOnly (directives fuel versioned) Failure.Reported := by
  induction fuel generalizing versioned with
  | zero =>
    rw [directives]
    exact .throw rfl
  | succ fuel ih =>
    rw [directives]
    refine .bind peek_reported fun t => ?_
    split
    · dsimp only
      split
      · exact .bind (.throw rfl) fun _ => .bind advance_reported fun _ => ih _
      · exact .bind advance_reported fun _ => ih _
    · refine .bind .get fun s => ?_
      dsimp only
      split
      · exact .bind (.throw rfl) fun _ => .bind (.modify _) fun _ =>
          .bind advance_reported fun _ => ih _
      · exact .bind (.modify _) fun _ => .bind advance_reported fun _ => ih _
    · exact .modify _

lemma document_reported (fuel : Nat) : EndsOnly (document fuel) Failure.Reported := by
  have hcomplete (root : Draft) : EndsOnly (do
      let _ ← peek
      pure (some (← complete root))) Failure.Reported :=
    .bind peek_reported fun _ => .bind (.bind .get fun _ => .pure _) fun _ => .pure _
  refine .bind peek_reported fun _ => .bind advance_reported fun _ => ?_
  refine .bind peek_reported fun t => ?_
  split
  · exact .pure _
  on_goal 4 =>
    exact .bind (directives_reported _ _) fun _ => .bind ((reports fuel).node _ _) hcomplete
  -- a document may start with a directive of either kind or with its mark
  all_goals
    refine .bind (directives_reported _ _) fun _ => .bind peek_reported fun _ => ?_
    dsimp only
    split
    · exact .bind (.throw rfl) fun _ => .bind advance_reported fun _ => .bind peek_reported fun _ =>
        (reports fuel).orEmpty_bind hcomplete _ _ _
    · exact .bind advance_reported fun _ => .bind peek_reported fun _ =>
        (reports fuel).orEmpty_bind hcomplete _ _ _

end Composer

/-- A stream that cannot be composed is reported. -/
lemma Node.ofBytes_reported (bytes : Text) : FailsOnly (Node.ofBytes bytes) Failure.Reported :=
  (Composer.document_reported _ _).bind fun _ => .ok _

/-! ### What fields are given -/

section

variable {α β : Type} {P : α → Prop} {Q : β → Prop} {read : Node → Decode (Option β)} {n : Node}

lemma Decode.Yields.optional (wanted : Text) (h : (read n).Yields fun o => ∀ b ∈ o, Q b) :
    (Decode.optional wanted read n).Yields fun o => ∀ b ∈ o, Q b := by
  unfold Decode.optional
  split
  · exact .after fun _ => .pure (by simp)
  · refine .after fun repeated => ?_
    cases repeated with
    | true => exact .pure (by simp)
    | false => exact .after fun _ => .pure (by simp)
  · exact h

lemma Decode.Yields.mapM {f : Node → Decode β} {items : List Node}
    (h : ∀ m ∈ items, (f m).Yields Q) : (items.mapM f).Yields fun bs => ∀ b ∈ bs, Q b := by
  induction items with
  | nil => exact .pure (by simp)
  | cons m ms ih =>
    rw [List.mapM_cons]
    refine .bind (h m (by simp)) fun b hb => ?_
    refine .bind (ih fun k hk => h k (by simp [hk])) fun bs hbs => .pure ?_
    simpa [hb] using hbs

lemma Decode.Yields.items (wanted : Text)
    (h : ∀ line tag items, n = .sequence line tag items →
      ∀ m ∈ items, (read m).Yields fun o => ∀ b ∈ o, Q b) :
    (Decode.items wanted read n).Yields fun o => ∀ bs ∈ o, ∀ b ∈ bs, Q b := by
  have hnothing := Decode.Yields.nothing ("[]" ++ wanted) n
    (P := fun o : Option (List β) => ∀ bs ∈ o, ∀ b ∈ bs, Q b) (by simp)
  cases n with
  | sequence line tag items =>
    have hitems : (items.mapM read).Yields fun os => ∀ o ∈ os, ∀ b ∈ o, Q b :=
      .mapM (h line tag items rfl)
    refine .bind hitems fun os hos => .pure ?_
    simpa using fun b hb => hos _ hb b rfl
  | scalar _ _ _ | mapping _ _ _ | reference _ _ _ => exact hnothing

/-- A field keeps what holds of a record if it sets what it reads. -/
lemma Field.of_yields {set : β → α → α} (hread : (read n.resolved).Yields fun o => ∀ b ∈ o, Q b)
    (hset : ∀ b a, Q b → P a → P (set b a)) {a : α} (ha : P a) :
    (Field.of read set n a).Yields P := by
  refine .bind (.follow hread) fun o ho => ?_
  cases o with
  | none => exact .pure ha
  | some b => exact .pure (hset b a (ho b rfl) ha)

/-- A field that `P` does not depend on. -/
lemma Field.of_yields_same {set : β → α → α} (hset : ∀ b a, P a → P (set b a)) {a : α} (ha : P a) :
    (Field.of read set n a).Yields P := by
  refine .after fun o => ?_
  cases o with
  | none => exact .pure ha
  | some b => exact .pure (hset b a ha)

end

end Yaml

/-! ### Entries of orderly documents -/

namespace Document

open Yaml

/-- Whatever the root of a document is, it is orderly. -/
def IsOrderly (bytes : Text) : Prop :=
  ∀ root, Node.ofBytes bytes = .ok (some root) → root.Orderly

variable {v : Node} (hv : v.Orderly)

include hv

/-- Of the fields of an insertion only the row has nodes in it. -/
lemma insertRecord_keeps : insertRecord.Keeps InsertEntry.Orderly v := by
  intro name put hlookup i hi
  have hmem := Record.mem_fields hlookup
  simp only [insertRecord, optionalField, List.mem_cons, Prod.mk.injEq, List.not_mem_nil,
    or_false] at hmem
  obtain ⟨-, rfl⟩ | ⟨-, rfl⟩ | ⟨-, rfl⟩ | ⟨-, rfl⟩ | ⟨-, rfl⟩ | ⟨-, rfl⟩ | ⟨-, rfl⟩ | ⟨-, rfl⟩ :=
    hmem
  on_goal 4 =>
    have hitems : (Decode.items "yaml.Node" Decode.raw v.resolved).Yields
        fun o => ∀ ns ∈ o, ∀ n ∈ ns, n.Orderly := by
      refine .items _ fun line tag items heq m hm => .after fun _ => .pure ?_
      have hsequence := heq ▸ hv.resolved
      cases hsequence with
      | sequence hitems => simpa using hitems m hm
    exact Field.of_yields hitems (fun ns i hns _ => by simpa [InsertEntry.Orderly] using hns) hi
  all_goals
    refine Field.of_yields_same ?_ hi
    exact fun _ _ hi => hi

lemma statementRecord_keeps : statementRecord.Keeps StatementEntry.Orderly v := by
  intro name put hlookup e he
  have hmem := Record.mem_fields hlookup
  simp only [statementRecord, optionalField, List.mem_cons, Prod.mk.injEq, List.not_mem_nil,
    or_false] at hmem
  obtain ⟨-, rfl⟩ | ⟨-, rfl⟩ | ⟨-, rfl⟩ := hmem
  · refine Field.of_yields_same ?_ he
    exact fun _ _ he => he
  · refine Field.of_yields_same ?_ he
    exact fun _ _ he => he
  · have hinsert : (insertRecord.decode {} v.resolved).Yields fun o => ∀ i ∈ o, i.Orderly :=
      Record.decode_yields (fun u hu => insertRecord_keeps (hv.resolved.of_contains hu))
        (by simp [InsertEntry.Orderly])
    refine Field.of_yields (.optional _ hinsert) (fun i e hi _ => ?_) he
    simpa [StatementEntry.Orderly] using hi

/-- The statements of an orderly document are read from orderly nodes. -/
lemma documentRecord_keeps :
    documentRecord.Keeps (fun es => ∀ e ∈ es, StatementEntry.Orderly e) v := by
  intro name put hlookup es hes
  have hmem := Record.mem_fields hlookup
  simp only [documentRecord, List.mem_cons, Prod.mk.injEq, List.not_mem_nil, or_false] at hmem
  obtain ⟨-, rfl⟩ := hmem
  have hstatements : (Decode.list statementRecord.typeName (statementRecord.decode {})
      v.resolved).Yields fun o => ∀ es ∈ o, ∀ e ∈ es, StatementEntry.Orderly e := by
    refine .items _ fun line tag items heq m hm => .follow ?_
    have hsequence := heq ▸ hv.resolved
    cases hsequence with
    | sequence hitems =>
      have hitem := (hitems m hm).resolved
      exact Record.decode_yields (fun u hu => statementRecord_keeps (hitem.of_contains hu))
        (by simp [StatementEntry.Orderly])
  exact Field.of_yields hstatements (fun es _ hes _ => hes) hes

omit hv

/-- The operands in an orderly document are orderly. -/
lemma orderly_of_readEntries {bytes : Text} (h : IsOrderly bytes) {entries : List StatementEntry}
    (hread : readEntries bytes = .ok entries) : ∀ e ∈ entries, e.Orderly := by
  unfold readEntries at hread
  obtain ⟨root, hroot, hentries⟩ := bind_eq_ok_iff.mp hread
  cases root with
  | none =>
    cases hentries
    simp
  | some root =>
    have horderly := (h root hroot).resolved
    have hyields : (Decode.document (documentRecord.decode []) root).Yields
        fun o => ∀ es ∈ o, ∀ e ∈ es, StatementEntry.Orderly e :=
      .after fun _ => .follow (Record.decode_yields
        (fun u hu => documentRecord_keeps (horderly.of_contains hu)) (by simp))
    obtain ⟨o, ho, hes⟩ := bind_eq_ok_iff.mp hentries
    cases hes
    have hall := hyields.run ho
    cases o with
    | none => simp
    | some es => exact hall es rfl

lemma readEntries_reported {bytes : Text} (h : IsOrderly bytes) :
    FailsOnly (readEntries bytes) Failure.Reported := by
  cases hroot : Node.ofBytes bytes with
  | error failure =>
    rw [readEntries, hroot]
    exact .error (Node.ofBytes_reported bytes failure hroot)
  | ok root =>
    rw [readEntries, hroot]
    cases root with
    | none => exact .ok _
    | some root =>
      have hdocument : (Decode.document (documentRecord.decode []) root).FailsOnly
          Failure.Reported :=
        .bind (.count Failure.reported_of_plain) fun _ =>
          (documentRecord_tame.decode []).follow_reported (h root hroot)
      exact (hdocument.run Failure.reported_of_plain).bind fun _ => .ok _

/-- An orderly document gives statements, or its problem can be reported. -/
lemma IsOrderly.crash?_eq_none {bytes : Text} (h : IsOrderly bytes) {p : Problem}
    (hp : parse bytes = .error p) : p.crash? = none := by
  unfold parse at hp
  split at hp
  · rename_i failure hfailure
    cases hp
    exact readEntries_reported h failure hfailure
  · rename_i entries hread
    have hentries := orderly_of_readEntries h hread
    obtain ⟨before, e, after, rfl, -, he⟩ := buildFrom_eq_error_iff.mp hp
    exact (hentries e (by simp)).crash?_eq_none he

end Document

end CqlWriter
