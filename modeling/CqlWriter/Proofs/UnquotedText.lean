import Mathlib
import CqlWriter.Document.Build
import CqlWriter.Proofs.LowerCase
import CqlWriter.Proofs.OperandMaking
import CqlWriter.Proofs.Reading

/-!
# Where the text of an operand comes from

A scalar that is no number is written as a null, a truth value or a string literal, with one
exception: the tag of a truth value may be put on any text, which is then written in lower case and
outside quotes. The text of any operand is made of fixed marks and of what the single nodes of the
document contribute to it.
-/

namespace CqlWriter

open Yaml

/-! ### Numerals -/

namespace Text

/-- The text is made of the bytes of numerals, or is one of the three words for a number. -/
def SpellsNumber (t : Text) : Prop :=
  (∀ b ∈ t, isNumeralByte b) ∨ t = "Infinity" ∨ t = "-Infinity" ∨ t = "NaN"

lemma isNumeralByte_of_isDigit {b : UInt8} (h : Integer.isDigit b) : isNumeralByte b := by
  simp [isNumeralByte, h]

lemma isNumeralByte_of_mem_ofInt (n : Int) : ∀ b ∈ ofInt n, isNumeralByte b := by
  have hdigits : ∀ b ∈ ofNat n.natAbs, isNumeralByte b :=
    fun b hb => isNumeralByte_of_isDigit (isDigit_of_mem_ofNat _ b hb)
  unfold ofInt
  split_ifs
  · exact List.forall_mem_append.mpr ⟨List.all_eq_true.mp rfl, hdigits⟩
  · exact hdigits

end Text

namespace Binary64

open Text

lemma isDigit_of_mem_zeros (n : Nat) : ∀ b ∈ zeros n, Integer.isDigit b := by
  intro b hb
  rw [List.eq_of_mem_replicate hb]
  decide

/-- A number is written with decimal digits. -/
lemma isDigit_of_mem_written (negative : Bool) (m : Nat) (e : Int) :
    ∀ b ∈ (written negative m e).digits, Integer.isDigit b := by
  unfold written
  split_ifs
  · simp
  · intro b hb
    have hmem := (List.dropWhile_suffix _).mem (List.mem_reverse.mp hb)
    exact isDigit_of_mem_ofNat _ b (List.mem_reverse.mp hmem)

namespace Written

variable {w : Written}

lemma isNumeralByte_of_mem_pointed {digits : Text} (h : ∀ b ∈ digits, isNumeralByte b) :
    ∀ b ∈ pointed digits, isNumeralByte b := by
  unfold pointed
  split_ifs
  · exact List.all_eq_true.mp rfl
  · exact List.forall_mem_append.mpr ⟨List.all_eq_true.mp rfl, h⟩

/-- In either notation a number is made of the bytes of numerals. -/
lemma isNumeralByte_of_mem_general (h : ∀ b ∈ w.digits, Integer.isDigit b) :
    ∀ b ∈ w.general, isNumeralByte b := by
  have hdigits : ∀ b ∈ w.digits, isNumeralByte b := fun b hb => isNumeralByte_of_isDigit (h b hb)
  have hzeros : ∀ n, ∀ b ∈ zeros n, isNumeralByte b :=
    fun n b hb => isNumeralByte_of_isDigit (isDigit_of_mem_zeros n b hb)
  have htake : ∀ n, ∀ b ∈ w.digits.take n, isNumeralByte b :=
    fun n b hb => hdigits b (List.mem_of_mem_take hb)
  have hdrop : ∀ n, ∀ b ∈ w.digits.drop n, isNumeralByte b :=
    fun n b hb => hdigits b (List.mem_of_mem_drop hb)
  have hsign : ∀ b ∈ w.sign, isNumeralByte b := by
    unfold sign
    split_ifs <;> exact List.all_eq_true.mp rfl
  unfold general
  split_ifs
  · have hexponent : ∀ b ∈ ofNat w.leading.natAbs, isNumeralByte b :=
      fun b hb => isNumeralByte_of_isDigit (isDigit_of_mem_ofNat _ b hb)
    have hmark : ∀ b ∈ Text.ofString (if w.leading < 0 then "-" else "+"), isNumeralByte b := by
      split_ifs <;> exact List.all_eq_true.mp rfl
    simp only [scientific, List.forall_mem_append]
    refine ⟨⟨⟨⟨⟨⟨hsign, htake 1⟩, ?_⟩, ?_⟩, hmark⟩, hzeros _⟩, hexponent⟩
    · exact isNumeralByte_of_mem_pointed (hdrop 1)
    · exact List.all_eq_true.mp rfl
  · have hwhole : ∀ b ∈ w.wholeDigits, isNumeralByte b := by
      unfold wholeDigits
      split_ifs
      · exact List.all_eq_true.mp rfl
      · exact List.forall_mem_append.mpr ⟨htake _, hzeros _⟩
    have hfraction : ∀ b ∈ w.fractionDigits, isNumeralByte b := by
      unfold fractionDigits
      split_ifs
      · simp
      · exact List.forall_mem_append.mpr ⟨hzeros _, hdigits⟩
      · exact hdrop _
    simp only [positional, List.forall_mem_append]
    exact ⟨⟨hsign, hwhole⟩, isNumeralByte_of_mem_pointed hfraction⟩

end Written

end Binary64

namespace Document

open Text

lemma isNumeralByte_of_mem_finiteLiteral (negative : Bool) (m : Nat) (e : Int) :
    ∀ b ∈ finiteLiteral negative m e, isNumeralByte b := by
  have hgeneral := Binary64.Written.isNumeralByte_of_mem_general
    (Binary64.isDigit_of_mem_written negative m e)
  unfold finiteLiteral
  dsimp only
  split_ifs
  · exact hgeneral
  · exact List.forall_mem_append.mpr ⟨hgeneral, List.all_eq_true.mp rfl⟩

lemma isNumeralByte_of_isDecimal {t : Text} (h : isDecimal t) : ∀ b ∈ t, isNumeralByte b := by
  have hdigits : ∀ b ∈ (Integer.signed t).2, Integer.isDigit b := by
    simp only [isDecimal, Bool.and_eq_true, List.all_eq_true] at h
    exact h.2
  intro b hb
  unfold Integer.signed at hdigits
  split at hdigits
  · rcases List.mem_cons.mp hb with rfl | hb
    · decide
    · exact isNumeralByte_of_isDigit (hdigits b hb)
  · rcases List.mem_cons.mp hb with rfl | hb
    · decide
    · exact isNumeralByte_of_isDigit (hdigits b hb)
  · exact isNumeralByte_of_isDigit (hdigits b hb)

/-- A floating-point number is spelled by these bytes or as one of the words. -/
lemma spellsNumber_floatLiteral (text : Text) (x : Binary64) :
    (floatLiteral text x).SpellsNumber := by
  cases x with
  | infinite negative => cases negative <;> simp [floatLiteral, SpellsNumber]
  | nan => simp [floatLiteral, SpellsNumber]
  | finite negative m e =>
    left
    simp only [floatLiteral]
    split_ifs with hwide
    · obtain ⟨-, hdecimal⟩ := Bool.and_eq_true_iff.mp hwide
      intro b hb
      refine isNumeralByte_of_isDecimal hdecimal b ?_
      unfold dropStart? at hb
      split_ifs at hb
      · exact List.mem_of_mem_drop hb
      · exact hb
    · exact isNumeralByte_of_mem_finiteLiteral negative m e

end Document

/-! ### Texts made of parts -/

namespace Text

/-- The text is a row of texts that satisfy `P`. -/
def MadeOf (P : Text → Prop) (t : Text) : Prop :=
  ∃ parts : List Text, t = parts.flatten ∧ ∀ p ∈ parts, P p

namespace MadeOf

variable {P Q : Text → Prop} {s t : Text}

lemma part (h : P t) : t.MadeOf P :=
  ⟨[t], by simp, by simpa using h⟩

lemma append (hs : s.MadeOf P) (ht : t.MadeOf P) : (s ++ t).MadeOf P := by
  obtain ⟨ps, rfl, hps⟩ := hs
  obtain ⟨qs, rfl, hqs⟩ := ht
  refine ⟨ps ++ qs, by simp, ?_⟩
  exact List.forall_mem_append.mpr ⟨hps, hqs⟩

/-- A list with separators is made of parts if both are. -/
lemma join {sep : Text} {ts : List Text} (hsep : sep.MadeOf P) (hts : ∀ t ∈ ts, t.MadeOf P) :
    (Text.join sep ts).MadeOf P := by
  induction ts with
  | nil => exact ⟨[], rfl, by simp⟩
  | cons t ts ih =>
    obtain ⟨ht, hts⟩ := List.forall_mem_cons.mp hts
    cases ts with
    | nil => simpa using ht
    | cons u us =>
      have hjoin : Text.join sep (t :: u :: us) = t ++ sep ++ Text.join sep (u :: us) := by
        simp [join_cons]
      rw [hjoin]
      exact (ht.append hsep).append (ih hts)

lemma mono (h : t.MadeOf P) (hPQ : ∀ p, P p → Q p) : t.MadeOf Q := by
  obtain ⟨ps, rfl, hps⟩ := h
  exact ⟨ps, rfl, fun p hp => hPQ p (hps p hp)⟩

end MadeOf

def IsTruthWord (t : Text) : Prop :=
  t = "true" ∨ t = "false"

instance (t : Text) : Decidable t.IsTruthWord :=
  inferInstanceAs (Decidable (_ ∨ _))

/-- The text is a null, a truth value or the string literal of `value`. -/
def IsLiteralOf (t value : Text) : Prop :=
  t = "NULL" ∨ t.IsTruthWord ∨ t = quoteLiteral value

instance (t value : Text) : Decidable (t.IsLiteralOf value) :=
  inferInstanceAs (Decidable (_ ∨ _))

end Text

/-! ### Resolved tags -/

namespace Yaml.Scalar

lemma tag_ne_bool_of_number? {t : Text} {v : Scalar} (h : number? t = some v) : v.tag ≠ .bool := by
  simp only [number?, Option.or_eq_some_iff, Option.map_eq_some_iff] at h
  grind [tag]

/-- A text that is none of the words does not stand for a truth value. -/
lemma tag_resolve_ne_bool {t : Text} (h : words.lookup t = none) (dates : Bool) :
    (resolve dates t).tag ≠ .bool := by
  simp only [resolve, h]
  by_cases hnumber : startsNumber t
  · rw [if_pos hnumber]
    split
    · simp [tag]
    · cases hvalue : number? t with
      | none => simp [tag]
      | some v => exact tag_ne_bool_of_number? hvalue
  · rw [if_neg hnumber]
    split_ifs
    · cases Binary64.ofSpacedText? t <;> simp [tag]
    · simp [tag]

/-- A scalar without a tag that is resolved to a truth value is one, in some case of letters. -/
lemma isTruthWord_of_plainTag {t : Text} (h : plainTag t = .bool) : t.lower.IsTruthWord := by
  have hwords : ∀ p ∈ words, p.2.tag = .bool → p.1.lower.IsTruthWord := by decide
  unfold plainTag at h
  split_ifs at h
  cases hlookup : words.lookup t with
  | none => exact absurd h (tag_resolve_ne_bool hlookup true)
  | some v =>
    obtain ⟨front, back, hsplit, -⟩ := List.lookup_eq_some_iff.mp hlookup
    simp only [resolve, hlookup] at h
    exact hwords (t, v) (by simp [hsplit]) h

end Yaml.Scalar

namespace Document

/-! ### Where the text of an operand comes from -/

/-- What a node contributes to the text of an operand by itself. Only the last four are texts of the
document outside quotes. -/
inductive Contributes (n : Node) : Text → Prop
  | null {line : Nat} {text : Text} : n.resolved = .scalar line .null text → Contributes n "NULL"
  | string {line : Nat} {tag : Tag} {text : Text} :
      n.resolved = .scalar line tag text → tag = .str ∨ tag = .timestamp →
        Contributes n (quoteLiteral text)
  | truth {line : Nat} {text : Text} :
      n.resolved = .scalar line .bool text → text.lower.IsTruthWord → Contributes n text.lower
  | number {line : Nat} {tag : Tag} {text literal : Text} :
      n.resolved = .scalar line tag text → tag = .int ∨ tag = .float →
        numberLiteral? tag text = some literal → literal.SpellsNumber → Contributes n literal
  | mistagged {line : Nat} {text : Text} :
      n.resolved = .scalar line .bool text → ¬ text.lower.IsTruthWord → Contributes n text.lower
  | const {body : Node} : Names n "const" body none → Contributes n body.resolved.text
  | name {kind : Text} {body : Node} {args : Option Node} :
      kind = "param" ∨ kind = "func" → Names n kind body args → Contributes n body.resolved.text
  | column {body : Node} :
      Names n "column" body none → Contributes n (Identifier.ofText body.resolved.text).cql

/-- The marks between the parts of an operand. -/
def marks : List Text :=
  ["(", ")", "[", "]", "\x7b", "\x7d", ", ", ": ", "?", ":"]

/-- The text is a mark, or what the node or a node inside it contributes. -/
def IsPart (n : Node) (t : Text) : Prop :=
  t ∈ marks ∨ ∃ m, (m = n ∨ n.Contains m) ∧ Contributes m t

/-- What is a part inside a part is one of the whole. -/
lemma IsPart.of_contains {n m : Node} {t : Text} (hm : n.Contains m) (h : IsPart m t) :
    IsPart n t := by
  rcases h with hmark | ⟨k, rfl | hk, ht⟩
  · exact .inl hmark
  · exact .inr ⟨k, .inr hm, ht⟩
  · exact .inr ⟨k, .inr (.trans hm hk), ht⟩

lemma IsPart.of_contributes {n : Node} {t : Text} (h : Contributes n t) : IsPart n t :=
  .inr ⟨n, .inl rfl, h⟩

lemma madeOf_mark {n : Node} {t : Text} (h : t ∈ marks) : t.MadeOf (IsPart n) :=
  .part (.inl h)

/-- A row of texts between two others, set apart by commas. -/
lemma madeOf_between {n : Node} {opening closing : Text} {ts : List Text}
    (hopening : opening.MadeOf (IsPart n)) (hclosing : closing ∈ marks)
    (hts : ∀ t ∈ ts, t.MadeOf (IsPart n)) :
    (opening ++ Text.join ", " ts ++ closing).MadeOf (IsPart n) :=
  (hopening.append (.join (madeOf_mark (by simp [marks])) hts)).append (madeOf_mark hclosing)

/-- A call is made of its name, its arguments and marks. -/
lemma madeOf_call {n : Node} {name : Text} {args : List Operand} (hname : Contributes n name)
    (hargs : ∀ a ∈ args, a.cql.MadeOf (IsPart n)) :
    (Operand.call name args).cql.MadeOf (IsPart n) := by
  have hopening : (name ++ Text.ofString "(").MadeOf (IsPart n) :=
    .append (.part (.of_contributes hname)) (madeOf_mark (by simp [marks]))
  rw [Operand.cql, Operand.cqlList_eq_map]
  exact madeOf_between hopening (by simp [marks]) (List.forall_mem_map.mpr hargs)

lemma madeOf_tuple {n : Node} {elements : List Operand}
    (helements : ∀ e ∈ elements, e.cql.MadeOf (IsPart n)) :
    (Operand.tuple elements).cql.MadeOf (IsPart n) := by
  rw [Operand.cql, Operand.cqlList_eq_map]
  exact madeOf_between (madeOf_mark (by simp [marks])) (by simp [marks])
    (List.forall_mem_map.mpr helements)

/-- A collection is made of its keys, its values and marks. -/
lemma madeOf_collection {n : Node} (kind : CollectionKind) {elements : List (Operand × Operand)}
    (hkeys : ∀ e ∈ elements, e.1 = .hole ∨ e.1.cql.MadeOf (IsPart n))
    (hvalues : ∀ e ∈ elements, e.2.cql.MadeOf (IsPart n)) :
    (Operand.collection kind elements).cql.MadeOf (IsPart n) := by
  have helements : ∀ t ∈ Operand.cqlElements kind elements, t.MadeOf (IsPart n) := by
    rw [Operand.cqlElements_eq_map]
    refine List.forall_mem_map.mpr fun e he => ?_
    unfold Operand.elementCql
    split_ifs with hpair
    · rcases hkeys e he with hhole | hkey
      · simp [hhole, Operand.isHole] at hpair
      · exact (hkey.append (madeOf_mark (by simp [marks]))).append (hvalues e he)
    · exact hvalues e he
  rw [Operand.cql]
  unfold Operand.collectionCql
  split_ifs
  · exact madeOf_between (madeOf_mark (by simp [marks])) (by simp [marks]) helements
  · exact madeOf_between (madeOf_mark (by simp [marks])) (by simp [marks]) helements

/-- An operand without parts is made of what its node contributes. -/
lemma SpellsLeaf.madeOf {n : Node} {o : Operand} (h : SpellsLeaf n o) :
    o.cql.MadeOf (IsPart n) := by
  cases h with
  | null hn => exact .part (.of_contributes (.null (Node.standsFor_iff.mp hn)))
  | string hn htag => exact .part (.of_contributes (.string (Node.standsFor_iff.mp hn) htag))
  | @truth line text hn =>
    rw [Node.standsFor_iff] at hn
    -- nothing has checked the text of a scalar with this tag
    by_cases htruth : text.lower.IsTruthWord
    · exact .part (.of_contributes (.truth hn htruth))
    · exact .part (.of_contributes (.mistagged hn htruth))
  | @integer line tag text value hn htag hvalue =>
    have hliteral : numberLiteral? tag text = some (Text.ofInt value) := by
      rw [numberLiteral?, hvalue]
    exact .part (.of_contributes (.number (Node.standsFor_iff.mp hn) htag hliteral
      (.inl (Text.isNumeralByte_of_mem_ofInt value))))
  | @real line tag text value hn htag hvalue =>
    have hliteral : numberLiteral? tag text = some (floatLiteral text value) := by
      rw [numberLiteral?, hvalue]
    exact .part (.of_contributes (.number (Node.standsFor_iff.mp hn) htag hliteral
      (spellsNumber_floatLiteral text value)))
  | const hnames hbody =>
    obtain rfl := Node.standsFor_iff.mp hbody
    exact .part (.of_contributes (.const hnames))
  | param hnames hbody =>
    obtain rfl := Node.standsFor_iff.mp hbody
    rw [Operand.cql]
    split_ifs
    · exact madeOf_mark (by simp [marks])
    · exact (madeOf_mark (by simp [marks])).append
        (.part (.of_contributes (.name (.inl rfl) hnames)))
  | column hnames hbody =>
    obtain rfl := Node.standsFor_iff.mp hbody
    exact .part (.of_contributes (.column hnames))
  | call hnames hbody =>
    obtain rfl := Node.standsFor_iff.mp hbody
    exact madeOf_call (.name (.inr rfl) hnames) (by simp)

lemma SpellsElements.madeOf {n : Node} {make : List Operand → Operand} {items : List Node}
    {os : List Operand} (h : SpellsElements n make items)
    (hos : ∀ o ∈ os, o.cql.MadeOf (IsPart n)) : (make os).cql.MadeOf (IsPart n) := by
  cases h with
  | tuple _ _ => exact madeOf_tuple hos
  | list _ _ | set _ _ => exact madeOf_collection _ (by simp) (by simpa using hos)
  | call hnames hbody _ =>
    obtain rfl := Node.standsFor_iff.mp hbody
    exact madeOf_call (.name (.inr rfl) hnames) hos

/-- The text of an operand is made of marks and of what the nodes that spell it contribute. -/
lemma Spells.madeOf {n : Node} {o : Operand} (h : Spells n o) : o.cql.MadeOf (IsPart n) := by
  induction h with
  | leaf h => exact h.madeOf
  | @elements n make items os h hlength _ ih =>
    -- what an item contributes, it contributes as a node inside `n`
    refine h.madeOf (forall_of_zip hlength fun {m o} hmo => ?_)
    have hm := h.contains (List.of_mem_zip hmo).1
    exact (ih hmo).mono fun t => .of_contains hm
  | @entries n items es key value h hlength hread _ _ ihKey ihValue =>
    have hparts : ∀ e ∈ es, e.1.cql.MadeOf (IsPart n) ∧ e.2.cql.MadeOf (IsPart n) := by
      refine forall_of_zip hlength fun {m e} hme => ?_
      have hm := (List.of_mem_zip hme).1
      obtain ⟨hkey, hvalue⟩ := (hread m hm).contains
      constructor
      · exact (ihKey hme).mono fun t => .of_contains (.trans (h.contains hm) hkey)
      · exact (ihValue hme).mono fun t => .of_contains (.trans (h.contains hm) hvalue)
    exact madeOf_collection .map (fun e he => .inr (hparts e he).1) fun e he => (hparts e he).2

/-! ### Scalars -/

section

variable {entry line : Nat} {n : Node} {tag : Tag} {text : Text}

/-- A scalar that is no number gives a null, a string or a truth value by its tag. -/
lemma operand_scalar (hn : n.resolved = .scalar line tag text) (hint : tag ≠ .int)
    (hfloat : tag ≠ .float) (o : Operand) : operand entry n = .ok o ↔
      tag = .null ∧ o = .null ∨ (tag = .str ∨ tag = .timestamp) ∧ o = .string text ∨
        tag = .bool ∧ o = .const text.lower := by
  rw [operand_eq, Shape.of, hn]
  cases tag <;> simp_all [Shape.ofScalar, Shape.operand, eq_comm]

/-- A scalar that is no number has one of the literals, unless it is tagged as a truth value and is
none. -/
lemma forall_isLiteralOf_iff (hn : n.resolved = .scalar line tag text) (hint : tag ≠ .int)
    (hfloat : tag ≠ .float) :
    (∀ o, operand entry n = .ok o → o.cql.IsLiteralOf text) ↔
      (tag = .bool → text.lower.IsTruthWord) := by
  simp only [operand_scalar hn hint hfloat]
  constructor
  · rintro h rfl
    rcases h _ (.inr (.inr ⟨rfl, rfl⟩)) with hnull | htruth | hquoted
    · exact absurd hnull text.lower_ne_null
    · exact htruth
    · exact absurd hquoted text.lower_ne_quoteLiteral
  · rintro h o (⟨-, rfl⟩ | ⟨-, rfl⟩ | ⟨htag, rfl⟩)
    · exact .inl rfl
    · exact .inr (.inr rfl)
    · exact .inr (.inl (h htag))

end

/-- A scalar that is no number is written as a literal if it is accepted, unless it is tagged as a
truth value without being one; a tag that is resolved from the text never does that. Everything that
is written of an operand is a mark or comes from one of its nodes. -/
theorem operand_text (entry : Nat) (n : Node) :
    (∀ line tag text, n.resolved = .scalar line tag text → tag ≠ .int → tag ≠ .float →
      ((∃ o, operand entry n = .ok o) ↔ tag ∈ [.null, .bool, .str, .timestamp]) ∧
      ((∀ o, operand entry n = .ok o → o.cql.IsLiteralOf text) ↔
        (tag = .bool → text.lower.IsTruthWord))) ∧
    (∀ text, Scalar.plainTag text = .bool → text.lower.IsTruthWord) ∧
    ∀ o, operand entry n = .ok o → o.cql.MadeOf (IsPart n) := by
  refine ⟨?_, fun text => Scalar.isTruthWord_of_plainTag, fun o h => (spells_of_operand h).madeOf⟩
  intro line tag text hn hint hfloat
  refine ⟨?_, forall_isLiteralOf_iff hn hint hfloat⟩
  simp only [operand_scalar hn hint hfloat]
  cases tag <;> simp_all

def secondStatement : Text :=
  "1); DROP TABLE t; --"

/-- A row whose value is tagged as a truth value. -/
def mistaggedRow : Text :=
  "statements: [\x7binsert: \x7btable: t, columns: [a], values: [!!bool '"
    ++ secondStatement ++ "']\x7d\x7d]"

/-- With the tag of a truth value, a text is not held back by quotes. -/
theorem operand_text_mistagged :
    (∃ o, operand 0 (.scalar 1 .bool secondStatement) = .ok o ∧
      ¬ o.cql.IsLiteralOf secondStatement) ∧
    (parse mistaggedRow).toOption.map (List.map Statement.cql) =
      some [Text.ofString "INSERT INTO t (a) VALUES (1); drop table t; --)"] := by
  refine ⟨⟨.const secondStatement.lower, rfl, ?_⟩, ?_⟩
  · decide +kernel
  · decide +kernel

end Document

end CqlWriter
