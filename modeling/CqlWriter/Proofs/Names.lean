import Mathlib
import CqlWriter.Statement.TableName
import CqlWriter.Proofs.Text

/-!
# Names and their texts

A name can be read back from its text. The search for the dot that ends a keyspace toggles at every
quote, so a text is passed over as a whole when it shows no dot outside quotes, and the search goes
on in the state that the text leaves it in. A quoted name is passed over in this way and leaves the
search outside quotes, whatever it holds.
-/

namespace CqlWriter

/-! ### Quoted names -/

lemma undouble_cons_of_ne {b : UInt8} (h : b ≠ 0x22) (t : Text) :
    undouble (b :: t) = b :: undouble t := by
  rw [undouble]
  rintro rest rfl
  simp at h

lemma undouble_doubled (t : Text) : undouble (Text.doubled 0x22 t) = t := by
  induction t with
  | nil => rfl
  | cons b t ih =>
    by_cases hb : b = 0x22
    · subst hb
      rw [Text.doubled_cons_self, undouble, ih]
    · rw [Text.doubled_cons_of_ne hb, undouble_cons_of_ne hb, ih]

/-- Undoubling quotes brings in no byte. -/
lemma mem_of_mem_undouble {b : UInt8} {t : Text} (h : b ∈ undouble t) : b ∈ t := by
  induction t using undouble.induct with
  | case1 rest ih =>
    rw [undouble, List.mem_cons] at h
    rcases h with rfl | h
    · simp
    · simp [ih h]
  | case2 c rest hne ih =>
    rw [undouble, List.mem_cons] at h
    · rcases h with rfl | h
      · simp
      · simp [ih h]
    · exact hne
  | case3 => exact h

lemma quoteName_eq {name : Text} (h : 0 ∉ name) :
    quoteName name = 0x22 :: (Text.doubled 0x22 name ++ [0x22]) := by
  have hall : name.takeWhile (· ≠ 0) = name := by
    rw [List.takeWhile_eq_self_iff]
    intro b hb
    simpa using ne_of_mem_of_not_mem hb h
  rw [quoteName, hall]
  rfl

namespace Identifier

/-- A quoted name is read back from its text. -/
lemma ofText_quoteName {name : Text} (h : 0 ∉ name) :
    ofText (quoteName name) = ⟨name, true⟩ := by
  have hlast : (0x22 :: (Text.doubled 0x22 name ++ [0x22])).getLast? = some 0x22 := by
    rw [← List.cons_append, List.getLast?_concat]
  have hquoted : isQuotedName (quoteName name) = true := by
    simp [isQuotedName, quoteName_eq h, hlast]
  rw [ofText, if_pos hquoted, quoteName_eq h]
  simp [undouble_doubled]

lemma cql_quoted (name : Text) : (⟨name, true⟩ : Identifier).cql = quoteName name := rfl

lemma cql_unquoted (name : Text) : (⟨name, false⟩ : Identifier).cql = name := rfl

/-- The text of an identifier that was read is the text itself, or it is the text of a quoted
name. -/
lemma cql_ofText_cases {t : Text} (h : 0 ∉ t) :
    ofText t = ⟨t, false⟩ ∨ ∃ name, 0 ∉ name ∧ ofText t = ⟨name, true⟩ := by
  by_cases hq : isQuotedName t = true
  · refine .inr ⟨undouble (t.drop 1).dropLast, ?_, by rw [ofText, if_pos hq]⟩
    intro hmem
    exact h (List.mem_of_mem_drop (List.mem_of_mem_dropLast (mem_of_mem_undouble hmem)))
  · exact .inl (by rw [ofText, if_neg hq])

/-- Reading the text of an identifier that was read gives the same identifier. -/
lemma ofText_cql_ofText {t : Text} (h : 0 ∉ t) : ofText (ofText t).cql = ofText t := by
  obtain hread | ⟨name, hname, hread⟩ := cql_ofText_cases h
  · rw [hread, cql_unquoted, hread]
  · rw [hread, cql_quoted, ofText_quoteName hname]

/-- A quoted name without a zero byte, or an unquoted one without a quote and without a dot. -/
def Separable (i : Identifier) : Prop :=
  if i.quoted then 0 ∉ i.name else 0x22 ∉ i.name ∧ 0x2e ∉ i.name

instance (i : Identifier) : Decidable i.Separable :=
  inferInstanceAs (Decidable (if i.quoted then 0 ∉ i.name else 0x22 ∉ i.name ∧ 0x2e ∉ i.name))

lemma Separable.ofText_cql {i : Identifier} (h : i.Separable) : ofText i.cql = i := by
  obtain ⟨name, _ | _⟩ := i
  · have hquote : 0x22 ∉ name := h.1
    have hread : isQuotedName name = false := by
      cases name with
      | nil => rfl
      | cons b t =>
        have hb : b ≠ 0x22 := fun hb => hquote (by simp [hb])
        simp [isQuotedName, hb]
    rw [cql_unquoted, ofText, hread]
    rfl
  · exact ofText_quoteName h

end Identifier

/-! ### The search for the dot -/

namespace TableName

/-- Whether the search for the dot is inside quotes after a text, from whether it was before. -/
def quotesAfter (inQuotes : Bool) (t : Text) : Bool :=
  t.foldl (fun q b => if b = 0x22 then !q else q) inQuotes

lemma splitDot?_cons_of_not {b : UInt8} {inQuotes : Bool} (h : ¬ (b = 0x2e ∧ inQuotes = false))
    (t : Text) :
    splitDot? inQuotes (b :: t)
      = (splitDot? (quotesAfter inQuotes [b]) t).map fun p => (b :: p.1, p.2) := by
  rw [splitDot?]
  exact if_neg h

/-- The search passes over a text without a dot outside quotes. -/
lemma splitDot?_append {inQuotes : Bool} {t : Text} (h : splitDot? inQuotes t = none) (u : Text) :
    splitDot? inQuotes (t ++ u)
      = (splitDot? (quotesAfter inQuotes t) u).map fun p => (t ++ p.1, p.2) := by
  induction t generalizing inQuotes with
  | nil => simp [quotesAfter]
  | cons b t ih =>
    by_cases hb : b = 0x2e ∧ inQuotes = false
    · obtain ⟨rfl, rfl⟩ := hb
      cases h
    · rw [splitDot?_cons_of_not hb, Option.map_eq_none_iff] at h
      rw [List.cons_append, splitDot?_cons_of_not hb, ih h, Option.map_map]
      rfl

/-- The search stops at the first dot outside quotes. -/
lemma splitDot?_append_dot {t : Text} (h : splitDot? false t = none)
    (hq : quotesAfter false t = false) (u : Text) :
    splitDot? false (t ++ "." ++ u) = some (t, u) := by
  have hdot : splitDot? false ("." ++ u) = some ([], u) := rfl
  rw [List.append_assoc, splitDot?_append h, hq, hdot]
  simp

/-- What is found in front of the dot has no dot outside quotes, and the dot follows it. -/
lemma splitDot?_eq_some {inQuotes : Bool} {t l r : Text} (h : splitDot? inQuotes t = some (l, r)) :
    t = l ++ "." ++ r ∧ splitDot? inQuotes l = none ∧ quotesAfter inQuotes l = false := by
  induction t generalizing inQuotes l with
  | nil => simp [splitDot?] at h
  | cons b t ih =>
    by_cases hb : b = 0x2e ∧ inQuotes = false
    · obtain ⟨rfl, rfl⟩ := hb
      cases h
      exact ⟨rfl, rfl, rfl⟩
    · rw [splitDot?_cons_of_not hb, Option.map_eq_some_iff] at h
      obtain ⟨⟨l', r'⟩, hsplit, hpair⟩ := h
      cases hpair
      obtain ⟨rfl, hnone, hout⟩ := ih hsplit
      refine ⟨rfl, ?_, hout⟩
      rw [splitDot?_cons_of_not hb, hnone]
      rfl

/-! ### Texts that the search passes over -/

/-- A text with doubled quotes inside quotes is passed over and stays inside quotes. -/
lemma splitDot?_doubled (t : Text) :
    splitDot? true (Text.doubled 0x22 t) = none ∧
      quotesAfter true (Text.doubled 0x22 t) = true := by
  induction t with
  | nil => exact ⟨rfl, rfl⟩
  | cons b t ih =>
    obtain ⟨hnone, hin⟩ := ih
    by_cases hb : b = 0x22
    · subst hb
      rw [Text.doubled_cons_self, splitDot?_cons_of_not (by decide),
        splitDot?_cons_of_not (by decide)]
      -- the first of the two quotes leaves the quotes and the second enters them again
      refine ⟨?_, hin⟩
      rw [show quotesAfter (quotesAfter true [0x22]) [0x22] = true from rfl, hnone]
      rfl
    · rw [Text.doubled_cons_of_ne hb, splitDot?_cons_of_not (by simp)]
      have hstay : quotesAfter true [b] = true := by simp [quotesAfter, hb]
      refine ⟨?_, ?_⟩
      · rw [hstay, hnone]
        rfl
      · rw [show quotesAfter true (b :: Text.doubled 0x22 t)
            = quotesAfter (quotesAfter true [b]) (Text.doubled 0x22 t) from rfl, hstay, hin]

/-- A quoted name is passed over and leaves the search outside quotes. -/
lemma splitDot?_quoteName {name : Text} (h : 0 ∉ name) :
    splitDot? false (quoteName name) = none ∧ quotesAfter false (quoteName name) = false := by
  obtain ⟨hnone, hin⟩ := splitDot?_doubled name
  have hbody := splitDot?_append hnone [0x22]
  rw [hin] at hbody
  rw [quoteName_eq h]
  refine ⟨?_, ?_⟩
  · rw [splitDot?_cons_of_not (by decide), show quotesAfter false [0x22] = true from rfl, hbody]
    rfl
  · have happend : quotesAfter false (0x22 :: (Text.doubled 0x22 name ++ [0x22]))
        = quotesAfter (quotesAfter true (Text.doubled 0x22 name)) [0x22] := by
      simp [quotesAfter]
    rw [happend, hin]
    rfl

lemma splitDot?_of_forall {t : Text} (h : ∀ b ∈ t, b ≠ 0x22 ∧ b ≠ 0x2e) :
    splitDot? false t = none ∧ quotesAfter false t = false := by
  induction t with
  | nil => exact ⟨rfl, rfl⟩
  | cons b t ih =>
    obtain ⟨hquote, hdot⟩ := h b (by simp)
    obtain ⟨hnone, hout⟩ := ih fun c hc => h c (by simp [hc])
    have hstay : quotesAfter false [b] = false := by simp [quotesAfter, hquote]
    rw [splitDot?_cons_of_not (by simp [hdot]), hstay, hnone]
    refine ⟨rfl, ?_⟩
    rw [show quotesAfter false (b :: t) = quotesAfter (quotesAfter false [b]) t from rfl, hstay,
      hout]

lemma splitDot?_cql_of_separable {i : Identifier} (h : i.Separable) :
    splitDot? false i.cql = none ∧ quotesAfter false i.cql = false := by
  obtain ⟨name, _ | _⟩ := i
  · refine splitDot?_of_forall fun b hb => ⟨?_, ?_⟩
    · exact ne_of_mem_of_not_mem hb h.1
    · exact ne_of_mem_of_not_mem hb h.2
  · exact splitDot?_quoteName h

/-! ### Reading names back -/

lemma ofText_of_none {t : Text} (h : splitDot? false t = none) :
    ofText t = ⟨none, .ofText t⟩ := by
  rw [ofText, h]

lemma ofText_of_some {t keyspace name : Text} (h : splitDot? false t = some (keyspace, name)) :
    ofText t = ⟨some (.ofText keyspace), .ofText name⟩ := by
  rw [ofText, h]

/-- A table name is read back from its text when its quoted parts have no zero byte and its
unquoted parts have neither a quote nor a dot. -/
lemma ofText_cql {t : TableName} (hkeyspace : ∀ ks ∈ t.keyspace, ks.Separable)
    (hname : t.name.Separable) : ofText t.cql = t := by
  obtain ⟨_ | ks, name⟩ := t
  · rw [cql, ofText_of_none (splitDot?_cql_of_separable hname).1, hname.ofText_cql]
  · have hks : ks.Separable := hkeyspace ks rfl
    obtain ⟨hnone, hout⟩ := splitDot?_cql_of_separable hks
    rw [cql, ofText_of_some (splitDot?_append_dot hnone hout _), hks.ofText_cql, hname.ofText_cql]

/-- Whatever text a name was read from, reading its own text gives the same name. -/
lemma ofText_cql_ofText {t : Text} (h : 0 ∉ t) : ofText (ofText t).cql = ofText t := by
  cases hsplit : splitDot? false t with
  | none =>
    have hpass : splitDot? false (Identifier.ofText t).cql = none := by
      obtain hread | ⟨name, hname, hread⟩ := Identifier.cql_ofText_cases h
      · rw [hread, Identifier.cql_unquoted, hsplit]
      · rw [hread, Identifier.cql_quoted, (splitDot?_quoteName hname).1]
    rw [ofText_of_none hsplit, cql, ofText_of_none hpass, Identifier.ofText_cql_ofText h]
  | some parts =>
    obtain ⟨keyspace, name⟩ := parts
    obtain ⟨rfl, hnone, hout⟩ := splitDot?_eq_some hsplit
    have hkeyspace : 0 ∉ keyspace := fun hmem => h (by simp [hmem])
    have hname : 0 ∉ name := fun hmem => h (by simp [hmem])
    have hpass : splitDot? false (Identifier.ofText keyspace).cql = none ∧
        quotesAfter false (Identifier.ofText keyspace).cql = false := by
      obtain hread | ⟨n, hn, hread⟩ := Identifier.cql_ofText_cases hkeyspace
      · rw [hread, Identifier.cql_unquoted]
        exact ⟨hnone, hout⟩
      · rw [hread, Identifier.cql_quoted]
        exact splitDot?_quoteName hn
    rw [ofText_of_some hsplit, cql, ofText_of_some (splitDot?_append_dot hpass.1 hpass.2 _),
      Identifier.ofText_cql_ofText hkeyspace, Identifier.ofText_cql_ofText hname]

/-- Names round-trip between their text and their parsed form: every separable name is read back
from its text, and every text without a zero byte is read as a name that is read back. -/
theorem name_round_trip :
    (∀ t : TableName, (∀ ks ∈ t.keyspace, ks.Separable) → t.name.Separable → ofText t.cql = t) ∧
    (∀ s : Text, 0 ∉ s → ofText (ofText s).cql = ofText s) :=
  ⟨fun _ hkeyspace hname => ofText_cql hkeyspace hname, fun _ h => ofText_cql_ofText h⟩

/-- A keyspace with a quote in front of a dot, and a text with an odd number of quotes. -/
theorem name_round_trip_odd_quotes :
    ofText (cql ⟨some ⟨"a\".b", true⟩, ⟨"c", false⟩⟩) = ⟨some ⟨"a\".b", true⟩, ⟨"c", false⟩⟩ ∧
    ofText (cql (ofText "\"a\"b\".c")) = ofText "\"a\"b\".c" := by
  refine ⟨name_round_trip.1 _ ?_ (by decide), name_round_trip.2 _ (by decide)⟩
  intro ks hks
  cases hks
  decide

end TableName

end CqlWriter
