import FilterBox.Proofs.Printing.RoundTrip

/-!
Normalising queries.

What is read is well-formed, so by the round trip a normalised query means the same exactly when its
filter is readable. The filters that are not readable are within reach: any text can be asked for in
quotes, and only some of the quotes are printed again.
-/

namespace FilterBox

open Text Lexeme Scan

namespace Grammar

theorem Items.scalars {tokens : List Token} {items : List Value} (derived : Items tokens items) :
    items ≠ [] ∧ ∀ item ∈ items, item.isList = false := by
  induction derived with
  | @one token _ => simp [token.isList_value]
  | @more _ items _ token _ _ _ inductionHypothesis =>
      refine ⟨by simp, ?_⟩
      rw [List.forall_mem_append]
      exact ⟨inductionHypothesis.2, by simp [token.isList_value]⟩

theorem Derives.isWellFormed {category : Category} {tokens : List Token} {filter : Filter}
    (derived : Derives category tokens filter)
    (named : ∀ token ∈ tokens, token.kind = .field →
      Unfinished.isFieldName token.text.toList = true) : filter.isWellFormed = true := by
  induction derived with
  | disjunction _ _ _ left right =>
      simp only [List.forall_mem_append, List.forall_mem_cons] at named
      simp only [Filter.isWellFormed, Filter.leaves, List.all_append, Bool.and_eq_true]
      exact ⟨left named.1, right named.2.2⟩
  | product _ inductionHypothesis => exact inductionHypothesis named
  | conjunction _ _ _ left right =>
      simp only [List.forall_mem_append, List.forall_mem_cons] at named
      simp only [Filter.isWellFormed, Filter.leaves, List.all_append, Bool.and_eq_true]
      exact ⟨left named.1, right named.2.2⟩
  | factor _ inductionHypothesis => exact inductionHypothesis named
  | negation _ _ inductionHypothesis =>
      rw [List.forall_mem_cons] at named
      exact inductionHypothesis named.2
  | operand _ inductionHypothesis => exact inductionHypothesis named
  | group _ _ _ inductionHypothesis =>
      rw [List.cons_append, List.forall_mem_cons, List.forall_mem_append] at named
      exact inductionHypothesis named.2.1
  | @comparison field operator value isField _ takesOne _ =>
      have name := named field (by simp) isField
      have scalar := value.isList_value
      cases written : value.value with
      | list items => simp [written, Value.isList] at scalar
      | _ => simp [Filter.isWellFormed, Filter.leaves, Condition.isWellFormed, name, takesOne]
  | @membership field operator opening closing tokens items isField _ takesList _ derived _ =>
      have name := named field (by simp) isField
      obtain ⟨nonempty, scalars⟩ := derived.scalars
      simpa [Filter.isWellFormed, Filter.leaves, Condition.isWellFormed, name, takesList, nonempty]
        using scalars

end Grammar

namespace Query

theorem isWellFormed_of_parse {query : String} {filter : Filter}
    (read : parse query = .ok (some filter)) : filter.isWellFormed = true := by
  obtain ⟨tokens, _, layout, _, derived⟩ := exists_derivation read
  exact derived.isWellFormed layout.named

theorem normalize_of_parse {query : String} {filter : Filter}
    (read : parse query = .ok (some filter)) : normalize query = .ok filter.text := by
  simp [normalize, read, Except.map]

theorem parse_quoted (name text : String) (named : Unfinished.isFieldName name.toList = true)
    (closed : text.toList.getLast? ≠ some '\\') :
    ∃ span, parse (name ++ ":" ++ String.ofList (quoted text.toList)) =
      .ok (some (.condition ⟨name, .equals, .string text, some span⟩)) := by
  have whole : (name ++ ":" ++ String.ofList (quoted text.toList)).toList =
      name.toList ++ (Operator.equals.symbol.toList ++ quoted text.toList) := by
    simp [Operator.symbol]
  have apart : Apart .equals (quoted text.toList ++ []) := by
    rw [quoted_append]
    exact apart_equals_of_head (by decide) (by decide)
  have found : first? .value (quoted text.toList ++ []) =
      some ⟨.value, some .string, (quoted text.toList).length, text.toList, true⟩ := by
    rw [← value?_quoted closed, quoted_append]
    exact first?_eq_value? (by decide) (by decide)
  obtain ⟨field, readField, isField, fieldText, _⟩ :=
    Reads.field named (quoted text.toList ++ []) 0
  obtain ⟨operator, readOperator, isOperator, stands⟩ :=
    Reads.symbol apart .field (0 + byteLength name.toList)
  have visible : endsAt isSpace (quoted text.toList) = false := rfl
  obtain ⟨value, readValue, isValue, valueText, valueKind, _⟩ :=
    Reads.lexeme visible found
      (0 + byteLength name.toList + byteLength Operator.equals.symbol.toList)
  have read := readField.append (readOperator.append readValue)
  have derived := Grammar.Derives.expression_of_operand
    (.comparison isField isOperator (by rw [stands]; rfl) isValue)
  refine ⟨field.span.cover value.span, ?_⟩
  have same : value.value = .string text := by simp [Token.value, valueText, valueKind]
  rw [fieldText, stands, same] at derived
  rw [← whole] at read
  exact (parse_eq_ok_some_iff read.tokens_eq derived.kinds).mpr derived

/-- A query has a normal form. The form reads back as an equal filter, and is its own normal form,
exactly when the filter is readable. -/
theorem normalize_iff_isReadable {query : String} {filter : Filter}
    (read : parse query = .ok (some filter)) :
    ∃ text, normalize query = .ok text ∧
      ((∃ filter', parse text = .ok (some filter') ∧ filter'.equal filter = true ∧
          normalize text = .ok text) ↔
        filter.isReadable = true) := by
  have wellFormed := isWellFormed_of_parse read
  refine ⟨filter.text, normalize_of_parse read, ?_, ?_⟩
  · rintro ⟨filter', readAgain, same, _⟩
    exact isReadable_of_parse_text wellFormed readAgain same
  · intro readable
    obtain ⟨filter', readAgain, same⟩ := exists_parse_text wellFormed readable
    refine ⟨filter', readAgain,
      Filter.equal_of_unplaced_eq same (Filter.isReadable_iff.mp readable).1, ?_⟩
    rw [normalize_of_parse readAgain, Filter.text_eq_of_unplaced_eq same]

/-- A keyword asked for in quotes keeps them. -/
theorem normalize_iff_isReadable_keyword :
    ∃ filter text filter', parse "role:\"or\"" = .ok (some filter) ∧
      normalize "role:\"or\"" = .ok text ∧ parse text = .ok (some filter') ∧
      filter'.equal filter = true ∧ normalize text = .ok text := by
  have written : "role:\"or\"" = "role" ++ ":" ++ String.ofList (quoted "or".toList) := by decide
  rw [written]
  obtain ⟨span, read⟩ := parse_quoted "role" "or" (by decide) (by decide)
  obtain ⟨text, normal, meaning⟩ := normalize_iff_isReadable read
  obtain ⟨filter', readAgain, same, fixed⟩ := meaning.mpr rfl
  exact ⟨_, text, filter', read, normal, readAgain, same, fixed⟩

/-- A text that begins with a sign loses its quotes and its meaning, though it does not end in a
backslash. -/
theorem normalize_sign_changes_meaning :
    ∃ filter, parse "a:\">5\"" = .ok (some filter) ∧
      (∀ leaf ∈ filter.leaves, ∀ text, .string text ∈ leaf.value.scalars →
        ¬ (Value.needsQuotes text.toList = true ∧ text.toList.getLast? = some '\\')) ∧
      ¬ ∃ text filter', normalize "a:\">5\"" = .ok text ∧ parse text = .ok (some filter') ∧
        filter'.equal filter = true ∧ normalize text = .ok text := by
  have written : "a:\">5\"" = "a" ++ ":" ++ String.ofList (quoted ">5".toList) := by decide
  rw [written]
  obtain ⟨span, read⟩ := parse_quoted "a" ">5" (by decide) (by decide)
  refine ⟨_, read, ?_, ?_⟩
  · intro leaf member text isText
    obtain rfl := List.mem_singleton.mp member
    obtain rfl : text = ">5" := by simpa [Value.scalars] using isText
    decide
  · rintro ⟨text, filter', normal, readAgain, same, _⟩
    obtain rfl := Except.ok.inj ((normalize_of_parse read).symm.trans normal)
    have readable := isReadable_of_parse_text (isWellFormed_of_parse read) readAgain same
    exact absurd (readable.symm.trans (rfl : _ = false)) (by decide)

end Query

end FilterBox
