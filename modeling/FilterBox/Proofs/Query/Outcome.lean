import FilterBox.Proofs.Printing.Normalization
import FilterBox.Proofs.Query.Exactness
import FilterBox.Proofs.Token.Spacing
import FilterBox.Proofs.Token.Spelling
import FilterBox.Proofs.Value.Numbers

/-!
What may come of reading a query.

Nothing is read off a query exactly when all of it is passed over (`parse_eq_ok_none_iff`). The
conditions of a filter have names for fields, a place, a list just where their operator takes one,
and no value that is not a number where one should be (`isSound_of_parse`). An error stands at the
end of the query or at a token (`isPlacedIn_of_parse`).
-/

namespace FilterBox

open Text

theorem Operator.takesList_iff {operator : Operator} :
    operator.takesList = true ↔ operator = .inList ∨ operator = .notInList := by
  cases operator <;> simp [takesList]

/-- What holds of every condition that is read off a query. -/
structure Condition.IsSound (leaf : Condition) : Prop where
  named : Unfinished.isFieldName leaf.field.toList = true
  placed : leaf.span.isSome = true
  listed : leaf.value.isList = true ↔ leaf.operator = .inList ∨ leaf.operator = .notInList
  items : ∀ items, leaf.value = .list items → items ≠ [] ∧ ∀ item ∈ items, item.isList = false
  numbers : ∀ amount ∈ leaf.value.numbers, amount ≠ .nan

/-- Where a query is at fault: at its end if there is a token missing, and at a token if it is that
one. -/
structure SyntaxError.IsPlacedIn (query : String) (error : SyntaxError) : Prop where
  boundary : ∃ before after, query.toList = before ++ after ∧ error.position = byteLength before
  inside : error.position ≤ byteLength query.toList
  atEnd : error.position = byteLength query.toList ↔ error.found = .endOfInput
  atToken : error.found ≠ .endOfInput →
    ∃ token ∈ Query.tokens query, token.kind = error.found ∧ token.span.start = error.position

theorem Token.IsKnown.numbers {token : Token} (known : token.IsKnown) :
    ∀ amount ∈ token.value.numbers, amount ≠ .nan := by
  cases kind : token.valueKind with
  | none => simp [Token.value, kind]
  | some kind' =>
      cases kind' with
      | string => simp [Token.value, kind]
      | boolean => simp [Token.value, kind]
      | number =>
          obtain ⟨amount, _, value, isNumber⟩ := known.number kind
          simpa [value] using isNumber

namespace Grammar

theorem Items.exists_token {tokens : List Token} {items : List Value}
    (derived : Items tokens items) :
    ∀ item ∈ items, ∃ token ∈ tokens, item = token.value := by
  induction derived with
  | @one token _ => simp
  | @more tokens items comma token _ _ _ inductionHypothesis =>
      intro item member
      rcases List.mem_append.mp member with member | last
      · obtain ⟨earlier, isEarlier, same⟩ := inductionHypothesis item member
        exact ⟨earlier, List.mem_append_left _ isEarlier, same⟩
      · exact ⟨token, by simp, List.mem_singleton.mp last⟩

theorem IsStretch.isSound {stretch : List Token} {leaf : Condition}
    (isStretch : IsStretch stretch leaf)
    (named : ∀ token ∈ stretch,
      token.kind = .field → Unfinished.isFieldName token.text.toList = true)
    (known : ∀ token ∈ stretch, token.IsKnown) : leaf.IsSound := by
  cases isStretch with
  | @comparison field operator value isField _ takesOne _ =>
      have scalar := value.isList_value
      refine ⟨named field (by simp) isField, rfl, ?_, fun items isList => ?_,
        (known value (by simp)).numbers⟩
      · rw [← Operator.takesList_iff, scalar, takesOne]
      · dsimp only at isList
        simp [isList, Value.isList] at scalar
  | @membership field operator opening closing tokens items isField _ takesList _ derived _ =>
      refine ⟨named field (by simp) isField, rfl, ?_, fun items' isList => ?_,
        fun amount member => ?_⟩
      · rw [← Operator.takesList_iff, takesList]
        rfl
      · obtain rfl := Value.list.inj isList
        exact derived.scalars
      · rw [Value.numbers_list, List.mem_flatMap] at member
        obtain ⟨item, listed, member⟩ := member
        obtain ⟨token, isToken, rfl⟩ := derived.exists_token item listed
        exact (known token (by simp [isToken])).numbers amount member

end Grammar

namespace Scan

theorem Layout.tokens_eq_nil_iff {mode : Mode} {offset : Nat} {text : List Char}
    {tokens : List Token}
    {diagnostics : List Diagnostic} (layout : Layout mode offset text tokens diagnostics) :
    tokens = [] ↔ IsGap text := by
  constructor
  · rintro rfl
    cases Spaced.of_layout layout with
    | gap isGap => exact isGap
  · intro isGap
    have spaced : Spaced mode offset text [] := .gap isGap
    have scanned := spaced.tokens_go
    rw [layout.go_eq] at scanned
    exact List.append_cancel_right scanned

end Scan

namespace Query

variable {query : String}

theorem parse_eq_ok_none_iff : parse query = .ok none ↔ Scan.IsGap query.toList := by
  obtain ⟨tokens, _, layout, scanned⟩ := exists_layout query
  rw [← layout.tokens_eq_nil_iff]
  constructor
  · intro nothing
    by_contra nonempty
    rw [parse, scanned, Filter.ofTokens_append nonempty layout.ordinary] at nothing
    cases result : Parser.State.start.run 0 (tokens ++ [Token.final (byteLength query.toList)]) with
    | error => simp [result, Except.map] at nothing
    | ok => simp [result, Except.map] at nothing
  · rintro rfl
    exact parse_of_nil scanned

theorem isFieldName_of_mem {token : Token} (member : token ∈ tokens query)
    (isField : token.kind = .field) :
    Unfinished.isFieldName token.text.toList = true := by
  obtain ⟨tokens, _, layout, scanned⟩ := exists_layout query
  rw [scanned, List.mem_append, List.mem_singleton] at member
  rcases member with member | rfl
  · exact layout.named token member isField
  · simp [Token.final] at isField

theorem isSound_of_parse {filter : Filter} (read : parse query = .ok (some filter)) :
    ∀ leaf ∈ filter.conditions, leaf.IsSound := by
  intro leaf member
  obtain ⟨front, stretch, back, whole, isStretch⟩ := exists_isStretch read leaf member
  have inside : ∀ token ∈ stretch, token ∈ tokens query := fun token isToken => by
    rw [whole]
    exact List.mem_append_right _ (List.mem_append_left _ isToken)
  exact isStretch.isSound (fun token isToken => isFieldName_of_mem (inside token isToken))
    fun token isToken => isKnown_of_mem (inside token isToken)

theorem isPlacedIn_of_parse {error : SyntaxError} (failed : parse query = .error error) :
    error.IsPlacedIn query := by
  obtain ⟨tokens, _, layout, scanned⟩ := exists_layout query
  rcases parse_error_cases scanned layout.ordinary failed with
    ⟨_, final, _, _, rfl⟩ | ⟨before, token, after, middle, parts, _, _, rfl⟩
  · exact ⟨⟨query.toList, [], by simp, rfl⟩, Nat.le_refl _, iff_of_true rfl rfl,
      fun other => absurd rfl other⟩
  · have member : token ∈ tokens := by simp [parts]
    have listed : token ∈ Query.tokens query := by simp [scanned, member]
    have ordinary := layout.ordinary token member
    obtain ⟨begins, nonempty, ends⟩ := layout.bounds token member
    obtain ⟨front, word, back, _, _, whole, _, same⟩ := layout.exists_word token member
    refine ⟨⟨front, word ++ back, whole, ?_⟩, ?_, ?_, fun _ => ⟨token, listed, rfl, rfl⟩⟩
    · simp only [same, Lexeme.placed, Nat.zero_add]
    · dsimp only
      omega
    · exact iff_of_false (by dsimp only; omega) ordinary

/-- A query is all passed over, or has sound conditions, or is at fault at a token or at its end. -/
theorem parse_outcomes (query : String) :
    (parse query = .ok none ↔ Scan.IsGap query.toList) ∧
    (∀ filter, parse query = .ok (some filter) → ∀ leaf ∈ filter.conditions, leaf.IsSound) ∧
    ∀ error, parse query = .error error → error.IsPlacedIn query :=
  ⟨parse_eq_ok_none_iff, fun _ => isSound_of_parse, fun _ => isPlacedIn_of_parse⟩

/-- Control characters are passed over, a list is left open in its last quotes, and a comma is
missing behind a character of four bytes. -/
theorem parse_outcomes_control :
    (Scan.IsGap "\x02 \x7F".toList ∧ parse "\x02 \x7F" = .ok none) ∧
    (∃ filter leaf, parse "a:in (1e5,\x02-2.5) or b:'c" = .ok (some filter) ∧
      leaf ∈ filter.conditions ∧ leaf.IsSound) ∧
    ∃ error, parse "a:in ('😀' b)" = .error error ∧ error.position = 13 ∧
      error.IsPlacedIn "a:in ('😀' b)" := by
  refine ⟨?_, ?_, ?_⟩
  · have isGap : Scan.IsGap "\x02 \x7F".toList :=
      .cons (.inr rfl) (.cons (.inl rfl) (.cons (.inr rfl) .nil))
    exact ⟨isGap, (parse_outcomes _).1.mpr isGap⟩
  · obtain ⟨filter, read⟩ := hasFilter_iff.mp
      (by decide +kernel : hasFilter "a:in (1e5,\x02-2.5) or b:'c" = true)
    obtain ⟨leaf, member⟩ := filter.exists_mem_conditions
    exact ⟨filter, leaf, read, member, (parse_outcomes _).2.1 filter read leaf member⟩
  · have stuck : (parse "a:in ('😀' b)").map (fun _ => ()) =
        .error ⟨⟨.token .rightParen, .value⟩, 13⟩ := by
      rw [parse_eq_outcome]
      decide +kernel
    cases read : parse "a:in ('😀' b)" with
    | ok => simp [read, Except.map] at stuck
    | error error =>
        rw [read] at stuck
        have same := Except.error.inj stuck
        exact ⟨error, rfl, by rw [same], (parse_outcomes _).2.2 error read⟩

end Query

end FilterBox
