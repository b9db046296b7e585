import FilterBox.Proofs.Number.Written
import FilterBox.Proofs.Token.Spacing

/-!
Comparisons as they are written.

`IsComparison symbol gap word rest sign lexeme` says that an operator and a value are read from the
symbol and the word in front of the rest. Without the rest they are read in the same way, but for
two exceptions (`IsComparison.cut`).
-/

namespace FilterBox.Lexeme

open Text

theorem IsFirstValue.of_value_eq {word rest text : List Char} {lexeme : Lexeme}
    (first : IsFirstValue word rest lexeme) {offset : Nat} {covered : List Char}
    (value : (lexeme.placed offset covered).value = .string (String.ofList text)) :
    lexeme.valueKind = some .string ∧ lexeme.text = text := by
  cases first with
  | closed => exact ⟨rfl, by simpa [Token.value, placed, String.ofList_inj] using value⟩
  | unclosed => exact ⟨rfl, by simpa [Token.value, placed, String.ofList_inj] using value⟩
  | numeral isNumeral _ =>
      have numeral : IsNumeral (String.ofList word).toList := by rwa [String.toList_ofList]
      obtain ⟨amount, read⟩ := Number.exists_ofText?_of_isNumeral numeral
      simp [Token.value, placed, read] at value
  | boolean => simp [Token.value, placed] at value
  | bare => exact ⟨rfl, by simpa [Token.value, placed, String.ofList_inj] using value⟩

/-- A comparison as it is written behind its field: an operator, a gap, and a value in front of the
rest. -/
structure IsComparison (symbol gap word rest : List Char) (sign lexeme : Lexeme) : Prop where
  isOperator : sign.kind = .operator
  isValue : lexeme.kind = .value
  isGap : Scan.IsGap gap
  operator : IsFirst .field symbol (gap ++ (word ++ rest)) sign
  value : IsFirst (sign.nextMode .field) word rest lexeme

namespace IsComparison

variable {symbol gap word rest : List Char} {sign lexeme : Lexeme}

theorem isAlpha_of_gap (comparison : IsComparison symbol gap word rest sign lexeme) :
    ∀ character ∈ gap, character.isAlpha = false := by
  intro character member
  cases letter : character.isAlpha with
  | false => rfl
  | true =>
      have passed := comparison.isGap character member
      simp [isSpace_of_isAlpha letter, isControl_of_isAlpha letter] at passed

/-- What is drawn into a mere colon when the rest is missing is an operator word right behind it. -/
theorem isOperatorWord_of_isNegatable (comparison : IsComparison symbol gap word rest sign lexeme)
    (negatable : IsNegatable (gap ++ word)) : gap = [] ∧ Value.isOperatorWord word = true := by
  obtain ⟨first, later, begins, letter⟩ := negatable.head
  cases gap with
  | cons character gap =>
      obtain ⟨rfl, _⟩ := List.cons.inj begins
      simp [comparison.isAlpha_of_gap character List.mem_cons_self] at letter
  | nil =>
      rw [List.nil_append] at negatable begins
      have plain : isQuotation word = false := by
        rw [begins]
        exact isQuotation_of_isFieldStart (by simp [isFieldStart, letter])
      have inside := ((comparison.value.firstValue comparison.isValue).unquoted plain).2
      refine ⟨rfl, negatable.isOperatorWord fun character member => ?_⟩
      have within := inside character member
      simp only [endsWord, Bool.or_eq_false_iff] at within
      exact isSpace_of_endsValue within.1

theorem cut (comparison : IsComparison symbol gap word rest sign lexeme) :
    IsComparison symbol gap word [] sign lexeme ∨
      lexeme.valueKind = some .string ∧ lexeme.text = word ∧
        (isLiteral word = true ∨
          sign.text = [':'] ∧ gap = [] ∧ Value.isOperatorWord word = true) := by
  have nonempty : gap ++ word ≠ [] := by simp [comparison.value.ne_nil]
  have begins : gap ++ word <+: gap ++ (word ++ rest) := ⟨rest, List.append_assoc ..⟩
  rcases comparison.value.alone comparison.isValue with alone | ⟨rfl, literal⟩
  · rcases comparison.operator.cut_of_prefix begins nonempty with operator | ⟨_, colon, negatable⟩
    · rw [← List.append_nil word] at operator
      exact .inl ⟨comparison.isOperator, comparison.isValue, comparison.isGap, operator, alone⟩
    · obtain ⟨noGap, operatorWord⟩ := comparison.isOperatorWord_of_isNegatable negatable
      obtain ⟨string, same⟩ :=
        (comparison.value.firstValue comparison.isValue).of_isOperatorWord operatorWord
      exact .inr ⟨string, same, .inr ⟨colon, noGap, operatorWord⟩⟩
  · exact .inr ⟨rfl, rfl, .inl literal⟩

theorem not_mem_of_quote (comparison : IsComparison symbol gap word rest sign lexeme) {quote : Char}
    (isQuote : quote = '"' ∨ quote = '\'') : quote ∉ symbol ++ gap := by
  intro member
  rcases List.mem_append.mp member with inSymbol | inGap
  · rcases (comparison.operator.operator_cases comparison.isOperator).2 with
      rfl | ⟨drawn, rfl, follows⟩
    · rcases isQuote with rfl | rfl <;> simp at inSymbol
    · rcases List.mem_cons.mp inSymbol with colon | inDrawn
      · rcases isQuote with rfl | rfl <;> simp at colon
      · have known := follows.characters quote inDrawn
        rcases isQuote with rfl | rfl <;> simp [isSpace] at known
  · have passed := comparison.isGap quote inGap
    rcases isQuote with rfl | rfl <;> simp [isSpace, isControl] at passed

theorem isOperatorWord_eq_false (comparison : IsComparison symbol gap word [] sign lexeme)
    {front before : List Char} (ends : front ++ (symbol ++ gap) = before ++ [':']) :
    Value.isOperatorWord word = false := by
  rw [Bool.eq_false_iff]
  intro operatorWord
  have final := congrArg List.getLast? ends
  rw [List.getLast?_append, List.getLast?_append, List.getLast?_concat] at final
  -- The colon is in no gap, so it ends the operator, and nothing more belongs to the operator.
  have noGap : gap = [] := by
    cases last : gap.getLast? with
    | none => simpa using last
    | some character =>
        obtain rfl : character = ':' := by simpa [last] using final
        have passed := comparison.isGap ':' (List.mem_of_getLast? last)
        simp [isSpace, isControl] at passed
  subst noGap
  rcases (comparison.operator.operator_cases comparison.isOperator).2 with
    rfl | ⟨drawn, rfl, follows⟩
  · simp at final
  · cases last : drawn.getLast? with
    | none =>
        obtain rfl : drawn = [] := by simpa using last
        rw [List.nil_append, List.append_nil] at follows
        exact not_followsColon_nil operatorWord follows
    | some character =>
        obtain rfl : character = ':' := by simpa [List.getLast?_cons, last] using final
        have known := follows.characters ':' (List.mem_of_getLast? last)
        simp [isSpace] at known

/-- At the end of the text, a string that holds no quotes and has none in front of it is the word
that stands there, and no literal. -/
theorem eq_of_append_eq (comparison : IsComparison symbol gap word [] sign lexeme)
    {front before text covered : List Char} {offset : Nat}
    (value : (lexeme.placed offset covered).value = .string (String.ofList text))
    (nonempty : text ≠ []) (plain : ∀ quote, quote = '"' ∨ quote = '\'' → quote ∉ text)
    (whole : front ++ (symbol ++ (gap ++ word)) = before ++ text)
    (unquoted : ∀ quote, quote = '"' ∨ quote = '\'' → before.getLast? ≠ some quote) :
    text = word ∧ front ++ (symbol ++ gap) = before ∧ isLiteral word = false := by
  have first := comparison.value.firstValue comparison.isValue
  obtain ⟨string, rfl⟩ := first.of_value_eq value
  have parts : front ++ (symbol ++ gap) ++ word = before ++ lexeme.text := by
    rw [← whole]
    simp only [List.append_assoc]
  exact first.eq_of_append_eq string nonempty plain parts unquoted

end IsComparison

theorem nextMode_of_field {lexeme : Lexeme} (isField : lexeme.kind = .field) (mode : Mode) :
    lexeme.nextMode mode = mode := by
  rw [nextMode, isField]

/-- A field, an operator and a value are written as a comparison behind the field, and can be cut
off behind the value if the comparison can. -/
theorem exists_isComparison {offset : Nat} {text : List Char} {field operator value : Token}
    {later : List Token} (isField : field.kind = .field) (isOperator : operator.kind = .operator)
    (isValue : value.kind = .value)
    (spaced : Scan.Spaced .field offset text (field :: operator :: value :: later)) :
    ∃ front symbol gap word rest sign lexeme,
      text = front ++ (symbol ++ (gap ++ (word ++ rest))) ∧
      IsComparison symbol gap word rest sign lexeme ∧
      operator.text = String.ofList sign.text ∧
      value = lexeme.placed (offset + byteLength (front ++ (symbol ++ gap))) word ∧
      (IsComparison symbol gap word [] sign lexeme →
        Scan.Spaced .field offset (front ++ (symbol ++ (gap ++ word)))
          [field, operator, value]) := by
  cases spaced with
  | @token _ _ before name _ named _ isGapBefore first spaced =>
      rw [nextMode_of_field isField] at spaced
      cases spaced with
      | @token _ _ between symbol _ sign _ isGapBetween second spaced =>
          cases spaced with
          | @token _ _ gap word rest lexeme _ isGap third _ =>
              refine ⟨before ++ (name ++ between), symbol, gap, word, rest, sign, lexeme, by simp,
                ⟨isOperator, isValue, isGap, second, third⟩, rfl, ?_, fun comparison => ?_⟩
              · simp only [byteLength_append, Nat.add_assoc]
              · have begins : between ++ (symbol ++ (gap ++ word)) <+:
                    between ++ (symbol ++ (gap ++ (word ++ rest))) := ⟨rest, by simp⟩
                have nonempty : between ++ (symbol ++ (gap ++ word)) ≠ [] := by
                  simp [third.ne_nil]
                have same := head?_of_prefix begins nonempty
                have isName : named.kind = .field := isField
                have named := first.cut same (by simp [isName])
                have operator := comparison.operator
                rw [List.append_nil] at operator
                simp only [List.append_assoc]
                refine .token isGapBefore named ?_
                rw [nextMode_of_field isName]
                exact .token isGapBetween operator (.last isGap comparison.value)

end FilterBox.Lexeme
