import FilterBox.Proofs.Chip.Placement
import FilterBox.Proofs.Lexeme.Casing
import FilterBox.Proofs.Number.Written
import FilterBox.Proofs.Token.Context
import FilterBox.RemovalRequest

/-!
The scan and the tables know the same spellings.

The scan finds operators by what stands at the front of a text, with any gap behind `NOT` and in any
case; the table of symbols goes by the words of a text. Every operator that is scanned is in that
table, and is no name (`IsFirst.exists_ofSymbol?`, `IsFirst.ofName?_eq_none`). So nothing that is
read off a query falls back to another operator or to a string (`spellings_known`).
-/

namespace FilterBox

open Text Lexeme

namespace Text

theorem words_append_blank {space : Char} (blank : isSpace space = true) (front rest : List Char) :
    words (front ++ space :: rest) = words front ++ words rest := by
  rw [words, words, words, List.splitOnP_append_cons front rest blank, List.filter_append]

theorem words_blanks_append {gap : List Char} (blank : ∀ character ∈ gap, isSpace character = true)
    (rest : List Char) : words (gap ++ rest) = words rest := by
  induction gap with
  | nil => rfl
  | cons space gap inductionHypothesis =>
      rw [List.forall_mem_cons] at blank
      rw [List.cons_append, ← inductionHypothesis blank.2]
      exact words_append_blank blank.1 [] _

theorem words_append_gap {front gap : List Char} (nonempty : gap ≠ [])
    (blank : ∀ character ∈ gap, isSpace character = true) (rest : List Char) :
    words (front ++ (gap ++ rest)) = words (front ++ ' ' :: rest) := by
  obtain ⟨space, spaces, rfl⟩ := List.exists_cons_of_ne_nil nonempty
  rw [List.forall_mem_cons] at blank
  rw [List.cons_append, words_append_blank blank.1, words_append_blank (by decide),
    words_blanks_append blank.2]

theorem exists_trim_eq_cons {first : Char} (visible : isSpace first = false) (later : List Char) :
    ∃ kept, trim (first :: later) = first :: kept := by
  rw [trim, List.dropWhile_cons_of_neg (by simp [visible]), trimEnd]
  cases trimEnd later with
  | nil => exact ⟨[], by simp [visible]⟩
  | cons second kept => exact ⟨second :: kept, rfl⟩

end Text

namespace Operator

theorem ofText?_name (operator : Operator) : ofText? operator.name = some operator := by
  cases operator <;> decide

theorem ofSymbol?_of_words {text text' : String} (same : words text.toList = words text'.toList) :
    ofSymbol? text = ofSymbol? text' := by
  rw [ofSymbol?, ofSymbol?, same]

theorem ofSymbol?_negated {word : String} {negation gap letters : List Char}
    (negated : spells "NOT" negation = true) (nonempty : gap ≠ [])
    (blank : ∀ character ∈ gap, isSpace character = true) (spelled : spells word letters = true)
    (capital : word.toList.map Char.toUpper = word.toList) :
    ofSymbol? (String.ofList (':' :: (negation ++ (gap ++ letters)))) =
      ofSymbol? (":NOT " ++ word) := by
  have spaced : ofSymbol? (String.ofList (':' :: (negation ++ (gap ++ letters)))) =
      ofSymbol? (String.ofList (':' :: (negation ++ ' ' :: letters))) := by
    apply ofSymbol?_of_words
    rw [String.toList_ofList, String.toList_ofList, ← List.cons_append, ← List.cons_append]
    exact words_append_gap nonempty blank letters
  have sameNegation : SameLetters negation "NOT".toList := eq_of_beq negated
  have sameWord : SameLetters letters word.toList := (eq_of_beq spelled).trans capital.symm
  have same := (SameLetters.refl [':']).append
    (sameNegation.append ((SameLetters.refl [' ']).append sameWord))
  rw [spaced]
  apply ofSymbol?_of_sameLetters
  simpa using same

theorem ofName?_eq_none {first : Char} (sign : first.isAlpha = false)
    (visible : isSpace first = false) (later : List Char) :
    ofName? (String.ofList (first :: later)) = none := by
  have letters : ∀ operator : Operator, operator.name.toList.head?.all Char.isAlpha = true := by
    intro operator
    cases operator <;> decide
  obtain ⟨kept, trimmed⟩ := exists_trim_eq_cons visible later
  rw [ofName?, List.find?_eq_none]
  intro operator _ spelled
  rw [String.toList_ofList, trimmed] at spelled
  have begins := letters operator
  rw [← eq_of_beq spelled, List.map_cons, toUpper_eq_self sign] at begins
  simp [sign] at begins

end Operator

namespace Lexeme

variable {mode : Mode} {word rest : List Char} {lexeme : Lexeme}

theorem IsNegatable.exists_ofSymbol? (negatable : IsNegatable word) :
    ∃ operator, Operator.ofSymbol? (String.ofList (':' :: word)) = some operator := by
  cases negatable with
  | plain isWord =>
      rcases isOperatorWord_iff.mp isWord with spelled | spelled
      · rw [Operator.ofSymbol?_colon_word (.inl rfl) spelled]
        exact ⟨.inList, by decide⟩
      · rw [Operator.ofSymbol?_colon_word (.inr rfl) spelled]
        exact ⟨.like, by decide⟩
  | negated negated nonempty blank isWord =>
      rcases isOperatorWord_iff.mp isWord with spelled | spelled
      · rw [Operator.ofSymbol?_negated negated nonempty blank spelled (by decide)]
        exact ⟨.notInList, by decide⟩
      · rw [Operator.ofSymbol?_negated negated nonempty blank spelled (by decide)]
        exact ⟨.notLike, by decide⟩

theorem IsSign.exists_ofSymbol? (isSign : IsSign word rest) :
    ∃ operator, Operator.ofSymbol? (String.ofList (':' :: word)) = some operator := by
  rw [← Option.isSome_iff_exists]
  cases isSign with
  | long known =>
      simp only [List.mem_cons, List.not_mem_nil, or_false] at known
      rcases known with rfl | rfl | rfl <;> decide
  | short known _ =>
      simp only [List.mem_cons, List.not_mem_nil, or_false] at known
      rcases known with rfl | rfl <;> decide

theorem IsFirst.exists_ofSymbol? (first : IsFirst mode word rest lexeme)
    (isOperator : lexeme.kind = .operator) :
    ∃ operator, Operator.ofSymbol? (String.ofList lexeme.text) = some operator := by
  obtain ⟨text, rfl | ⟨drawn, rfl, follows⟩⟩ := first.operator_cases isOperator
  · rw [text]
    exact ⟨.equals, by decide⟩
  · rw [text]
    cases follows with
    | word negatable _ => exact negatable.exists_ofSymbol?
    | sign isSign => exact isSign.exists_ofSymbol?
    | nothing => exact ⟨.equals, by decide⟩

theorem IsFirst.ofName?_eq_none (first : IsFirst mode word rest lexeme)
    (isOperator : lexeme.kind = .operator) :
    Operator.ofName? (String.ofList lexeme.text) = none := by
  obtain ⟨text, rfl | ⟨drawn, rfl, _⟩⟩ := first.operator_cases isOperator
  · rw [text]
    exact Operator.ofName?_eq_none rfl rfl _
  · rw [text]
    exact Operator.ofName?_eq_none rfl rfl _

theorem IsFirst.isSome_ofKeyword? (first : IsFirst mode word rest lexeme)
    (isConnective : lexeme.kind = .connective) :
    (Connective.ofKeyword? (String.ofList lexeme.text)).isSome = true := by
  cases first with
  | @connective connective _ _ _ spelled _ =>
      rw [Connective.ofKeyword?, List.find?_isSome]
      exact ⟨connective, by cases connective <;> decide, by simpa using spelled⟩
  | value _ _ first => simp [first.kind.1] at isConnective
  | _ => simp at isConnective

theorem IsFirst.isSome_valueKind (first : IsFirst mode word rest lexeme) :
    lexeme.valueKind.isSome = true ↔ lexeme.kind = .value := by
  cases first with
  | value _ _ first => cases first <;> simp
  | _ => simp

theorem IsFirst.isNumeral (first : IsFirst mode word rest lexeme)
    (isNumber : lexeme.valueKind = some .number) : IsNumeral lexeme.text := by
  cases first with
  | value _ _ first =>
      cases first with
      | numeral isNumeral _ => exact isNumeral
      | _ => simp at isNumber
  | _ => simp at isNumber

end Lexeme

namespace Token

/-- What the tables know of an operator, by its own text. -/
structure IsKnownOperator (token : Token) : Prop where
  symbol : Operator.ofSymbol? token.text = some token.operator
  nameless : Operator.ofName? token.text = none
  asked : Operator.ofText? token.text = some token.operator
  /-- The text asks for the same removals as the name of the operator. -/
  removal : ∀ query field value, RemovalRequest.apply ⟨query, field, token.text, value⟩ =
    RemovalRequest.apply ⟨query, field, token.operator.name, value⟩

/-- What the tables know of a token. -/
structure IsKnown (token : Token) : Prop where
  operator : token.kind = .operator → token.IsKnownOperator
  connective : token.kind = .connective → token.connective?.isSome = true
  value : token.valueKind.isSome = true ↔ token.kind = .value
  number : token.valueKind = some .number →
    ∃ amount, Number.ofText? token.text = some amount ∧ token.value = .number amount ∧ amount ≠ .nan

theorem isKnownOperator_of_ofSymbol? {token : Token} {operator : Operator}
    (symbol : Operator.ofSymbol? token.text = some operator)
    (nameless : Operator.ofName? token.text = none) : token.IsKnownOperator := by
  have same : token.operator = operator := by rw [Token.operator, symbol, Option.getD_some]
  have asked : Operator.ofText? token.text = some token.operator := by
    rw [Operator.ofText?, nameless, Option.none_or, symbol, same]
  refine ⟨same ▸ symbol, nameless, asked, fun query field value => ?_⟩
  simp only [RemovalRequest.apply, asked, Operator.ofText?_name]

end Token

theorem Lexeme.IsFirst.isKnown {mode : Mode} {word rest : List Char} {lexeme : Lexeme}
    (first : IsFirst mode word rest lexeme) (offset : Nat) :
    (lexeme.placed offset word).IsKnown where
  operator isOperator := by
    obtain ⟨operator, symbol⟩ := first.exists_ofSymbol? isOperator
    exact Token.isKnownOperator_of_ofSymbol? symbol (first.ofName?_eq_none isOperator)
  connective isConnective := by
    rw [Token.connective?, if_pos isConnective]
    exact first.isSome_ofKeyword? isConnective
  value := first.isSome_valueKind
  number isNumber := by
    have numeral : IsNumeral (lexeme.placed offset word).text.toList := by
      rw [placed, String.toList_ofList]
      exact first.isNumeral isNumber
    obtain ⟨negative, magnitude, read⟩ := Number.exists_signed_of_isNumeral numeral
    exact ⟨_, read, by simp only [Token.value, isNumber, read], by simp⟩

theorem Grammar.IsStretch.begins {stretch : List Token} {leaf : Condition}
    (isStretch : IsStretch stretch leaf) :
    ∃ field operator later, stretch = field :: operator :: later ∧ operator.kind = .operator ∧
      leaf.field = field.text ∧ leaf.operator = operator.operator := by
  cases isStretch with
  | comparison _ isOperator _ _ => exact ⟨_, _, _, rfl, isOperator, rfl, rfl⟩
  | membership _ isOperator _ _ _ _ => exact ⟨_, _, _, rfl, isOperator, rfl, rfl⟩

namespace Query

theorem exists_isStretch {query : String} {filter : Filter}
    (read : parse query = .ok (some filter)) :
    ∀ leaf ∈ filter.conditions, ∃ front stretch back, tokens query = front ++ (stretch ++ back) ∧
      Grammar.IsStretch stretch leaf := by
  intro leaf member
  obtain ⟨tokens, presents⟩ := exists_presents read
  obtain ⟨front, stretch, back, rfl, isStretch⟩ := presents.stretches.exists_isStretch leaf member
  exact ⟨front, stretch, _, by rw [presents.marked, List.append_assoc, List.append_assoc],
    isStretch⟩

theorem isKnown_of_mem {query : String} {token : Token} (member : token ∈ tokens query) :
    token.IsKnown := by
  rcases eq_final_or_exists_word member with
    rfl | ⟨before, word, after, mode, lexeme, _, first, rfl⟩
  · exact ⟨by simp [Token.final], by simp [Token.final], by simp [Token.final],
      by simp [Token.final]⟩
  · exact first.isKnown _

/-- The tables know every token of a query. So every condition has the operator that its own text
spells, and this text asks for the same removals as the name of the operator. -/
theorem spellings_known (query : String) :
    (∀ token ∈ tokens query, token.IsKnown) ∧
    ∀ filter, parse query = .ok (some filter) → ∀ leaf ∈ filter.conditions,
    ∃ field operator : Token,
      [field, operator] <:+: tokens query ∧ leaf.field = field.text ∧
      leaf.operator = operator.operator ∧ operator.IsKnownOperator := by
  refine ⟨fun token member => isKnown_of_mem member, fun filter read leaf member => ?_⟩
  obtain ⟨front, stretch, back, whole, isStretch⟩ := exists_isStretch read leaf member
  obtain ⟨field, operator, later, rfl, isOperator, sameField, sameOperator⟩ := isStretch.begins
  have known : operator.IsKnown := isKnown_of_mem (by rw [whole]; simp)
  refine ⟨field, operator, ⟨front, later ++ back, ?_⟩, sameField, sameOperator,
    known.operator isOperator⟩
  rw [whole]
  simp

/-- Between the words of the operator stand a blank beyond ASCII and a tab, and their letters are of
either case. -/
theorem spellings_known_gap :
    let query := "a:nOt\u00A0\tiN(-1.50)"
    let operator : Token := ⟨.operator, ":nOt\u00A0\tiN", none, ⟨1, 10⟩⟩
    let amount : Token := ⟨.value, "-1.50", some .number, ⟨11, 16⟩⟩
    operator ∈ tokens query ∧ operator.IsKnown ∧ amount ∈ tokens query ∧ amount.IsKnown ∧
      ∃ filter leaf, parse query = .ok (some filter) ∧ leaf ∈ filter.conditions ∧
        ∃ field symbol : Token, [field, symbol] <:+: tokens query ∧ leaf.field = field.text ∧
          leaf.operator = symbol.operator ∧ symbol.IsKnownOperator := by
  intro query operator amount
  have isOperator : operator ∈ tokens query := by decide +kernel
  have isAmount : amount ∈ tokens query := by decide +kernel
  obtain ⟨filter, read⟩ := hasFilter_iff.mp (by decide +kernel : hasFilter query = true)
  obtain ⟨known, leaves⟩ := spellings_known query
  obtain ⟨leaf, member⟩ := filter.exists_mem_conditions
  exact ⟨isOperator, known operator isOperator, isAmount, known amount isAmount, filter, leaf, read,
    member, leaves filter read leaf member⟩

end Query

end FilterBox
