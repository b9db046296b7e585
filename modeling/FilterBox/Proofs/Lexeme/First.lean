import FilterBox.Proofs.Lexeme.Colon
import FilterBox.Proofs.Lexeme.FirstValue

/-!
What a text begins with, as a relation.

`IsFirst mode word rest lexeme` says that in front of the rest the word is taken as the lexeme.
`first?_eq_some_iff` says that this is what is found. But for a colon's operator, the rest matters
only by the character that it begins with (`IsFirst.cut`). Nothing is found exactly at control
characters (`first?_eq_none_iff`).
-/

namespace FilterBox.Lexeme

open Text

/-- In front of the rest the word is taken as a token. -/
inductive IsFirst (mode : Mode) : List Char → List Char → Lexeme → Prop where
  | opening {rest : List Char} :
      IsFirst mode ['('] rest ⟨.leftParen, none, 1, ['('], true⟩
  | closing {rest : List Char} :
      IsFirst mode [')'] rest ⟨.rightParen, none, 1, [')'], true⟩
  | comma {rest : List Char} :
      IsFirst mode [','] rest ⟨.comma, none, 1, [','], true⟩
  | connective {connective : Connective} {word rest : List Char} :
      mode = .field →
      spells connective.keyword word = true →
      endsAt isSpace rest = true →
      IsFirst mode word rest ⟨.connective, none, word.length, word, true⟩
  | equals {rest : List Char} :
      IsFirst mode ['='] rest ⟨.operator, none, 1, ['='], true⟩
  | colon {word rest : List Char} :
      FollowsColon word rest →
      IsFirst mode (':' :: word) rest ⟨.operator, none, word.length + 1, ':' :: word, true⟩
  | field {word rest : List Char} :
      mode = .field →
      Unfinished.isFieldName word = true →
      endsAt (fun character => !isFieldCharacter character) rest = true →
      (∀ connective : Connective,
        spells connective.keyword word = true → endsAt isSpace rest = false) →
      IsFirst mode word rest ⟨.field, none, word.length, word, true⟩
  | value {word rest : List Char} {lexeme : Lexeme} :
      word.head? ≠ some '=' →
      (mode = .field → endsAt (fun character => !isFieldStart character) word = true) →
      IsFirstValue word rest lexeme →
      IsFirst mode word rest lexeme

theorem connectiveSize?_append {connective : Connective} {word rest : List Char}
    (spelled : spells connective.keyword word = true) (ends : endsAt isSpace rest = true) :
    connectiveSize? (word ++ rest) = some word.length := by
  -- The keywords begin with three different letters.
  cases connective with
  | and =>
      have found : wordSize? "AND" isSpace (word ++ rest) = _ := wordSize?_append spelled ends
      simp only [connectiveSize?, Connective.all, List.findSome?_cons, Connective.keyword, found]
  | or =>
      have found : wordSize? "OR" isSpace (word ++ rest) = _ := wordSize?_append spelled ends
      obtain ⟨first, later, rfl, isO⟩ := exists_cons_of_spells 'O' rfl spelled
      have noAnd : wordSize? "AND" isSpace (first :: later ++ rest) = none :=
        wordSize?_eq_none_of_toUpper 'A' rfl (by simp [isO])
      simp only [connectiveSize?, Connective.all, List.findSome?_cons, Connective.keyword, noAnd,
        found]
  | not =>
      have found : wordSize? "NOT" isSpace (word ++ rest) = _ := wordSize?_append spelled ends
      obtain ⟨first, later, rfl, isN⟩ := exists_cons_of_spells 'N' rfl spelled
      have noAnd : wordSize? "AND" isSpace (first :: later ++ rest) = none :=
        wordSize?_eq_none_of_toUpper 'A' rfl (by simp [isN])
      have noOr : wordSize? "OR" isSpace (first :: later ++ rest) = none :=
        wordSize?_eq_none_of_toUpper 'O' rfl (by simp [isN])
      simp only [connectiveSize?, Connective.all, List.findSome?_cons, Connective.keyword, noAnd,
        noOr, found]

theorem connective?_eq_some_iff {text : List Char} {lexeme : Lexeme} :
    connective? text = some lexeme ↔
      ∃ (connective : Connective) (word rest : List Char), text = word ++ rest ∧
        spells connective.keyword word = true ∧ endsAt isSpace rest = true ∧
        lexeme = ⟨.connective, none, word.length, word, true⟩ := by
  rw [connective?, Option.map_eq_some_iff]
  constructor
  · rintro ⟨size, found, rfl⟩
    obtain ⟨connective, _, here⟩ := List.exists_of_findSome?_eq_some found
    obtain ⟨same, spelled, ends⟩ := wordSize?_eq_some_iff.mp here
    have length := List.length_take_of_le (size_le_of_spells_take same spelled)
    refine ⟨connective, _, _, (List.take_append_drop size text).symm, spelled, ends, ?_⟩
    rw [verbatim, length]
  · rintro ⟨connective, word, rest, rfl, spelled, ends, rfl⟩
    exact ⟨_, connectiveSize?_append spelled ends, verbatim_append ..⟩

theorem operator?_eq_some_iff {text : List Char} {lexeme : Lexeme} :
    operator? text = some lexeme ↔
      (∃ rest, text = '=' :: rest ∧ lexeme = ⟨.operator, none, 1, ['='], true⟩) ∨
      ∃ word rest, text = ':' :: (word ++ rest) ∧ FollowsColon word rest ∧
        lexeme = ⟨.operator, none, word.length + 1, ':' :: word, true⟩ := by
  rw [operator?, Option.map_eq_some_iff]
  constructor
  · rintro ⟨size, found, rfl⟩
    unfold operatorSize? at found
    split at found
    next text =>
      obtain ⟨word, rest, rfl, rfl, follows⟩ := operatorSize?_colon_eq_some_iff.mp found
      refine .inr ⟨word, rest, rfl, follows, ?_⟩
      rw [← List.cons_append, ← List.length_cons, verbatim_append]
    next rest =>
      obtain rfl := Option.some.inj found
      exact .inl ⟨rest, rfl, rfl⟩
    next => simp at found
  · rintro (⟨rest, rfl, rfl⟩ | ⟨word, rest, rfl, follows, rfl⟩)
    · exact ⟨1, rfl, rfl⟩
    · refine ⟨_, operatorSize?_colon_eq_some_iff.mpr ⟨word, rest, rfl, rfl, follows⟩, ?_⟩
      rw [← List.cons_append, ← List.length_cons, verbatim_append]

theorem head_of_keyword {connective : Connective} {word : List Char}
    (spelled : spells connective.keyword word = true) :
    ∃ first later, word = first :: later ∧ isFieldStart first = true := by
  have letters : ∀ character ∈ word, character.isAlpha = true :=
    isAlpha_of_spells (by cases connective <;> decide) spelled
  obtain ⟨letter, others, begins⟩ :
      ∃ letter others, connective.keyword.toList = letter :: others := by
    cases connective <;> exact ⟨_, _, rfl⟩
  obtain ⟨first, later, rfl, _⟩ := exists_cons_of_spells letter begins spelled
  exact ⟨first, later, rfl, by simp [isFieldStart, letters first List.mem_cons_self]⟩

theorem exists_isFirst_of_first? {mode : Mode} {text : List Char} {lexeme : Lexeme}
    (found : first? mode text = some lexeme) :
    ∃ word rest, text = word ++ rest ∧ IsFirst mode word rest lexeme := by
  simp only [first?, Option.or_eq_some_iff] at found
  rcases found with sign | ⟨noSign, connective | ⟨noConnective, operator |
    ⟨noOperator, field | ⟨noField, value⟩⟩⟩⟩
  · unfold sign? at sign
    split at sign
    next rest => cases sign; exact ⟨['('], rest, rfl, .opening⟩
    next rest => cases sign; exact ⟨[')'], rest, rfl, .closing⟩
    next rest => cases sign; exact ⟨[','], rest, rfl, .comma⟩
    next => simp at sign
  · obtain ⟨isField, connective⟩ := Option.ite_none_right_eq_some.mp connective
    obtain ⟨which, word, rest, rfl, spelled, ends, rfl⟩ := connective?_eq_some_iff.mp connective
    exact ⟨word, rest, rfl, .connective isField spelled ends⟩
  · rcases operator?_eq_some_iff.mp operator with
      ⟨rest, rfl, rfl⟩ | ⟨word, rest, rfl, follows, rfl⟩
    · exact ⟨['='], rest, rfl, .equals⟩
    · exact ⟨':' :: word, rest, rfl, .colon follows⟩
  · obtain ⟨isField, field⟩ := Option.ite_none_right_eq_some.mp field
    obtain ⟨word, rest, rfl, named, ends, rfl⟩ := field?_eq_some_iff.mp field
    refine ⟨word, rest, rfl, .field isField named ends fun connective spelled => ?_⟩
    rw [Bool.eq_false_iff]
    intro space
    rw [if_pos isField] at noConnective
    have found := connective?_eq_some_iff.mpr ⟨connective, word, rest, rfl, spelled, space, rfl⟩
    simp [noConnective] at found
  · obtain ⟨word, rest, rfl, first⟩ := value?_eq_some_iff.mp value
    obtain ⟨character, later, rfl, _⟩ := first.head
    refine ⟨_, rest, rfl, .value ?_ (fun isField => ?_) first⟩
    · rintro unequal
      obtain rfl : character = '=' := by simpa using unequal
      simp [operator?, operatorSize?] at noOperator
    · rw [if_pos isField] at noField
      rw [endsAt_cons, field?_eq_none_iff.mp noField]
      rfl

theorem IsFirst.first?_append {mode : Mode} {word rest : List Char} {lexeme : Lexeme}
    (first : IsFirst mode word rest lexeme) : first? mode (word ++ rest) = some lexeme := by
  cases first with
  | opening => rfl
  | closing => rfl
  | comma => rfl
  | @connective connective word rest isField spelled ends =>
      have found := connective?_eq_some_iff.mpr ⟨connective, word, rest, rfl, spelled, ends, rfl⟩
      obtain ⟨first, later, rfl, starts⟩ := head_of_keyword spelled
      rw [first?, if_pos isField, found, List.cons_append, (noSign_of_isFieldStart _ starts).1,
        Option.none_or, Option.some_or]
  | @equals rest =>
      have noConnective : connective? ('=' :: rest) = none := noConnective_of_head rfl
      simp [first?, sign?, noConnective, operator?, operatorSize?, verbatim]
  | @colon word rest follows =>
      have size := operatorSize?_colon_eq_some_iff.mpr ⟨word, rest, rfl, rfl, follows⟩
      rw [List.cons_append, first?_colon mode size, ← List.cons_append, ← List.length_cons,
        verbatim_append]
  | field isField named ends other =>
      have noConnective := noConnective_of_isFieldName named ends other
      have found := field?_append named ends
      obtain ⟨first, later, rfl, starts⟩ := head_of_isFieldName named
      rw [List.cons_append] at noConnective found ⊢
      have structural := noSign_of_isFieldStart (later ++ rest) starts
      rw [first?, if_pos isField, if_pos isField, structural.1, noConnective, structural.2, found,
        Option.none_or, Option.none_or, Option.none_or, Option.some_or]
  | value unequal unnamed first =>
      have found := value?_eq_some_iff.mpr ⟨word, rest, rfl, first⟩
      obtain ⟨character, later, rfl, structural⟩ := first.head
      rw [List.cons_append] at found ⊢
      simp only [List.head?_cons, ne_eq, Option.some.injEq] at unequal
      simp only [List.mem_cons, List.not_mem_nil, or_false, not_or] at structural
      have noSign : sign? (character :: (later ++ rest)) = none :=
        sign?_eq_none (by simp [structural])
      have noOperator : operator? (character :: (later ++ rest)) = none :=
        operator?_eq_none (by simp [structural, unequal])
      rw [first?, noSign, noOperator, found]
      by_cases isField : mode = .field
      · have starts : isFieldStart character = false := by simpa using unnamed isField
        rw [if_pos isField, if_pos isField, noConnective_of_head (isAlpha_of_isFieldStart starts),
          field?_eq_none_iff.mpr starts]
        rfl
      · rw [if_neg isField, if_neg isField]
        rfl

/-- A text begins with a token exactly as the relation says. -/
theorem first?_eq_some_iff {mode : Mode} {text : List Char} {lexeme : Lexeme} :
    first? mode text = some lexeme ↔
      ∃ word rest, text = word ++ rest ∧ IsFirst mode word rest lexeme := by
  constructor
  · exact exists_isFirst_of_first?
  · rintro ⟨word, rest, rfl, first⟩
    exact first.first?_append

section Consequences

variable {mode : Mode} {word rest : List Char} {lexeme : Lexeme}

theorem IsFirst.size (first : IsFirst mode word rest lexeme) : lexeme.size = word.length := by
  cases first with
  | value _ _ first => exact first.kind.2
  | _ => rfl

theorem isSpace_of_isFieldStart {character : Char} (starts : isFieldStart character = true) :
    isSpace character = false :=
  isSpace_of_endsValue (endsValue_of_isFieldCharacter (isFieldCharacter_of_isFieldStart starts))

theorem IsFirst.visible (first : IsFirst mode word rest lexeme) :
    ∃ character later, word = character :: later ∧ isSpace character = false := by
  cases first with
  | connective _ spelled _ =>
      obtain ⟨_, _, rfl, starts⟩ := head_of_keyword spelled
      exact ⟨_, _, rfl, isSpace_of_isFieldStart starts⟩
  | field _ named _ _ =>
      obtain ⟨_, _, rfl, starts⟩ := head_of_isFieldName named
      exact ⟨_, _, rfl, isSpace_of_isFieldStart starts⟩
  | value _ _ first => exact first.visible
  | _ => exact ⟨_, _, rfl, rfl⟩

theorem IsFirst.ne_nil (first : IsFirst mode word rest lexeme) : word ≠ [] := by
  obtain ⟨_, _, rfl, _⟩ := first.visible
  exact List.cons_ne_nil _ _

theorem IsFirst.ordinary (first : IsFirst mode word rest lexeme) : lexeme.kind ≠ .endOfInput := by
  cases first with
  | value _ _ first => simp [first.kind.1]
  | _ => simp

theorem IsFirst.rest_of_open (first : IsFirst mode word rest lexeme)
    (isOpen : lexeme.closed = false) :
    lexeme.kind = .value ∧ isQuotation word = true ∧ rest = [] := by
  cases first with
  | value _ _ first => exact ⟨first.kind.1, first.rest_of_open isOpen⟩
  | _ => simp at isOpen

theorem isQuotation_of_isFieldStart {first : Char} {later : List Char}
    (starts : isFieldStart first = true) : isQuotation (first :: later) = false := by
  simp only [isQuotation, List.head?_cons, Bool.or_eq_false_iff, decide_eq_false_iff_not,
    Option.some.injEq]
  constructor <;> rintro rfl <;> simp [isFieldStart] at starts

theorem IsFirst.kind_of_isQuotation (first : IsFirst mode word rest lexeme)
    (quoted : isQuotation word = true) : lexeme.kind = .value := by
  cases first with
  | connective _ spelled _ =>
      obtain ⟨_, _, rfl, starts⟩ := head_of_keyword spelled
      simp [isQuotation_of_isFieldStart starts] at quoted
  | field _ named _ _ =>
      obtain ⟨_, _, rfl, starts⟩ := head_of_isFieldName named
      simp [isQuotation_of_isFieldStart starts] at quoted
  | value _ _ first => exact first.kind.1
  | _ => simp [isQuotation] at quoted

theorem IsFirst.unquoted (first : IsFirst mode word rest lexeme)
    (plain : isQuotation word = false) :
    lexeme.text = word ∧
      ∀ character ∈ word, isControl character = true → isSpace character = true := by
  cases first with
  | connective _ spelled _ =>
      refine ⟨rfl, fun character member control => ?_⟩
      have letter := isAlpha_of_spells (by cases ‹Connective› <;> decide) spelled character member
      simp [isControl_of_isAlpha letter] at control
  | colon follows =>
      refine ⟨rfl, fun character member control => ?_⟩
      rcases List.mem_cons.mp member with rfl | member
      · simp [isControl] at control
      · rcases follows.characters character member with letter | space | sign
        · simp [isControl_of_isAlpha letter] at control
        · exact space
        · simp only [List.mem_cons, List.not_mem_nil, or_false] at sign
          rcases sign with rfl | rfl | rfl | rfl <;> simp [isControl] at control
  | field _ named _ _ =>
      refine ⟨rfl, fun character member control => ?_⟩
      simp only [Unfinished.isFieldName, Bool.and_eq_true, List.all_eq_true] at named
      have visible := named.2 character member
      simp only [isFieldCharacter, Bool.or_eq_true, decide_eq_true_eq] at visible
      rcases visible with (visible | rfl) | rfl
      · simp [isControl_of_isAlphanum visible] at control
      · simp [isControl] at control
      · simp [isControl] at control
  | value _ _ first =>
      obtain ⟨same, inside⟩ := first.unquoted plain
      refine ⟨same, fun character member control => ?_⟩
      have within := inside character member
      simp [endsWord, control] at within
  | _ => simp [isControl]

theorem IsFirst.cut {rest' : List Char} (first : IsFirst mode word rest lexeme)
    (same : rest'.head? = rest.head?) (ordinary : lexeme.kind ≠ .operator) :
    IsFirst mode word rest' lexeme := by
  cases first with
  | opening => exact .opening
  | closing => exact .closing
  | comma => exact .comma
  | connective isField spelled ends =>
      exact .connective isField spelled (endsAt_congr same _ ▸ ends)
  | equals => exact .equals
  | colon => exact absurd rfl ordinary
  | field isField named ends other =>
      exact .field isField named (endsAt_congr same _ ▸ ends) fun connective spelled => by
        rw [endsAt_congr same, other connective spelled]
  | value unequal unnamed first => exact .value unequal unnamed (first.cut same)

/-- When the rest is cut short, a token stays as it is, unless it was a mere colon and what is left
of the rest is an operator word. -/
theorem IsFirst.cut_of_prefix {rest' : List Char} (first : IsFirst mode word rest lexeme)
    (begins : rest' <+: rest) (nonempty : rest' ≠ []) :
    IsFirst mode word rest' lexeme ∨
      lexeme.kind = .operator ∧ lexeme.text = [':'] ∧ IsNegatable rest' := by
  by_cases isOperator : lexeme.kind = .operator
  · cases first with
    | equals => exact .inl .equals
    | colon follows =>
        rcases follows.cut begins nonempty with follows | ⟨rfl, negatable⟩
        · exact .inl (.colon follows)
        · exact .inr ⟨rfl, rfl, negatable⟩
    | value _ _ first => simp [first.kind.1] at isOperator
    | _ => simp at isOperator
  · have same := head?_of_prefix begins nonempty
    exact .inl (first.cut same isOperator)

theorem IsFirst.firstValue (first : IsFirst mode word rest lexeme)
    (isValue : lexeme.kind = .value) :
    IsFirstValue word rest lexeme := by
  cases first with
  | value _ _ first => exact first
  | _ => simp at isValue

/-- A value is read in the same way at the end of the text, unless it is a literal that only what
stood behind it made a string. -/
theorem IsFirst.alone (first : IsFirst mode word rest lexeme) (isValue : lexeme.kind = .value) :
    IsFirst mode word [] lexeme ∨
      lexeme = ⟨.value, some .string, word.length, word, true⟩ ∧ isLiteral word = true := by
  cases first with
  | value unequal unnamed first => exact first.alone.imp_left (.value unequal unnamed)
  | _ => simp at isValue

theorem IsFirst.alone_of_kept (first : IsFirst mode word rest lexeme)
    (kept : ∀ next ∈ rest.head?, isControl next = true → isSpace next = true) :
    IsFirst mode word [] lexeme ∨
      lexeme.kind = .field ∧ ∃ connective : Connective, spells connective.keyword word = true := by
  cases first with
  | opening => exact .inl .opening
  | closing => exact .inl .closing
  | comma => exact .inl .comma
  | connective isField spelled _ => exact .inl (.connective isField spelled rfl)
  | equals => exact .inl .equals
  | colon follows => exact .inl (.colon follows.alone)
  | field isField named _ _ =>
      by_cases reserved : ∃ connective : Connective, spells connective.keyword word = true
      · exact .inr ⟨rfl, reserved⟩
      · exact .inl (.field isField named rfl fun connective spelled =>
          absurd ⟨connective, spelled⟩ reserved)
  | value unequal unnamed first => exact .inl (.value unequal unnamed (first.alone_of_kept kept))

theorem IsFirst.operator_cases (first : IsFirst mode word rest lexeme)
    (isOperator : lexeme.kind = .operator) :
    lexeme.text = word ∧
      (word = ['='] ∨ ∃ drawn, word = ':' :: drawn ∧ FollowsColon drawn rest) := by
  cases first with
  | equals => exact ⟨rfl, .inl rfl⟩
  | colon follows => exact ⟨rfl, .inr ⟨_, rfl, follows⟩⟩
  | value _ _ first => simp [first.kind.1] at isOperator
  | _ => simp at isOperator

theorem IsFirst.named (first : IsFirst mode word rest lexeme) (isField : lexeme.kind = .field) :
    Unfinished.isFieldName lexeme.text = true := by
  cases first with
  | field _ named _ _ => exact named
  | value _ _ first => simp [first.kind.1] at isField
  | _ => simp at isField

theorem IsFirst.mode_eq_field (first : IsFirst mode word rest lexeme)
    (isField : lexeme.kind = .field) : mode = .field := by
  cases first with
  | field isField' _ _ _ => exact isField'
  | value _ _ first => simp [first.kind.1] at isField
  | _ => simp at isField

theorem IsFirst.endsAt_of_connective (first : IsFirst mode word rest lexeme)
    (isConnective : lexeme.kind = .connective) : endsAt isSpace rest = true := by
  cases first with
  | connective _ _ ends => exact ends
  | value _ _ first => simp [first.kind.1] at isConnective
  | _ => simp at isConnective

theorem IsFirst.eq_of_leftParen (first : IsFirst mode word rest lexeme)
    (opens : lexeme.kind = .leftParen) : word = ['('] := by
  cases first with
  | opening => rfl
  | value _ _ first => simp [first.kind.1] at opens
  | _ => simp at opens

theorem IsFirst.closing_alone (first : IsFirst mode word rest lexeme)
    (closes : lexeme.kind = .rightParen) : IsFirst mode word [] lexeme := by
  cases first with
  | closing => exact .closing
  | value _ _ first => simp [first.kind.1] at closes
  | _ => simp at closes

end Consequences

theorem isLiteral_eq_false_of_isOperatorWord {word : List Char}
    (operatorWord : Value.isOperatorWord word = true) : isLiteral word = false := by
  rw [Bool.eq_false_iff]
  intro literal
  obtain ⟨first, later, rfl, begins⟩ := head_of_isOperatorWord operatorWord
  rcases isLiteral_iff.mp literal with numeral | spelled | spelled
  · have letter := isAlpha_of_isOperatorWord operatorWord first List.mem_cons_self
    obtain ⟨_, _, same, signed⟩ := numeral.head
    obtain ⟨rfl, _⟩ := List.cons.inj same
    rcases signed with rfl | digit
    · simp at letter
    · simp [isDigit_of_isAlpha letter] at digit
  · obtain ⟨_, _, same, isT⟩ := exists_cons_of_spells 'T' rfl spelled
    obtain ⟨rfl, _⟩ := List.cons.inj same
    simp [isT] at begins
  · obtain ⟨_, _, same, isF⟩ := exists_cons_of_spells 'F' rfl spelled
    obtain ⟨rfl, _⟩ := List.cons.inj same
    simp [isF] at begins

theorem IsFirstValue.of_isOperatorWord {word rest : List Char} {lexeme : Lexeme}
    (first : IsFirstValue word rest lexeme) (operatorWord : Value.isOperatorWord word = true) :
    lexeme.valueKind = some .string ∧ lexeme.text = word := by
  have plain := isLiteral_eq_false_of_isOperatorWord operatorWord
  obtain ⟨character, later, begins, head⟩ := head_of_isOperatorWord operatorWord
  cases first with
  | closed isQuote _ =>
      obtain ⟨rfl, _⟩ := List.cons.inj begins
      rcases isQuote with rfl | rfl <;> simp at head
  | unclosed isQuote _ =>
      obtain ⟨rfl, _⟩ := List.cons.inj begins
      rcases isQuote with rfl | rfl <;> simp at head
  | numeral isNumeral _ => simp [isLiteral_iff.mpr (.inl isNumeral)] at plain
  | boolean spelled _ => simp [isLiteral_iff.mpr (.inr spelled)] at plain
  | bare => exact ⟨rfl, rfl⟩

theorem first?_eq_none_iff {mode : Mode} {character : Char} {rest : List Char}
    (visible : isSpace character = false) :
    first? mode (character :: rest) = none ↔ isControl character = true := by
  constructor
  · intro nothing
    simp only [first?, Option.or_eq_none_iff] at nothing
    obtain ⟨noSign, _, noOperator, _, noValue⟩ := nothing
    simp only [value?, Option.or_eq_none_iff] at noValue
    obtain ⟨_, _, _, noBare⟩ := noValue
    have ends : endsWord character = true := endsWord_of_bare?_eq_none noBare
    simp only [endsWord, endsValue, visible, Bool.false_or, Bool.or_eq_true,
      decide_eq_true_eq] at ends
    rcases ends with (((rfl | rfl) | rfl) | rfl) | control
    · simp [operator?, operatorSize?] at noOperator
    · simp [sign?] at noSign
    · simp [sign?] at noSign
    · simp [sign?] at noSign
    · exact control
  · intro control
    rw [Option.eq_none_iff_forall_ne_some]
    intro lexeme found
    obtain ⟨word, behind, parts, first⟩ := first?_eq_some_iff.mp found
    obtain ⟨begins, later, rfl⟩ := List.exists_cons_of_ne_nil first.ne_nil
    obtain ⟨rfl, _⟩ := List.cons.inj parts
    cases quoted : isQuotation (character :: later) with
    | false =>
        have space := (first.unquoted quoted).2 character List.mem_cons_self control
        simp [visible] at space
    | true =>
        simp only [isQuotation, List.head?_cons, Bool.or_eq_true, decide_eq_true_eq,
          Option.some.injEq] at quoted
        rcases quoted with rfl | rfl <;> simp [isControl] at control

end FilterBox.Lexeme
