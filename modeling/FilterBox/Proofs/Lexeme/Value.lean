import FilterBox.Filter.Printer
import FilterBox.Proofs.Lexeme.Numeral
import FilterBox.Proofs.Lexeme.Word
import FilterBox.Proofs.Text.Quotation

/-!
Reading the written forms of values where a value is expected.

Each written form is taken whole, whatever follows the boundary behind it. For a word that is left
unquoted this says that `Value.needsQuotes` and the recognisers agree.
-/

namespace FilterBox.Lexeme

open Text

theorem first?_eq_value? {mode : Mode} (expected : mode ≠ .field) {character : Char}
    {rest : List Char}
    (unstructured : character ∉ ['(', ')', ',', ':', '=']) :
    first? mode (character :: rest) = value? (character :: rest) := by
  simp only [List.mem_cons, List.not_mem_nil, or_false, not_or] at unstructured
  have noSign : sign? (character :: rest) = none := by simp_all [sign?]
  have noOperator : operator? (character :: rest) = none := by simp_all [operator?, operatorSize?]
  simp [first?, noSign, noOperator, expected]

@[simp]
theorem verbatim_append (kind : Token.Kind) (valueKind : Option Value.Kind)
    (word rest : List Char) :
    verbatim kind valueKind (word ++ rest) word.length =
      ⟨kind, valueKind, word.length, word, true⟩ := by
  simp [verbatim]

theorem quoted?_eq_none {character : Char} {rest : List Char} (double : character ≠ '"')
    (single : character ≠ '\'') : quoted? (character :: rest) = none := by
  simp [quoted?, double, single]

theorem numeral?_eq_none {character : Char} {rest : List Char} (unsigned : character ≠ '-')
    (other : character.isDigit = false) : numeral? (character :: rest) = none := by
  simp [numeral?, numeralSize?, unsigned, other]

theorem numeral?_append {text rest : List Char} (numeral : IsNumeral text)
    (ends : endsAt endsValue rest = true) :
    numeral? (text ++ rest) = some ⟨.value, some .number, text.length, text, true⟩ := by
  have stops : endsAt endsValue ((text ++ rest).drop text.length) = true := by simpa using ends
  rw [numeral?, numeralSize?_append numeral ends, Option.filter_some, if_pos stops, Option.map_some,
    verbatim_append]

theorem boolean?_append {text rest : List Char}
    (spelled : spells "TRUE" text = true ∨ spells "FALSE" text = true)
    (ends : endsAt endsValue rest = true) :
    boolean? (text ++ rest) = some ⟨.value, some .boolean, text.length, text, true⟩ := by
  have size : booleanSize? (text ++ rest) = some text.length := by
    rw [booleanSize?]
    rcases spelled with spelled | spelled
    · rw [wordSize?_append spelled ends, Option.some_or]
    · obtain ⟨first, later, rfl, isF⟩ := exists_cons_of_spells 'F' rfl spelled
      have other : wordSize? "TRUE" endsValue (first :: later ++ rest) = none :=
        wordSize?_eq_none_of_toUpper 'T' rfl (by simp [isF])
      rw [other, Option.none_or, wordSize?_append spelled ends]
  rw [boolean?, size, Option.map_some, verbatim_append]

theorem value?_numeral {text rest : List Char} (numeral : IsNumeral text)
    (ends : endsAt endsValue rest = true) :
    value? (text ++ rest) = some ⟨.value, some .number, text.length, text, true⟩ := by
  have unquoted : quoted? (text ++ rest) = none := by
    obtain ⟨character, later, rfl, signed⟩ := numeral.head
    rcases signed with rfl | digit
    · rfl
    · apply quoted?_eq_none <;> rintro rfl <;> simp at digit
  rw [value?, unquoted, Option.none_or, numeral?_append numeral ends, Option.some_or]

theorem value?_boolean {text rest : List Char}
    (spelled : spells "TRUE" text = true ∨ spells "FALSE" text = true)
    (ends : endsAt endsValue rest = true) :
    value? (text ++ rest) = some ⟨.value, some .boolean, text.length, text, true⟩ := by
  have letters : ∀ character ∈ text, character.isAlpha = true := by
    rcases spelled with spelled | spelled
    · exact isAlpha_of_spells (by decide) spelled
    · exact isAlpha_of_spells (by decide) spelled
  have first : quoted? (text ++ rest) = none ∧ numeral? (text ++ rest) = none := by
    cases text with
    | nil => rcases spelled with spelled | spelled <;> simp [spells] at spelled
    | cons character later =>
        have letter := letters character (by simp)
        constructor
        · apply quoted?_eq_none <;> rintro rfl <;> simp at letter
        · apply numeral?_eq_none _ (isDigit_of_isAlpha letter)
          rintro rfl
          simp at letter
  rw [value?, first.1, first.2, Option.none_or, Option.none_or, boolean?_append spelled ends,
    Option.some_or]

/-- What is left of the reasons to quote a word that is left unquoted. -/
structure IsBare (word : List Char) : Prop where
  nonempty : word ≠ []
  unquoted : word.head? ≠ some '"' ∧ word.head? ≠ some '\''
  unequal : word.head? ≠ some '='
  inside : ∀ character ∈ word, endsValue character = false
  shown : ∀ character ∈ word, isControl character = false
  unescaped : ∀ character ∈ word, character ≠ '"'
  notNumeral : numeralSize? word ≠ some word.length
  notTrue : spells "TRUE" word = false
  notFalse : spells "FALSE" word = false
  notKeyword : ∀ connective ∈ Connective.all, spells connective.keyword word = false

theorem all_isFieldCharacter_of_spells {word : String} {text : List Char}
    (capitals : isCapital word = true)
    (spelled : spells word text = true) : text.all isFieldCharacter = true := by
  rw [List.all_eq_true]
  intro character member
  exact isFieldCharacter_of_isAlpha (isAlpha_of_spells capitals spelled character member)

theorem isBare_of_needsQuotes {word : List Char} (plain : Value.needsQuotes word = false) :
    IsBare word := by
  cases word with
  | nil => simp [Value.needsQuotes] at plain
  | cons first rest =>
      simp only [Value.needsQuotes, Bool.or_eq_false_iff, decide_eq_false_iff_not,
        List.any_eq_false, Bool.or_eq_true, decide_eq_true_eq, not_or, Bool.not_eq_true] at plain
      obtain ⟨⟨⟨⟨⟨⟨⟨double, single⟩, equals⟩, characters⟩, numeral⟩, noTrue⟩, noFalse⟩, keyword⟩ :=
        plain
      refine ⟨by simp, ⟨by simpa using double, by simpa using single⟩, by simpa using equals,
        fun character member => (characters character member).1.1,
        fun character member => (characters character member).1.2,
        fun character member => (characters character member).2, numeral, noTrue, noFalse, ?_⟩
      intro connective member
      have capitals : isCapital connective.keyword = true := by
        cases connective <;> decide
      cases spelled : spells connective.keyword (first :: rest) with
      | false => rfl
      | true =>
          simp only [all_isFieldCharacter_of_spells capitals spelled, Bool.true_and,
            List.any_eq_false] at keyword
          exact absurd spelled (keyword connective member)

theorem value?_bare {word rest : List Char} (bare : IsBare word)
    (ends : endsAt endsValue rest = true) :
    value? (word ++ rest) = some ⟨.value, some .string, word.length, word, true⟩ := by
  have noQuotation : quoted? (word ++ rest) = none := by
    obtain ⟨first, later, rfl⟩ := List.exists_cons_of_ne_nil bare.nonempty
    exact quoted?_eq_none (by simpa using bare.unquoted.1) (by simpa using bare.unquoted.2)
  have noNumeral : numeral? (word ++ rest) = none := by
    simp only [numeral?, Option.map_eq_none_iff, Option.filter_eq_none_iff]
    intro size found stops
    exact bare.notNumeral (numeralSize?_of_endsAt bare.inside ends found stops)
  have noWord : ∀ truth, isCapital truth = true → spells truth word = false →
      wordSize? truth endsValue (word ++ rest) = none := by
    intro truth capitals other
    rw [Option.eq_none_iff_forall_ne_some]
    intro size found
    have spelled :=
      spells_of_wordSize? capitals (fun _ => endsValue_of_isAlpha) bare.inside ends found
    simp [spelled] at other
  have noBoolean : boolean? (word ++ rest) = none := by
    simp [boolean?, booleanSize?, noWord "TRUE" (by decide) bare.notTrue,
      noWord "FALSE" (by decide) bare.notFalse]
  have taken : (word ++ rest).takeWhile
      (fun character => !endsValue character && !isControl character) = word := by
    apply takeWhile_append_of_endsAt _ ends
    · intro character boundary
      simp [boundary]
    · intro character member
      simp [bare.inside character member, bare.shown character member]
  have nonempty : word.isEmpty = false := by simpa using bare.nonempty
  simp [value?, noQuotation, noNumeral, noBoolean, bare?, taken, nonempty]

theorem value?_quotation {rest : List Char} :
    value? ('"' :: rest) = some ⟨.value, some .string, (Quotation.read '"' rest).size + 1,
      (Quotation.read '"' rest).content, (Quotation.read '"' rest).closed⟩ := by
  simp [value?, quoted?]

theorem value?_quoted {text : List Char} (readable : text.getLast? ≠ some '\\')
    (rest : List Char) :
    value? (quoted text ++ rest) =
      some ⟨.value, some .string, (quoted text).length, text, true⟩ := by
  rw [quoted_append, value?_quotation, Quotation.read_escapeQuotes_closed (by decide) readable,
    length_quoted]

theorem value?_quoted_backslash {text : List Char} (final : text.getLast? = some '\\')
    (rest : List Char) :
    ∃ size content closed, value? (quoted text ++ rest) =
      some ⟨.value, some .string, size, content, closed⟩ ∧ content ≠ text := by
  obtain ⟨start, rfl⟩ := List.getLast?_eq_some_iff.mp final
  rw [quoted_append]
  refine ⟨_, _, _, value?_quotation, ?_⟩
  rw [Quotation.content_read_escapeQuotes_backslash (by decide)]
  simp

end FilterBox.Lexeme
