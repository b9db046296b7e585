import FilterBox.Proofs.Lexeme.Value

/-!
The value that a text begins with, as a relation.

`IsFirstValue word rest lexeme` says that in front of the rest the word is taken as a value;
`value?_eq_some_iff` says that this is what is found. The rest matters only by the character that it
begins with.
-/

namespace FilterBox.Lexeme

open Text

/-- Whether a text spells a number or a truth value. -/
def isLiteral (text : List Char) : Bool :=
  numeralSize? text = some text.length || spells "TRUE" text || spells "FALSE" text

def endsWord (character : Char) : Bool :=
  endsValue character || isControl character

/-- In front of the rest the word is taken as a value. -/
inductive IsFirstValue : List Char → List Char → Lexeme → Prop where
  | closed {quote : Char} {inner content rest : List Char} :
      quote = '"' ∨ quote = '\'' →
      Quotation.read quote inner = ⟨content, inner.length, true⟩ →
      IsFirstValue (quote :: inner) rest ⟨.value, some .string, inner.length + 1, content, true⟩
  | unclosed {quote : Char} {inner content : List Char} :
      quote = '"' ∨ quote = '\'' →
      Quotation.read quote inner = ⟨content, inner.length, false⟩ →
      IsFirstValue (quote :: inner) [] ⟨.value, some .string, inner.length + 1, content, false⟩
  | numeral {word rest : List Char} :
      IsNumeral word →
      endsAt endsValue rest = true →
      IsFirstValue word rest ⟨.value, some .number, word.length, word, true⟩
  | boolean {word rest : List Char} :
      spells "TRUE" word = true ∨ spells "FALSE" word = true →
      endsAt endsValue rest = true →
      IsFirstValue word rest ⟨.value, some .boolean, word.length, word, true⟩
  | bare {word rest : List Char} :
      word ≠ [] →
      word.head? ≠ some '"' ∧ word.head? ≠ some '\'' →
      (∀ character ∈ word, endsWord character = false) →
      endsAt endsWord rest = true →
      (isLiteral word = true → endsAt endsValue rest = false) →
      IsFirstValue word rest ⟨.value, some .string, word.length, word, true⟩

theorem endsWord_of_endsValue {character : Char} (ends : endsValue character = true) :
    endsWord character = true := by
  simp [endsWord, ends]

theorem endsWord_of_isAlpha {character : Char} (letter : character.isAlpha = true) :
    endsWord character = false := by
  simp [endsWord, endsValue_of_isAlpha letter, isControl_of_isAlpha letter]

theorem IsNumeral.shown {text : List Char} (numeral : IsNumeral text) :
    ∀ character ∈ text, isControl character = false := by
  intro character member
  rcases numeral.characters character member with digit | sign
  · exact isControl_of_isDigit digit
  · simp only [List.mem_cons, List.not_mem_nil, or_false] at sign
    rcases sign with rfl | rfl <;> decide

theorem IsNumeral.endsWord {text : List Char} (numeral : IsNumeral text) :
    ∀ character ∈ text, endsWord character = false := by
  intro character member
  simp [Lexeme.endsWord, numeral.inside character member, numeral.shown character member]

theorem numeralSize?_eq_length_iff {text : List Char} :
    numeralSize? text = some text.length ↔ IsNumeral text := by
  constructor
  · intro found
    simpa using (isNumeral_of_numeralSize? found).2
  · intro numeral
    simpa using numeralSize?_append numeral (endsAt_nil endsValue)

theorem isLiteral_iff {text : List Char} :
    isLiteral text = true ↔
      IsNumeral text ∨ spells "TRUE" text = true ∨ spells "FALSE" text = true := by
  simp only [isLiteral, Bool.or_eq_true, decide_eq_true_eq, numeralSize?_eq_length_iff, or_assoc]

theorem isAlpha_of_isTruth {text : List Char}
    (spelled : spells "TRUE" text = true ∨ spells "FALSE" text = true) :
    ∀ character ∈ text, character.isAlpha = true := by
  rcases spelled with spelled | spelled
  · exact isAlpha_of_spells (by decide) spelled
  · exact isAlpha_of_spells (by decide) spelled

theorem size_booleanSize? {text : List Char} {size : Nat} (found : booleanSize? text = some size) :
    size ≤ text.length ∧ endsAt endsValue (text.drop size) = true ∧
      (spells "TRUE" (text.take size) = true ∨ spells "FALSE" (text.take size) = true) := by
  rw [booleanSize?, Option.or_eq_some_iff] at found
  rcases found with found | ⟨_, found⟩
  · obtain ⟨same, spelled, ends⟩ := wordSize?_eq_some_iff.mp found
    exact ⟨size_le_of_spells_take same spelled, ends, .inl spelled⟩
  · obtain ⟨same, spelled, ends⟩ := wordSize?_eq_some_iff.mp found
    exact ⟨size_le_of_spells_take same spelled, ends, .inr spelled⟩

/-- A numeral up to a boundary takes the whole word before the boundary, and so does a truth
value. -/
theorem numeral?_or_boolean?_eq_none {word rest : List Char}
    (inside : ∀ character ∈ word, endsWord character = false) (ends : endsAt endsWord rest = true)
    (plain : isLiteral word = true → endsAt endsValue rest = false) :
    numeral? (word ++ rest) = none ∧ boolean? (word ++ rest) = none := by
  have whole : ∀ size, size ≤ (word ++ rest).length →
      (∀ character ∈ (word ++ rest).take size, endsWord character = false) →
      endsAt endsValue ((word ++ rest).drop size) = true →
      ¬ isLiteral ((word ++ rest).take size) = true := by
    intro size fits taken stops literal
    obtain rfl := eq_length_of_endsAt inside ends taken fits
      (endsAt_of_imp stops fun _ => endsWord_of_endsValue)
    rw [List.take_left] at literal
    rw [List.drop_left, plain literal] at stops
    simp at stops
  constructor
  · rw [numeral?, Option.map_eq_none_iff, Option.filter_eq_none_iff]
    intro size found stops
    obtain ⟨fits, numeral⟩ := isNumeral_of_numeralSize? found
    exact whole size fits numeral.endsWord stops (isLiteral_iff.mpr (.inl numeral))
  · rw [boolean?, Option.map_eq_none_iff, Option.eq_none_iff_forall_ne_some]
    intro size found
    obtain ⟨fits, stops, spelled⟩ := size_booleanSize? found
    refine whole size fits (fun character member => ?_) stops (isLiteral_iff.mpr (.inr spelled))
    exact endsWord_of_isAlpha (isAlpha_of_isTruth spelled character member)

theorem ne_backslash_of_isQuote {quote : Char} (isQuote : quote = '"' ∨ quote = '\'') :
    quote ≠ '\\' := by
  rcases isQuote with rfl | rfl <;> decide

theorem quoted?_eq_some_iff {text : List Char} {lexeme : Lexeme} :
    quoted? text = some lexeme ↔
      ∃ quote inner, text = quote :: inner ∧ (quote = '"' ∨ quote = '\'') ∧
        lexeme = ⟨.value, some .string, (Quotation.read quote inner).size + 1,
          (Quotation.read quote inner).content, (Quotation.read quote inner).closed⟩ := by
  constructor
  · intro found
    unfold quoted? at found
    split at found
    next quote inner =>
      split at found
      next isQuote =>
        exact ⟨quote, inner, rfl, by simpa using isQuote, (Option.some.inj found).symm⟩
      next => simp at found
    next => simp at found
  · rintro ⟨quote, inner, rfl, isQuote, rfl⟩
    exact if_pos (by simpa using isQuote)

theorem IsFirstValue.of_quoted? {text : List Char} {lexeme : Lexeme}
    (found : quoted? text = some lexeme) :
    ∃ word rest, text = word ++ rest ∧ IsFirstValue word rest lexeme := by
  obtain ⟨quote, inner, rfl, isQuote, rfl⟩ := quoted?_eq_some_iff.mp found
  have fits := Quotation.size_read_le quote inner
  have again := Quotation.read_take_size (ne_backslash_of_isQuote isQuote) inner
  have whole := @Quotation.size_read_of_open quote inner
  cases read : Quotation.read quote inner with
  | mk content size closed =>
      rw [read] at fits again whole
      dsimp only at fits again whole
      cases closed with
      | true =>
          refine ⟨quote :: inner.take size, inner.drop size, by simp, ?_⟩
          have length : (inner.take size).length = size := List.length_take_of_le fits
          have closes : IsFirstValue (quote :: inner.take size) (inner.drop size)
              ⟨.value, some .string, (inner.take size).length + 1, content, true⟩ :=
            .closed isQuote (by rw [again, length])
          rwa [length] at closes
      | false =>
          obtain rfl := whole rfl
          exact ⟨quote :: inner, [], by simp, .unclosed isQuote read⟩

theorem bare?_append {word rest : List Char} (nonempty : word ≠ [])
    (inside : ∀ character ∈ word, endsWord character = false) (ends : endsAt endsWord rest = true) :
    bare? (word ++ rest) = some ⟨.value, some .string, word.length, word, true⟩ := by
  have taken : (word ++ rest).takeWhile
      (fun character => !endsValue character && !isControl character) = word := by
    apply takeWhile_append_of_endsAt _ ends
    · intro character stops
      rwa [← Bool.not_or, Bool.not_eq_false']
    · intro character member
      rw [← Bool.not_or, Bool.not_eq_true']
      exact inside character member
  have something : word.isEmpty = false := by simpa using nonempty
  simp [bare?, taken, something]

theorem bare?_eq_some_iff {text : List Char} {lexeme : Lexeme} :
    bare? text = some lexeme ↔
      ∃ word rest, text = word ++ rest ∧ word ≠ [] ∧
        (∀ character ∈ word, endsWord character = false) ∧ endsAt endsWord rest = true ∧
        lexeme = ⟨.value, some .string, word.length, word, true⟩ := by
  constructor
  · intro found
    have parts : text.takeWhile (fun character => !endsWord character) ++
        text.dropWhile (fun character => !endsWord character) = text :=
      List.takeWhile_append_dropWhile
    have inside : ∀ character ∈ text.takeWhile (fun character => !endsWord character),
        endsWord character = false := fun character member => by
      simpa using List.all_eq_true.mp List.all_takeWhile character member
    have ends : endsAt endsWord (text.dropWhile fun character => !endsWord character) = true := by
      simpa using endsAt_dropWhile (fun character => !endsWord character) text
    have nonempty : text.takeWhile (fun character => !endsWord character) ≠ [] := by
      intro nothing
      rw [bare?] at found
      simp only [endsWord, Bool.not_or] at nothing
      simp [nothing] at found
    refine ⟨_, _, parts.symm, nonempty, inside, ends, ?_⟩
    rw [← parts, bare?_append nonempty inside ends] at found
    exact (Option.some.inj found).symm
  · rintro ⟨word, rest, rfl, nonempty, inside, ends, rfl⟩
    exact bare?_append nonempty inside ends

theorem endsWord_of_bare?_eq_none {character : Char} {rest : List Char}
    (nothing : bare? (character :: rest) = none) : endsWord character = true := by
  cases ends : endsWord character with
  | true => rfl
  | false =>
      simp only [endsWord, Bool.or_eq_false_iff] at ends
      simp [bare?, ends] at nothing

theorem value?_eq_some_iff {text : List Char} {lexeme : Lexeme} :
    value? text = some lexeme ↔
      ∃ word rest, text = word ++ rest ∧ IsFirstValue word rest lexeme := by
  constructor
  · intro found
    simp only [value?, Option.or_eq_some_iff] at found
    rcases found with quotation | ⟨noQuotation, numeral | ⟨noNumeral, boolean | ⟨noBoolean, bare⟩⟩⟩
    · exact IsFirstValue.of_quoted? quotation
    · obtain ⟨size, sized, rfl⟩ := Option.map_eq_some_iff.mp numeral
      obtain ⟨sized, stops⟩ := Option.filter_eq_some_iff.mp sized
      obtain ⟨fits, isNumeral⟩ := isNumeral_of_numeralSize? sized
      have first := IsFirstValue.numeral isNumeral stops
      rw [List.length_take_of_le fits] at first
      exact ⟨_, _, (List.take_append_drop size text).symm, first⟩
    · obtain ⟨size, sized, rfl⟩ := Option.map_eq_some_iff.mp boolean
      obtain ⟨fits, stops, spelled⟩ := size_booleanSize? sized
      have first := IsFirstValue.boolean spelled stops
      rw [List.length_take_of_le fits] at first
      exact ⟨_, _, (List.take_append_drop size text).symm, first⟩
    · obtain ⟨word, rest, rfl, nonempty, inside, ends, rfl⟩ := bare?_eq_some_iff.mp bare
      refine ⟨word, rest, rfl, .bare nonempty ?_ inside ends fun literal => ?_⟩
      · obtain ⟨first, later, rfl⟩ := List.exists_cons_of_ne_nil nonempty
        simpa [quoted?] using noQuotation
      · rw [Bool.eq_false_iff]
        intro stops
        rcases isLiteral_iff.mp literal with isNumeral | spelled
        · simp [numeral?_append isNumeral stops] at noNumeral
        · simp [boolean?_append spelled stops] at noBoolean
  · rintro ⟨word, rest, rfl, first⟩
    cases first with
    | @closed quote inner content rest isQuote read =>
        have again := Quotation.read_append_of_closed (ne_backslash_of_isQuote isQuote)
          (by rw [read]) rest
        have found := quoted?_eq_some_iff.mpr ⟨quote, inner ++ rest, rfl, isQuote, rfl⟩
        rw [again, read] at found
        rw [value?, List.cons_append, found, Option.some_or]
    | @unclosed quote inner content isQuote read =>
        have found := quoted?_eq_some_iff.mpr ⟨quote, inner, rfl, isQuote, rfl⟩
        rw [read] at found
        rw [value?, List.append_nil, found, Option.some_or]
    | numeral isNumeral ends => exact value?_numeral isNumeral ends
    | boolean spelled ends => exact value?_boolean spelled ends
    | bare nonempty unquoted inside ends plain =>
        obtain ⟨noNumeral, noBoolean⟩ := numeral?_or_boolean?_eq_none inside ends plain
        have noQuotation : quoted? (word ++ rest) = none := by
          obtain ⟨first, later, rfl⟩ := List.exists_cons_of_ne_nil nonempty
          exact quoted?_eq_none (by simpa using unquoted.1) (by simpa using unquoted.2)
        rw [value?, noQuotation, noNumeral, noBoolean, Option.none_or, Option.none_or,
          Option.none_or, bare?_append nonempty inside ends]

theorem not_mem_of_isAlpha {character : Char} (letter : character.isAlpha = true) :
    character ∉ ['(', ')', ',', ':'] := by
  intro structural
  simp only [List.mem_cons, List.not_mem_nil, or_false] at structural
  rcases structural with rfl | rfl | rfl | rfl <;> simp at letter

theorem IsFirstValue.head {word rest : List Char} {lexeme : Lexeme}
    (first : IsFirstValue word rest lexeme) :
    ∃ character later, word = character :: later ∧ character ∉ ['(', ')', ',', ':'] := by
  cases first with
  | closed isQuote _ => exact ⟨_, _, rfl, by rcases isQuote with rfl | rfl <;> decide⟩
  | unclosed isQuote _ => exact ⟨_, _, rfl, by rcases isQuote with rfl | rfl <;> decide⟩
  | numeral isNumeral _ =>
      obtain ⟨character, later, rfl, signed⟩ := isNumeral.head
      refine ⟨character, later, rfl, ?_⟩
      rcases signed with rfl | digit
      · decide
      · intro structural
        simp only [List.mem_cons, List.not_mem_nil, or_false] at structural
        rcases structural with rfl | rfl | rfl | rfl <;> simp at digit
  | boolean spelled _ =>
      have letters := isAlpha_of_isTruth spelled
      obtain ⟨character, later, rfl⟩ : ∃ character later, word = character :: later := by
        rcases spelled with spelled | spelled
        · obtain ⟨first, later, rfl, _⟩ := exists_cons_of_spells 'T' rfl spelled
          exact ⟨first, later, rfl⟩
        · obtain ⟨first, later, rfl, _⟩ := exists_cons_of_spells 'F' rfl spelled
          exact ⟨first, later, rfl⟩
      exact ⟨character, later, rfl, not_mem_of_isAlpha (letters character List.mem_cons_self)⟩
  | bare nonempty _ inside _ _ =>
      obtain ⟨character, later, rfl⟩ := List.exists_cons_of_ne_nil nonempty
      refine ⟨character, later, rfl, fun structural => ?_⟩
      have within := inside character List.mem_cons_self
      simp only [List.mem_cons, List.not_mem_nil, or_false] at structural
      rcases structural with rfl | rfl | rfl | rfl <;> simp [endsWord, endsValue] at within

def isQuotation (word : List Char) : Bool :=
  word.head? = some '"' || word.head? = some '\''

theorem IsFirstValue.cut {word rest rest' : List Char} {lexeme : Lexeme}
    (first : IsFirstValue word rest lexeme) (same : rest'.head? = rest.head?) :
    IsFirstValue word rest' lexeme := by
  cases first with
  | closed isQuote read => exact .closed isQuote read
  | unclosed isQuote read =>
      obtain rfl := List.head?_eq_none_iff.mp same
      exact .unclosed isQuote read
  | numeral isNumeral ends => exact .numeral isNumeral (endsAt_congr same _ ▸ ends)
  | boolean spelled ends => exact .boolean spelled (endsAt_congr same _ ▸ ends)
  | bare nonempty unquoted inside ends plain =>
      exact .bare nonempty unquoted inside (endsAt_congr same _ ▸ ends)
        (endsAt_congr same endsValue ▸ plain)

theorem IsFirstValue.unquoted {word rest : List Char} {lexeme : Lexeme}
    (first : IsFirstValue word rest lexeme) (plain : isQuotation word = false) :
    lexeme.text = word ∧ ∀ character ∈ word, endsWord character = false := by
  cases first with
  | closed isQuote _ => rcases isQuote with rfl | rfl <;> simp [isQuotation] at plain
  | unclosed isQuote _ => rcases isQuote with rfl | rfl <;> simp [isQuotation] at plain
  | numeral isNumeral _ => exact ⟨rfl, isNumeral.endsWord⟩
  | boolean spelled _ =>
      refine ⟨rfl, fun character member => ?_⟩
      exact endsWord_of_isAlpha (isAlpha_of_isTruth spelled character member)
  | bare _ _ inside _ _ => exact ⟨rfl, inside⟩

theorem IsFirstValue.kind {word rest : List Char} {lexeme : Lexeme}
    (first : IsFirstValue word rest lexeme) : lexeme.kind = .value ∧ lexeme.size = word.length := by
  cases first <;> exact ⟨rfl, rfl⟩

theorem IsFirstValue.visible {word rest : List Char} {lexeme : Lexeme}
    (first : IsFirstValue word rest lexeme) :
    ∃ character later, word = character :: later ∧ isSpace character = false := by
  obtain ⟨character, later, rfl, _⟩ := first.head
  refine ⟨character, later, rfl, ?_⟩
  cases quoted : isQuotation (character :: later) with
  | false =>
      have within := (first.unquoted quoted).2 character List.mem_cons_self
      simp only [endsWord, Bool.or_eq_false_iff] at within
      exact isSpace_of_endsValue within.1
  | true =>
      simp only [isQuotation, List.head?_cons, Bool.or_eq_true, decide_eq_true_eq,
        Option.some.injEq] at quoted
      rcases quoted with rfl | rfl <;> rfl

theorem IsFirstValue.rest_of_open {word rest : List Char} {lexeme : Lexeme}
    (first : IsFirstValue word rest lexeme) (isOpen : lexeme.closed = false) :
    isQuotation word = true ∧ rest = [] := by
  cases first with
  | unclosed isQuote _ => exact ⟨by rcases isQuote with rfl | rfl <;> rfl, rfl⟩
  | _ => simp at isOpen

theorem ne_nil_of_isLiteral {text : List Char} (literal : isLiteral text = true) : text ≠ [] := by
  rintro rfl
  simp [isLiteral, numeralSize?, spells] at literal

theorem not_mem_of_isLiteral {text : List Char} (literal : isLiteral text = true) {quote : Char}
    (isQuote : quote = '"' ∨ quote = '\'') : quote ∉ text := by
  intro member
  rcases isLiteral_iff.mp literal with numeral | spelled
  · have known := numeral.characters quote member
    rcases isQuote with rfl | rfl <;> simp at known
  · have letter := isAlpha_of_isTruth spelled quote member
    rcases isQuote with rfl | rfl <;> simp at letter

/-- A value is read in the same way at the end of the text, unless it is a literal that only what
stood behind it made a string. -/
theorem IsFirstValue.alone {word rest : List Char} {lexeme : Lexeme}
    (first : IsFirstValue word rest lexeme) :
    IsFirstValue word [] lexeme ∨
      lexeme = ⟨.value, some .string, word.length, word, true⟩ ∧ isLiteral word = true := by
  cases first with
  | closed isQuote read => exact .inl (.closed isQuote read)
  | unclosed isQuote read => exact .inl (.unclosed isQuote read)
  | numeral isNumeral _ => exact .inl (.numeral isNumeral rfl)
  | boolean spelled _ => exact .inl (.boolean spelled rfl)
  | bare nonempty unquoted inside _ _ =>
      by_cases literal : isLiteral word = true
      · exact .inr ⟨rfl, literal⟩
      · exact .inl (.bare nonempty unquoted inside rfl fun isLiteral => absurd isLiteral literal)

/-- A value stays as it is at the end of the text, if no dropped character stood behind it. -/
theorem IsFirstValue.alone_of_kept {word rest : List Char} {lexeme : Lexeme}
    (first : IsFirstValue word rest lexeme)
    (kept : ∀ next ∈ rest.head?, isControl next = true → isSpace next = true) :
    IsFirstValue word [] lexeme := by
  cases first with
  | closed isQuote read => exact .closed isQuote read
  | unclosed isQuote read => exact .unclosed isQuote read
  | numeral isNumeral _ => exact .numeral isNumeral rfl
  | boolean spelled _ => exact .boolean spelled rfl
  | bare nonempty unquoted inside ends plain =>
      refine .bare nonempty unquoted inside rfl fun literal => ?_
      have touches := plain literal
      cases rest with
      | nil => simp at touches
      | cons next later =>
          rw [endsAt_cons] at ends touches
          rw [endsWord, touches, Bool.false_or] at ends
          have space := kept next rfl ends
          simp [endsValue, space] at touches

/-- At the end of a text, a string that holds no quotes and has none in front of it is written as it
stands, and is no literal. -/
theorem IsFirstValue.eq_of_append_eq {word front before : List Char} {lexeme : Lexeme}
    (first : IsFirstValue word [] lexeme) (string : lexeme.valueKind = some .string)
    (nonempty : lexeme.text ≠ [])
    (plain : ∀ quote, quote = '"' ∨ quote = '\'' → quote ∉ lexeme.text)
    (whole : front ++ word = before ++ lexeme.text)
    (unquoted : ∀ quote, quote = '"' ∨ quote = '\'' → before.getLast? ≠ some quote) :
    lexeme.text = word ∧ front = before ∧ isLiteral word = false := by
  cases first with
  | @closed quote inner content rest isQuote read =>
      -- The closing quote would be the last character of the string.
      have final : inner.getLast? = some quote :=
        Quotation.getLast?_of_closed (ne_backslash_of_isQuote isQuote) (by rw [read]) (by rw [read])
      have last := congrArg List.getLast? whole
      rw [List.getLast?_append, List.getLast?_cons, final, List.getLast?_append,
        List.getLast?_eq_some_getLast nonempty] at last
      have closing : quote = content.getLast nonempty := by simpa using last
      exact absurd (closing ▸ List.getLast_mem nonempty) (plain quote isQuote)
  | @unclosed quote inner content isQuote read =>
      have same : (Quotation.read quote inner).content = inner :=
        Quotation.content_eq_of_open (by rw [read]) (by rw [read]; exact plain quote isQuote)
      rw [read] at same
      dsimp only at same whole
      rw [same, ← List.singleton_append, ← List.append_assoc] at whole
      have opened := List.append_cancel_right whole
      exact absurd (by rw [← opened, List.getLast?_concat]) (unquoted quote isQuote)
  | numeral => simp at string
  | boolean => simp at string
  | bare _ _ _ _ noLiteral =>
      refine ⟨rfl, List.append_cancel_right whole, ?_⟩
      rw [Bool.eq_false_iff]
      intro literal
      have stops := noLiteral literal
      simp at stops

end FilterBox.Lexeme
