import FilterBox.Proofs.Token.Context

/-!
Words without quotes are as long as can be.

The word of a field goes on to the first character that no name can hold, and the word of a value
without quotes to the first character that ends a word. What such a value is told by the whole word,
and by nothing else but whether a character is dropped behind it (`exists_maximal_word`).
-/

namespace FilterBox

open Text Lexeme

/-- Whether a text begins with a character that is dropped. -/
def Text.BeginsDropped (text : List Char) : Prop :=
  ∃ character ∈ text.head?, isControl character = true ∧ isSpace character = false

instance (text : List Char) : Decidable (BeginsDropped text) :=
  decidable_of_iff (text.head?.any fun character => isControl character && !isSpace character)
    (by cases text <;> simp [BeginsDropped])

namespace Token

/-- The token carries a name, which the word is up to the first character that no name can hold. -/
structure IsWholeName (token : Token) (word after : List Char) : Prop where
  text : token.text = String.ofList word
  named : Unfinished.isFieldName word = true
  maximal : endsAt (fun character => !isFieldCharacter character) after = true

/-- The token carries a value, which the word is up to the first character that ends a word. A
literal before a character that is dropped is a string. -/
structure IsWholeValue (token : Token) (word after : List Char) : Prop where
  text : token.text = String.ofList word
  nonempty : word ≠ []
  inside : ∀ character ∈ word, endsWord character = false
  maximal : endsAt endsWord after = true
  number : token.valueKind = some .number ↔ IsNumeral word ∧ ¬ BeginsDropped after
  boolean : token.valueKind = some .boolean ↔
    (spells "TRUE" word = true ∨ spells "FALSE" word = true) ∧ ¬ BeginsDropped after
  string : token.valueKind = some .string ↔
    (IsNumeral word ∨ spells "TRUE" word = true ∨ spells "FALSE" word = true → BeginsDropped after)

end Token

namespace Lexeme

variable {mode : Mode} {word rest : List Char} {lexeme : Lexeme}

theorem isControl_of_endsValue {character : Char} (ends : endsValue character = true)
    (control : isControl character = true) : isSpace character = true := by
  simp only [endsValue, Bool.or_eq_true, decide_eq_true_eq] at ends
  rcases ends with (((space | rfl) | rfl) | rfl) | rfl
  · exact space
  all_goals simp [isControl] at control

theorem endsAt_endsValue_iff (ends : endsAt endsWord rest = true) :
    endsAt endsValue rest = true ↔ ¬ BeginsDropped rest := by
  cases rest with
  | nil => simp [BeginsDropped]
  | cons character later =>
      have control : endsValue character = true ∨ isControl character = true := by
        simpa [endsWord] using ends
      simp only [endsAt_cons, BeginsDropped, List.head?_cons, Option.mem_some_iff, exists_eq_left']
      constructor
      · rintro stops ⟨isControl, visible⟩
        simp [isControl_of_endsValue stops isControl] at visible
      · intro kept
        rcases control with stops | isControl
        · exact stops
        · have space : isSpace character = true := by simpa [isControl] using kept
          simp [endsValue, space]

theorem IsNumeral.not_isTruth (numeral : IsNumeral word) :
    ¬ (spells "TRUE" word = true ∨ spells "FALSE" word = true) := by
  intro spelled
  obtain ⟨character, later, rfl, signed⟩ := numeral.head
  have letter := isAlpha_of_isTruth spelled character List.mem_cons_self
  rcases signed with rfl | digit
  · simp at letter
  · simp [isDigit_of_isAlpha letter] at digit

theorem IsFirstValue.isWholeValue (first : IsFirstValue word rest lexeme)
    (plain : isQuotation word = false) (offset : Nat) :
    (lexeme.placed offset word).IsWholeValue word rest := by
  obtain ⟨text, inside⟩ := first.unquoted plain
  obtain ⟨_, _, visible, _⟩ := first.visible
  have nonempty : word ≠ [] := visible ▸ List.cons_ne_nil _ _
  cases first with
  | closed isQuote _ => rcases isQuote with rfl | rfl <;> simp [isQuotation] at plain
  | unclosed isQuote _ => rcases isQuote with rfl | rfl <;> simp [isQuotation] at plain
  | numeral numeral ends =>
      have maximal := endsAt_of_imp ends fun _ => endsWord_of_endsValue
      have kept := (endsAt_endsValue_iff maximal).mp ends
      have noTruth := numeral.not_isTruth
      refine ⟨rfl, nonempty, inside, maximal, ?_, ?_, ?_⟩
      · simp [placed, numeral, kept]
      · simp [placed, noTruth]
      · simp [placed, numeral, kept]
  | boolean spelled ends =>
      have maximal := endsAt_of_imp ends fun _ => endsWord_of_endsValue
      have kept := (endsAt_endsValue_iff maximal).mp ends
      have noNumeral : ¬ IsNumeral word := fun numeral => numeral.not_isTruth spelled
      refine ⟨rfl, nonempty, inside, maximal, ?_, ?_, ?_⟩
      · simp [placed, noNumeral]
      · simp [placed, spelled, kept]
      · simp [placed, spelled, kept]
  | bare _ _ _ maximal plain =>
      rw [isLiteral_iff] at plain
      have dropped : IsNumeral word ∨ spells "TRUE" word = true ∨ spells "FALSE" word = true →
          BeginsDropped rest := by
        refine fun literal => Decidable.byContradiction fun kept => ?_
        have ends := (endsAt_endsValue_iff maximal).mpr kept
        simp [plain literal] at ends
      refine ⟨rfl, nonempty, inside, maximal, ?_, ?_, ?_⟩
      · simpa [placed] using fun numeral => dropped (.inl numeral)
      · simpa [placed] using fun spelled => dropped (.inr spelled)
      · simpa [placed] using dropped

theorem IsFirst.isWholeName (first : IsFirst mode word rest lexeme) (isField : lexeme.kind = .field)
    (offset : Nat) : (lexeme.placed offset word).IsWholeName word rest := by
  cases first with
  | field _ named ends _ => exact ⟨rfl, named, ends⟩
  | value _ _ first => simp [first.kind.1] at isField
  | _ => simp at isField

end Lexeme

namespace Query

/-- The stretch of a field is a whole name, and the stretch of a value without quotes is a whole
word, which alone tells what the value is. -/
theorem exists_maximal_word (query : String) : ∀ token ∈ tokens query,
    ∃ before word after, query.toList = before ++ (word ++ after) ∧
      token.span = ⟨byteLength before, byteLength before + byteLength word⟩ ∧
      (token.kind = .field → token.IsWholeName word after) ∧
      (token.kind = .value → isQuotation word = false → token.IsWholeValue word after) := by
  intro token member
  rcases eq_final_or_exists_word member with
    rfl | ⟨before, word, after, mode, lexeme, whole, first, rfl⟩
  · exact ⟨query.toList, [], [], by simp, rfl, by simp [Token.final], by simp [Token.final]⟩
  · refine ⟨before, word, after, whole, rfl, fun isField => ?_, fun isValue plain => ?_⟩
    · exact first.isWholeName isField _
    · exact (first.firstValue isValue).isWholeValue plain _

/-- Before a character that is dropped a numeral is a string. -/
theorem exists_maximal_word_dropped :
    let query := "a.b:-12.5\x02,c"
    let token : Token := ⟨.value, "-12.5", some .string, ⟨4, 9⟩⟩
    token ∈ tokens query ∧ token.IsWholeValue "-12.5".toList "\x02,c".toList := by
  intro query token
  have member : token ∈ tokens query := by decide +kernel
  obtain ⟨before, word, after, whole, place, _, isValue⟩ := exists_maximal_word query token member
  obtain ⟨begins, stops⟩ := Span.mk.inj place
  have parts : query.toList = "a.b:".toList ++ ("-12.5".toList ++ "\x02,c".toList) := by decide
  obtain ⟨rfl, same⟩ := append_inj_of_byteLength (parts.symm.trans whole) begins
  obtain ⟨rfl, rfl⟩ := append_inj_of_byteLength same (Nat.add_left_cancel stops)
  exact ⟨member, isValue rfl rfl⟩

end Query

end FilterBox
