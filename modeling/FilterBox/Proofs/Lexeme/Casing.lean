import FilterBox.Proofs.Lexeme.Exchange
import FilterBox.Proofs.Text.Casing

/-!
Letters in another case.

A token does not look at the case of the letters behind it (`exchangeable_of_sameLetters`). A
connective, an operator or a truth value whose letters change their case is read as the same token
with another text (`IsFirst.recase`), and what follows it is read as before (`nextMode_recase`).
-/

namespace FilterBox

open Text

namespace Operator

theorem map_intersperse {words : List (List Char)} (change : List Char → List Char) :
    (words.intersperse [' ']).map change = (words.map change).intersperse (change [' ']) := by
  induction words with
  | nil => rfl
  | cons word rest inductionHypothesis =>
      cases rest with
      | nil => rfl
      | cons next later => simpa using inductionHypothesis

theorem ofSymbol?_of_sameLetters {text text' : String}
    (same : SameLetters text.toList text'.toList) : ofSymbol? text = ofSymbol? text' := by
  have spaced : SameLetters ((words text.toList).intersperse [' ']).flatten
      ((words text'.toList).intersperse [' ']).flatten := by
    unfold SameLetters at same ⊢
    rw [List.map_flatten, List.map_flatten, map_intersperse, map_intersperse, ← words_map_toUpper,
      ← words_map_toUpper, same]
  have plain : ∀ character ∈ ['='], character.isAlpha = false := by simp
  have equalsSign : ((words text.toList).intersperse [' ']).flatten = ['='] ↔
      ((words text'.toList).intersperse [' ']).flatten = ['='] :=
    ⟨fun isEquals => (isEquals ▸ spaced).eq_of_plain plain,
      fun isEquals => (isEquals ▸ spaced.symm).eq_of_plain plain⟩
  unfold ofSymbol?
  simp only [equalsSign, spaced.spells]

end Operator

theorem Connective.ofKeyword?_of_sameLetters {text text' : String}
    (same : SameLetters text.toList text'.toList) : ofKeyword? text = ofKeyword? text' := by
  unfold ofKeyword?
  simp only [same.spells]

namespace Lexeme

section Letters

variable {text text' : List Char}

theorem wordSize?_of_sameLetters (same : SameLetters text text') (word : String)
    {boundary : Char → Bool} (known : boundary ∈ lookaheads) :
    wordSize? word boundary text = wordSize? word boundary text' := by
  unfold wordSize?
  rw [(same.take _).spells word, (same.drop _).endsAt (lookahead_of_isAlpha known)]

theorem operatorWordSize?_of_sameLetters (same : SameLetters text text') :
    operatorWordSize? text = operatorWordSize? text' := by
  have known : maySucceedOperator ∈ lookaheads := by simp [lookaheads]
  unfold operatorWordSize?
  rw [wordSize?_of_sameLetters same "IN" known, wordSize?_of_sameLetters same "LIKE" known]

theorem negatableWordSize?_of_sameLetters (same : SameLetters text text') :
    negatableWordSize? text = negatableWordSize? text' := by
  have negation := wordSize?_of_sameLetters same "NOT" (by simp [lookaheads] : isSpace ∈ lookaheads)
  have gaps := fun size => (same.drop size).length_takeWhile
  have words := fun size => operatorWordSize?_of_sameLetters (same.drop size)
  simp only [negatableWordSize?, negation, gaps, words, operatorWordSize?_of_sameLetters same]

theorem exchangeable_of_sameLetters (same : SameLetters text text') : Exchangeable text text' where
  lookahead _ known := (same.endsAt (lookahead_of_isAlpha known)).symm
  noWord := by
    rw [negatableWordSize?_of_sameLetters same]
    exact id
  noSign nothing := by
    have plain : ∀ sign ∈ comparisonSigns, ∀ character ∈ sign.toList,
        character.isAlpha = false := by
      simp [comparisonSigns]
    rw [comparisonSize?_eq_none_iff] at nothing ⊢
    intro sign known begins
    exact nothing sign known (same.isPrefix (plain sign known) begins)

end Letters

section Keywords

/-- Whether a lexeme is a word of the language: a connective, an operator or a truth value. -/
def IsKeyword (lexeme : Lexeme) : Prop :=
  lexeme.kind = .connective ∨ lexeme.kind = .operator ∨
    (lexeme.kind = .value ∧ lexeme.valueKind = some .boolean)

variable {mode : Mode} {word word' rest : List Char} {lexeme : Lexeme}

theorem IsFirst.text_of_keyword (first : IsFirst mode word rest lexeme)
    (keyword : lexeme.IsKeyword) :
    lexeme.text = word ∧ lexeme.closed = true := by
  cases first with
  | connective => exact ⟨rfl, rfl⟩
  | equals => exact ⟨rfl, rfl⟩
  | colon => exact ⟨rfl, rfl⟩
  | value _ _ first =>
      cases first with
      | boolean => exact ⟨rfl, rfl⟩
      | _ => simp [IsKeyword] at keyword
  | _ => simp [IsKeyword] at keyword

theorem isOperatorWord_recase (same : SameLetters word word') :
    Value.isOperatorWord word = Value.isOperatorWord word' := by
  rw [Bool.eq_iff_iff, isOperatorWord_iff, isOperatorWord_iff, same.spells, same.spells]

theorem IsNegatable.recase (negatable : IsNegatable word) (same : SameLetters word word') :
    IsNegatable word' := by
  cases negatable with
  | plain isWord =>
      apply IsNegatable.plain
      rwa [← isOperatorWord_recase same]
  | @negated negation gap letters spelled nonempty blank isWord =>
      obtain ⟨negation', behind, rfl, sameNegation, sameBehind⟩ := same.append_cases
      obtain ⟨gap', letters', rfl, sameGap, sameLetters⟩ := sameBehind.append_cases
      have plain : ∀ character ∈ gap, character.isAlpha = false := by
        intro character member
        rw [Bool.eq_false_iff]
        intro letter
        have space := blank character member
        simp [isSpace_of_isAlpha letter] at space
      obtain rfl := sameGap.eq_of_plain plain
      apply IsNegatable.negated _ nonempty blank
      · rwa [← isOperatorWord_recase sameLetters]
      · rwa [← sameNegation.spells]

theorem IsSign.plain (isSign : IsSign word rest) :
    ∀ character ∈ word, character.isAlpha = false := by
  cases isSign with
  | long known =>
      simp only [List.mem_cons, List.not_mem_nil, or_false] at known
      rcases known with rfl | rfl | rfl <;> simp
  | short known _ =>
      simp only [List.mem_cons, List.not_mem_nil, or_false] at known
      rcases known with rfl | rfl <;> simp

theorem FollowsColon.recase (follows : FollowsColon word rest) (same : SameLetters word word') :
    FollowsColon word' rest := by
  cases follows with
  | word negatable ends => exact .word (negatable.recase same) ends
  | sign isSign =>
      rw [same.eq_of_plain isSign.plain]
      exact .sign isSign
  | nothing noWord noSign =>
      rw [same.nil_cases]
      exact .nothing noWord noSign

theorem IsFirst.recase (first : IsFirst mode word rest lexeme) (keyword : lexeme.IsKeyword)
    (same : SameLetters word word') : IsFirst mode word' rest { lexeme with text := word' } := by
  have size := same.length
  cases first with
  | connective isField spelled ends =>
      rw [size]
      exact .connective isField (same.spells _ ▸ spelled) ends
  | equals =>
      rw [same.eq_of_plain (by simp)]
      exact .equals
  | @colon drawn _ follows =>
      obtain ⟨_, drawn', rfl, sameColon, sameDrawn⟩ := same.cons_cases
      rcases eq_or_isAlpha_of_toUpper sameColon with rfl | ⟨letter, _⟩
      · rw [sameDrawn.length]
        exact .colon (follows.recase sameDrawn)
      · simp at letter
  | value unequal unnamed first =>
      cases first with
      | boolean spelled ends =>
          rw [same.spells, same.spells] at spelled
          rw [size]
          apply IsFirst.value
          · intro unequal
            obtain ⟨later, rfl⟩ := List.head?_eq_some_iff.mp unequal
            have letter := isAlpha_of_isTruth spelled '=' List.mem_cons_self
            simp at letter
          · intro isField
            rw [← same.endsAt, unnamed isField]
            intro character character' letter letter'
            simp [isFieldStart, letter, letter']
          · exact .boolean spelled ends
      | _ => simp [IsKeyword] at keyword
  | _ => simp [IsKeyword] at keyword

theorem nextMode_recase (same : SameLetters lexeme.text word') :
    nextMode mode { lexeme with text := word' } = nextMode mode lexeme := by
  have symbol : Operator.ofSymbol? (String.ofList word') =
      Operator.ofSymbol? (String.ofList lexeme.text) := by
    apply Operator.ofSymbol?_of_sameLetters
    simpa using same.symm
  simp only [nextMode, symbol]

end Keywords

end Lexeme

end FilterBox
