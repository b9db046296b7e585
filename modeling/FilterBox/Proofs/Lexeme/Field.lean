import FilterBox.Proofs.Lexeme.Value
import FilterBox.Query.Unfinished

/-!
Field names, and what is none.

A name is taken whole before a character that belongs to no name. The recognisers that come before
it in `first?` do not take it, except that a name which spells a connective before a blank is one.
-/

namespace FilterBox.Lexeme

open Text

theorem field?_append {word rest : List Char} (named : Unfinished.isFieldName word = true)
    (ends : endsAt (fun character => !isFieldCharacter character) rest = true) :
    field? (word ++ rest) = some ⟨.field, none, word.length, word, true⟩ := by
  simp only [Unfinished.isFieldName, Bool.and_eq_true, List.all_eq_true] at named
  obtain ⟨starts, characters⟩ := named
  have taken : (word ++ rest).takeWhile isFieldCharacter = word :=
    takeWhile_append_of_endsAt characters ends (by simp)
  have begins : (word ++ rest).head?.any isFieldStart = true := by
    cases word with
    | nil => simp at starts
    | cons first later => exact starts
  rw [field?, if_pos begins, taken, verbatim_append]

theorem isFieldCharacter_of_isFieldStart {character : Char}
    (starts : isFieldStart character = true) : isFieldCharacter character = true := by
  simp only [isFieldStart, isFieldCharacter, Char.isAlphanum, Bool.or_eq_true] at starts ⊢
  rcases starts with letter | underscore
  · exact .inl (.inl (.inl letter))
  · exact .inl (.inr underscore)

theorem field?_eq_some_iff {text : List Char} {lexeme : Lexeme} :
    field? text = some lexeme ↔
      ∃ word rest, text = word ++ rest ∧ Unfinished.isFieldName word = true ∧
        endsAt (fun character => !isFieldCharacter character) rest = true ∧
        lexeme = ⟨.field, none, word.length, word, true⟩ := by
  constructor
  · intro found
    have starts : text.head?.any isFieldStart = true := by
      unfold field? at found
      split at found
      next starts => exact starts
      next => simp at found
    have parts : text.takeWhile isFieldCharacter ++ text.dropWhile isFieldCharacter = text :=
      List.takeWhile_append_dropWhile
    have named : Unfinished.isFieldName (text.takeWhile isFieldCharacter) = true := by
      rw [Unfinished.isFieldName, List.all_takeWhile, Bool.and_true]
      cases text with
      | nil => simp at starts
      | cons first rest =>
          have start : isFieldStart first = true := by simpa using starts
          rw [List.takeWhile_cons_of_pos (isFieldCharacter_of_isFieldStart start)]
          exact starts
    have ends := endsAt_dropWhile isFieldCharacter text
    refine ⟨_, _, parts.symm, named, ends, ?_⟩
    rw [← parts, field?_append named ends] at found
    exact (Option.some.inj found).symm
  · rintro ⟨word, rest, rfl, named, ends, rfl⟩
    exact field?_append named ends

theorem sign?_eq_none {character : Char} {rest : List Char} (other : character ∉ ['(', ')', ',']) :
    sign? (character :: rest) = none := by
  simp only [List.mem_cons, List.not_mem_nil, or_false, not_or] at other
  simp_all [sign?]

theorem operator?_eq_none {character : Char} {rest : List Char} (other : character ∉ [':', '=']) :
    operator? (character :: rest) = none := by
  simp only [List.mem_cons, List.not_mem_nil, or_false, not_or] at other
  simp_all [operator?, operatorSize?]

theorem field?_eq_none_iff {character : Char} {rest : List Char} :
    field? (character :: rest) = none ↔ isFieldStart character = false := by
  rw [field?, List.head?_cons, Option.any_some]
  cases isFieldStart character <;> simp

theorem noSign_of_isFieldStart {character : Char} (rest : List Char)
    (starts : isFieldStart character = true) :
    sign? (character :: rest) = none ∧ operator? (character :: rest) = none := by
  constructor
  · apply sign?_eq_none
    intro structural
    simp only [List.mem_cons, List.not_mem_nil, or_false] at structural
    rcases structural with rfl | rfl | rfl <;> simp [isFieldStart] at starts
  · apply operator?_eq_none
    intro structural
    simp only [List.mem_cons, List.not_mem_nil, or_false] at structural
    rcases structural with rfl | rfl <;> simp [isFieldStart] at starts

theorem isAlpha_of_isFieldStart {character : Char} (other : isFieldStart character = false) :
    character.isAlpha = false := by
  simp only [isFieldStart, Bool.or_eq_false_iff] at other
  exact other.1

theorem noConnective_of_head {character : Char} {rest : List Char}
    (other : character.isAlpha = false) : connective? (character :: rest) = none := by
  have noWord : ∀ connective : Connective,
      wordSize? connective.keyword isSpace (character :: rest) = none := fun connective =>
    wordSize?_eq_none_of_head (by cases connective <;> decide)
      (by cases connective <;> decide) other
  simp [connective?, connectiveSize?, List.findSome?_eq_none_iff, noWord]

theorem head_of_isFieldName {word : List Char} (named : Unfinished.isFieldName word = true) :
    ∃ first later, word = first :: later ∧ isFieldStart first = true := by
  cases word with
  | nil => simp [Unfinished.isFieldName] at named
  | cons first later =>
      simp only [Unfinished.isFieldName, Bool.and_eq_true] at named
      exact ⟨first, later, rfl, named.1⟩

theorem noConnective_of_isFieldName {word rest : List Char}
    (named : Unfinished.isFieldName word = true)
    (ends : endsAt (fun character => !isFieldCharacter character) rest = true)
    (other : ∀ connective : Connective,
      spells connective.keyword word = true → endsAt isSpace rest = false) :
    connective? (word ++ rest) = none := by
  simp only [Unfinished.isFieldName, Bool.and_eq_true, List.all_eq_true] at named
  have wall : endsAt (fun character => !character.isAlpha) rest = true := by
    apply endsAt_of_imp ends
    intro character outside
    simp only [isFieldCharacter, Char.isAlphanum, Bool.not_or, Bool.and_eq_true] at outside
    exact outside.1.1.1
  have noWord : ∀ connective : Connective,
      wordSize? connective.keyword isSpace (word ++ rest) = none := by
    intro connective
    rw [Option.eq_none_iff_forall_ne_some]
    intro size found
    rcases wordSize?_cases (by cases connective <;> decide) wall found with
      ⟨spelled, space⟩ | ⟨letters, character, later, rfl, _, space⟩
    · simp [other connective spelled] at space
    · have visible := isSpace_of_endsValue (endsValue_of_isFieldCharacter
        (named.2 character (by simp)))
      simp [visible] at space
  simp [connective?, connectiveSize?, List.findSome?_eq_none_iff, noWord]

end FilterBox.Lexeme
