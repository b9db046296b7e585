import FilterBox.Proofs.Text.Boundary

/-!
Finding the words of the language.

A word in capitals is found where it is spelled, in any case, before a boundary.
-/

namespace FilterBox.Lexeme

open Text

theorem wordSize?_eq_some_iff {word : String} {boundary : Char → Bool} {text : List Char}
    {size : Nat} :
    wordSize? word boundary text = some size ↔
      size = word.length ∧ spells word (text.take size) = true ∧
        endsAt boundary (text.drop size) = true := by
  constructor
  · intro found
    simp only [wordSize?, Option.ite_none_right_eq_some, Bool.and_eq_true,
      Option.some.injEq] at found
    obtain ⟨⟨spelled, ends⟩, rfl⟩ := found
    exact ⟨rfl, spelled, ends⟩
  · rintro ⟨rfl, spelled, ends⟩
    simp [wordSize?, spelled, ends]

theorem size_le_of_spells_take {word : String} {text : List Char} {size : Nat}
    (same : size = word.length) (spelled : spells word (text.take size) = true) :
    size ≤ text.length := by
  have length := length_of_spells spelled
  rw [List.length_take] at length
  omega

theorem exists_cons_of_spells {word : String} {text letters : List Char} (letter : Char)
    (begins : word.toList = letter :: letters)
    (spelled : spells word text = true) :
    ∃ first later, text = first :: later ∧ first.toUpper = letter := by
  have capital := eq_of_beq spelled
  cases text with
  | nil => simp [begins] at capital
  | cons first later =>
      rw [List.map_cons, begins] at capital
      exact ⟨first, later, rfl, (List.cons.inj capital).1⟩

theorem wordSize?_append {word : String} {boundary : Char → Bool} {text rest : List Char}
    (spelled : spells word text = true) (ends : endsAt boundary rest = true) :
    wordSize? word boundary (text ++ rest) = some text.length := by
  rw [wordSize?_eq_some_iff]
  exact ⟨length_of_spells spelled, by simpa using spelled, by simpa using ends⟩

theorem wordSize?_eq_none_of_toUpper {word : String} {boundary : Char → Bool}
    {character : Char} {letters rest : List Char} (letter : Char)
    (begins : word.toList = letter :: letters) (other : character.toUpper ≠ letter) :
    wordSize? word boundary (character :: rest) = none := by
  rw [Option.eq_none_iff_forall_ne_some]
  intro size found
  obtain ⟨rfl, spelled, _⟩ := wordSize?_eq_some_iff.mp found
  have capital := eq_of_beq spelled
  have size : word.length = letters.length + 1 := by
    rw [← String.length_toList, begins, List.length_cons]
  rw [size, List.take_succ_cons, List.map_cons, begins] at capital
  exact other (List.cons.inj capital).1

theorem wordSize?_within {word : String} {boundary : Char → Bool} {text rest : List Char}
    {size : Nat} (capitals : isCapital word = true)
    (wall : endsAt (fun character => !character.isAlpha) rest = true)
    (found : wordSize? word boundary (text ++ rest) = some size) :
    size ≤ text.length ∧ spells word (text.take size) = true ∧
      endsAt boundary (text.drop size ++ rest) = true := by
  obtain ⟨rfl, spelled, stops⟩ := wordSize?_eq_some_iff.mp found
  have fits : word.length ≤ text.length := by
    -- A longer word would take the first character of the rest for a letter.
    apply Nat.le_of_not_lt
    intro longer
    have size := length_of_spells spelled
    cases rest with
    | nil =>
        rw [List.append_nil, List.length_take] at size
        omega
    | cons character rest =>
        have member : character ∈ (text ++ character :: rest).take word.length := by
          rw [List.take_append, List.mem_append]
          right
          rw [List.take_cons (by omega)]
          exact List.mem_cons_self
        have letter := isAlpha_of_spells capitals spelled character member
        simp [letter] at wall
  rw [List.take_append_of_le_length fits] at spelled
  rw [List.drop_append_of_le_length fits] at stops
  exact ⟨fits, spelled, stops⟩

theorem wordSize?_cases {word : String} {boundary : Char → Bool} {text rest : List Char}
    {size : Nat} (capitals : isCapital word = true)
    (wall : endsAt (fun character => !character.isAlpha) rest = true)
    (found : wordSize? word boundary (text ++ rest) = some size) :
    (spells word text = true ∧ endsAt boundary rest = true) ∨
      ∃ letters character later, text = letters ++ character :: later ∧
        spells word letters = true ∧ boundary character = true := by
  obtain ⟨fits, spelled, stops⟩ := wordSize?_within capitals wall found
  cases behind : text.drop size with
  | nil =>
      rw [List.take_of_length_le (List.drop_eq_nil_iff.mp behind)] at spelled
      rw [behind] at stops
      exact .inl ⟨spelled, stops⟩
  | cons character later =>
      rw [behind] at stops
      exact .inr ⟨text.take size, character, later,
        by rw [← behind, List.take_append_drop], spelled, stops⟩

/-- A word in capitals that is found before a boundary is spelled by the whole stretch up to it. -/
theorem spells_of_wordSize? {word : String} {boundary : Char → Bool} {text rest : List Char}
    {size : Nat} (capitals : isCapital word = true)
    (letters : ∀ character, character.isAlpha = true → boundary character = false)
    (inside : ∀ character ∈ text, boundary character = false)
    (ends : endsAt boundary rest = true)
    (found : wordSize? word boundary (text ++ rest) = some size) :
    spells word text = true := by
  have wall : endsAt (fun character => !character.isAlpha) rest = true := by
    apply endsAt_of_imp ends
    intro character stops
    cases letter : character.isAlpha with
    | false => rfl
    | true => simp [letters character letter] at stops
  rcases wordSize?_cases capitals wall found with
    ⟨spelled, _⟩ | ⟨_, character, _, rfl, _, stops⟩
  · exact spelled
  · simp [inside character (by simp)] at stops

theorem wordSize?_eq_none_of_head {word : String} {boundary : Char → Bool} {character : Char}
    {rest : List Char} (capitals : isCapital word = true)
    (nonempty : word.toList ≠ []) (other : character.isAlpha = false) :
    wordSize? word boundary (character :: rest) = none := by
  rw [Option.eq_none_iff_forall_ne_some]
  intro size found
  obtain ⟨rfl, spelled, _⟩ := wordSize?_eq_some_iff.mp found
  have positive : 0 < word.length := by
    rw [← String.length_toList]
    exact List.length_pos_iff.mpr nonempty
  have isAlpha := isAlpha_of_spells capitals spelled character
    (by rw [List.take_cons positive]; exact List.mem_cons_self)
  simp [other] at isAlpha

end FilterBox.Lexeme
