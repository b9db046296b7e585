import FilterBox.Lexeme

/-!
Words and the boundaries behind them.

A recogniser that stops only in front of a boundary takes a word without boundaries whole, whatever
follows the boundary.
-/

namespace FilterBox

namespace Text

theorem isUpper_iff {character : Char} :
    character.isUpper = true ↔ 65 ≤ character.toNat ∧ character.toNat ≤ 90 :=
  decide_eq_true_iff

theorem isLower_iff {character : Char} :
    character.isLower = true ↔ 97 ≤ character.toNat ∧ character.toNat ≤ 122 :=
  Bool.and_eq_true_iff.trans (and_congr decide_eq_true_iff decide_eq_true_iff)

theorem isDigit_iff {character : Char} :
    character.isDigit = true ↔ 48 ≤ character.toNat ∧ character.toNat ≤ 57 :=
  Bool.and_eq_true_iff.trans (and_congr decide_eq_true_iff decide_eq_true_iff)

theorem isAlpha_iff {character : Char} :
    character.isAlpha = true ↔ character.isUpper = true ∨ character.isLower = true :=
  Bool.or_eq_true_iff

theorem isAlphanum_iff {character : Char} :
    character.isAlphanum = true ↔ character.isAlpha = true ∨ character.isDigit = true :=
  Bool.or_eq_true_iff

theorem isAlpha_of_isUpper_toUpper {character : Char} (upper : character.toUpper.isUpper = true) :
    character.isAlpha = true := by
  rw [isAlpha_iff]
  unfold Char.toUpper at upper
  split at upper
  next lower => exact .inr (isLower_iff.mpr lower)
  next => exact .inl upper

theorem isSpace_of_isAlphanum {character : Char} (visible : character.isAlphanum = true) :
    isSpace character = false := by
  rw [isAlphanum_iff, isAlpha_iff, isUpper_iff, isLower_iff, isDigit_iff] at visible
  simp only [isSpace, Bool.or_eq_false_iff, Bool.and_eq_false_iff, decide_eq_false_iff_not]
  omega

theorem isSpace_of_isAlpha {character : Char} (letter : character.isAlpha = true) :
    isSpace character = false :=
  isSpace_of_isAlphanum (by simp [Char.isAlphanum, letter])

theorem isDigit_of_isAlpha {character : Char} (letter : character.isAlpha = true) :
    character.isDigit = false := by
  rw [isAlpha_iff, isUpper_iff, isLower_iff] at letter
  rw [Bool.eq_false_iff, Ne, isDigit_iff]
  omega

theorem isControl_of_le {character : Char} (low : 0x20 ≤ character.toNat)
    (high : character.toNat < 0x7F) : isControl character = false := by
  simp only [isControl, Bool.or_eq_false_iff, Bool.and_eq_false_iff, decide_eq_false_iff_not]
  omega

theorem isControl_of_isAlphanum {character : Char} (visible : character.isAlphanum = true) :
    isControl character = false := by
  rw [isAlphanum_iff, isAlpha_iff, isUpper_iff, isLower_iff, isDigit_iff] at visible
  exact isControl_of_le (by omega) (by omega)

theorem isControl_of_isAlpha {character : Char} (letter : character.isAlpha = true) :
    isControl character = false :=
  isControl_of_isAlphanum (by simp [Char.isAlphanum, letter])

theorem isControl_of_isDigit {character : Char} (digit : character.isDigit = true) :
    isControl character = false :=
  isControl_of_isAlphanum (by simp [Char.isAlphanum, digit])

theorem head?_of_prefix {text rest : List Char} (begins : text <+: rest) (nonempty : text ≠ []) :
    text.head? = rest.head? := by
  obtain ⟨more, rfl⟩ := begins
  obtain ⟨first, later, rfl⟩ := List.exists_cons_of_ne_nil nonempty
  rfl

theorem prefix_of_not_mem {word rest more : List Char} {wall : Char}
    (begins : word <+: rest ++ wall :: more) (absent : wall ∉ word) : word <+: rest := by
  rcases List.prefix_or_prefix_of_prefix begins (List.prefix_append rest (wall :: more)) with
    shorter | ⟨beyond, rfl⟩
  · exact shorter
  · rw [List.prefix_append_right_inj] at begins
    cases beyond with
    | nil => simp
    | cons first later =>
        have same : first = wall := (List.cons_prefix_cons.mp begins).1
        exact absurd (by simp [same]) absent

theorem endsAt_congr {rest rest' : List Char} (same : rest'.head? = rest.head?)
    (boundary : Char → Bool) : endsAt boundary rest' = endsAt boundary rest := by
  cases rest <;> cases rest' <;> simp_all

theorem endsAt_of_imp {boundary wider : Char → Bool} {rest : List Char}
    (ends : endsAt boundary rest = true)
    (implies : ∀ character, boundary character = true → wider character = true) :
    endsAt wider rest = true := by
  cases rest with
  | nil => rfl
  | cons character rest => exact implies character ends

theorem endsAt_dropWhile (passes : Char → Bool) (text : List Char) :
    endsAt (fun character => !passes character) (text.dropWhile passes) = true := by
  induction text with
  | nil => rfl
  | cons character rest inductionHypothesis =>
      by_cases passing : passes character = true
      · rw [List.dropWhile_cons_of_pos passing]
        exact inductionHypothesis
      · rw [List.dropWhile_cons_of_neg passing]
        simpa using passing

theorem takeWhile_eq_nil_of_endsAt {boundary passes : Char → Bool} {rest : List Char}
    (ends : endsAt boundary rest = true)
    (outside : ∀ character, boundary character = true → passes character = false) :
    rest.takeWhile passes = [] := by
  cases rest with
  | nil => rfl
  | cons character rest => simp [outside character ends]

theorem takeWhile_append_of_endsAt {boundary passes : Char → Bool} {word rest : List Char}
    (inside : ∀ character ∈ word, passes character = true) (ends : endsAt boundary rest = true)
    (outside : ∀ character, boundary character = true → passes character = false) :
    (word ++ rest).takeWhile passes = word := by
  rw [List.takeWhile_append_of_pos inside, takeWhile_eq_nil_of_endsAt ends outside, List.append_nil]

theorem eq_length_of_endsAt {boundary : Char → Bool} {word rest : List Char} {size : Nat}
    (inside : ∀ character ∈ word, boundary character = false) (ends : endsAt boundary rest = true)
    (taken : ∀ character ∈ (word ++ rest).take size, boundary character = false)
    (fits : size ≤ (word ++ rest).length)
    (stops : endsAt boundary ((word ++ rest).drop size) = true) : size = word.length := by
  -- Less than the word stops inside it, and more than the word takes the boundary along.
  rcases Nat.lt_trichotomy size word.length with shorter | same | longer
  · rw [List.drop_append_of_le_length (Nat.le_of_lt shorter),
      List.drop_eq_getElem_cons shorter, List.cons_append, endsAt_cons] at stops
    simp [inside] at stops
  · exact same
  · cases rest with
    | nil => simp only [List.append_nil] at fits; omega
    | cons character rest =>
        have member : character ∈ (word ++ character :: rest).take size := by
          rw [List.take_append, List.mem_append]
          right
          rw [List.take_cons (by omega)]
          exact List.mem_cons_self
        simp only [endsAt_cons] at ends
        simp [taken character member] at ends

/-- A run of one class of characters ends in front of the first character of another class. -/
theorem exists_middle {passes : Char → Bool} {run rest front behind : List Char}
    (inside : ∀ character ∈ run, passes character = true)
    (ends : endsAt (fun character => !passes character) behind = true)
    (same : run ++ rest = front ++ behind) :
    ∃ middle, front = run ++ middle ∧ rest = middle ++ behind := by
  rcases List.append_eq_append_iff.mp same with ⟨middle, rfl, rfl⟩ | ⟨excess, rfl, rfl⟩
  · exact ⟨middle, rfl, rfl⟩
  · cases excess with
    | nil => exact ⟨[], by simp, rfl⟩
    | cons character excess =>
        have passing := inside character (by simp)
        simp [passing] at ends

/-- The words of the language are written in capitals. -/
def isCapital (word : String) : Bool :=
  word.toList.all Char.isUpper

theorem isAlpha_of_spells {word : String} {text : List Char}
    (capitals : isCapital word = true)
    (spelled : spells word text = true) : ∀ character ∈ text, character.isAlpha = true := by
  intro character member
  apply isAlpha_of_isUpper_toUpper
  rw [isCapital, List.all_eq_true] at capitals
  apply capitals
  rw [← eq_of_beq spelled]
  exact List.mem_map_of_mem member

theorem length_of_spells {word : String} {text : List Char} (spelled : spells word text = true) :
    text.length = word.length := by
  have sameLength := congrArg List.length (eq_of_beq spelled)
  simpa only [List.length_map, String.length_toList] using sameLength

end Text

namespace Lexeme

open Text

theorem endsValue_of_isAlphanum {character : Char} (visible : character.isAlphanum = true) :
    endsValue character = false := by
  have inked := isSpace_of_isAlphanum visible
  simp only [endsValue, inked, Bool.false_or, Bool.or_eq_false_iff, decide_eq_false_iff_not]
  refine ⟨⟨⟨?_, ?_⟩, ?_⟩, ?_⟩ <;> rintro rfl <;> simp at visible

theorem endsValue_of_isAlpha {character : Char} (letter : character.isAlpha = true) :
    endsValue character = false :=
  endsValue_of_isAlphanum (by simp [Char.isAlphanum, letter])

theorem endsValue_of_isDigit {character : Char} (digit : character.isDigit = true) :
    endsValue character = false :=
  endsValue_of_isAlphanum (by simp [Char.isAlphanum, digit])

theorem isSpace_of_endsValue {character : Char} (inside : endsValue character = false) :
    isSpace character = false := by
  simp only [endsValue, Bool.or_eq_false_iff] at inside
  exact inside.1.1.1.1

theorem isFieldCharacter_of_isAlpha {character : Char} (letter : character.isAlpha = true) :
    isFieldCharacter character = true := by
  simp [isFieldCharacter, Char.isAlphanum, letter]

theorem endsValue_of_isFieldCharacter {character : Char}
    (named : isFieldCharacter character = true) : endsValue character = false := by
  simp only [isFieldCharacter, Bool.or_eq_true, decide_eq_true_eq] at named
  rcases named with (visible | rfl) | rfl
  · exact endsValue_of_isAlphanum visible
  · decide
  · decide

theorem isDigit_of_endsValue {character : Char} (ends : endsValue character = true) :
    character.isDigit = false := by
  cases digit : character.isDigit with
  | false => rfl
  | true => simp [endsValue_of_isDigit digit] at ends

end Lexeme

end FilterBox
