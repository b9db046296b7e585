import FilterBox.Proofs.Text.Boundary
import FilterBox.Text.Offset

/-!
Texts that differ in the case of their letters.

`SameLetters text text'` says that the texts are the same but for the case of ASCII letters. Such
texts take as many bytes, have their blanks at the same places and spell the same words.
-/

namespace FilterBox.Text

theorem toUpper_eq_self {character : Char} (plain : character.isAlpha = false) :
    character.toUpper = character := by
  unfold Char.toUpper
  split
  next lower => simp [isAlpha_iff.mpr (.inr (isLower_iff.mpr lower))] at plain
  next => rfl

theorem isUpper_toUpper_iff {character : Char} :
    character.toUpper.isUpper = true ↔ character.isAlpha = true := by
  refine ⟨isAlpha_of_isUpper_toUpper, fun letter => ?_⟩
  unfold Char.toUpper
  split
  next lower =>
    obtain ⟨above, below⟩ : 97 ≤ character.val.toNat ∧ character.val.toNat ≤ 122 := lower
    have distance : ('A'.val - 'a'.val).toNat = 4294967264 := rfl
    rw [isUpper_iff, ← Char.toNat_val, UInt32.toNat_add, distance]
    omega
  next other =>
    exact (isAlpha_iff.mp letter).resolve_right fun lower => other (isLower_iff.mp lower)

theorem eq_or_isAlpha_of_toUpper {character other : Char}
    (same : character.toUpper = other.toUpper) :
    character = other ∨ character.isAlpha = true ∧ other.isAlpha = true := by
  have alike : character.isAlpha = other.isAlpha := by
    rw [Bool.eq_iff_iff, ← isUpper_toUpper_iff, same, isUpper_toUpper_iff]
  cases letter : character.isAlpha with
  | true => exact .inr ⟨rfl, alike.symm.trans letter⟩
  | false =>
      rw [toUpper_eq_self letter, toUpper_eq_self (alike.symm.trans letter)] at same
      exact .inl same

theorem utf8Size_of_isAlpha {character : Char} (letter : character.isAlpha = true) :
    character.utf8Size = 1 := by
  rw [isAlpha_iff, isUpper_iff, isLower_iff] at letter
  rw [Char.utf8Size_eq_one_iff, UInt32.le_iff_toNat_le]
  change character.toNat ≤ 127
  omega

/-- Whether the texts are the same but for the case of their letters. -/
def SameLetters (text text' : List Char) : Prop :=
  text.map Char.toUpper = text'.map Char.toUpper

instance (text text' : List Char) : Decidable (SameLetters text text') :=
  inferInstanceAs (Decidable (text.map Char.toUpper = text'.map Char.toUpper))

namespace SameLetters

variable {text text' : List Char}

theorem refl (text : List Char) : SameLetters text text := rfl

theorem symm (same : SameLetters text text') : SameLetters text' text :=
  Eq.symm same

theorem nil_cases (same : SameLetters [] text') : text' = [] := by
  simpa [SameLetters, eq_comm] using same

theorem cons_cases {character : Char} {rest : List Char}
    (same : SameLetters (character :: rest) text') :
    ∃ character' rest', text' = character' :: rest' ∧ character.toUpper = character'.toUpper ∧
      SameLetters rest rest' := by
  cases text' with
  | nil => simp [SameLetters] at same
  | cons character' rest' =>
      rw [SameLetters, List.map_cons, List.map_cons] at same
      obtain ⟨first, later⟩ := List.cons.inj same
      exact ⟨character', rest', rfl, first, later⟩

theorem append {rest rest' : List Char} (first : SameLetters text text')
    (second : SameLetters rest rest') : SameLetters (text ++ rest) (text' ++ rest') := by
  unfold SameLetters at first second ⊢
  rw [List.map_append, List.map_append, first, second]

theorem length (same : SameLetters text text') : text.length = text'.length := by
  simpa using congrArg List.length same

theorem eq_of_plain (same : SameLetters text text')
    (plain : ∀ character ∈ text, character.isAlpha = false) : text' = text := by
  induction text generalizing text' with
  | nil => exact same.nil_cases
  | cons character rest inductionHypothesis =>
      rw [List.forall_mem_cons] at plain
      obtain ⟨character', rest', rfl, first, later⟩ := same.cons_cases
      rcases eq_or_isAlpha_of_toUpper first with rfl | ⟨letter, _⟩
      · rw [inductionHypothesis later plain.2]
      · simp [plain.1] at letter

theorem append_cases {front back : List Char} (same : SameLetters (front ++ back) text') :
    ∃ front' back', text' = front' ++ back' ∧ SameLetters front front' ∧
    SameLetters back back' := by
  unfold SameLetters at same ⊢
  rw [List.map_append, eq_comm, List.map_eq_append_iff] at same
  obtain ⟨front', back', rfl, first, second⟩ := same
  exact ⟨front', back', rfl, first.symm, second.symm⟩

theorem take (same : SameLetters text text') (size : Nat) :
    SameLetters (text.take size) (text'.take size) := by
  unfold SameLetters at same ⊢
  rw [List.map_take, List.map_take, same]

theorem drop (same : SameLetters text text') (size : Nat) :
    SameLetters (text.drop size) (text'.drop size) := by
  unfold SameLetters at same ⊢
  rw [List.map_drop, List.map_drop, same]

theorem byteLength (same : SameLetters text text') : byteLength text = byteLength text' := by
  induction text generalizing text' with
  | nil => rw [same.nil_cases]
  | cons character rest inductionHypothesis =>
      obtain ⟨character', rest', rfl, first, later⟩ := same.cons_cases
      rw [byteLength_cons, byteLength_cons, inductionHypothesis later]
      rcases eq_or_isAlpha_of_toUpper first with rfl | ⟨letter, letter'⟩
      · rfl
      · rw [utf8Size_of_isAlpha letter, utf8Size_of_isAlpha letter']

theorem spells (same : SameLetters text text') (word : String) :
    spells word text = Text.spells word text' := by
  unfold SameLetters at same
  rw [Text.spells, Text.spells, same]

/-- A class of characters that does not tell letters apart ends both texts at the same place. -/
theorem endsAt (same : SameLetters text text') {boundary : Char → Bool}
    (blind : ∀ character character' : Char, character.isAlpha = true → character'.isAlpha = true →
      boundary character = boundary character') :
    endsAt boundary text = Text.endsAt boundary text' := by
  cases text with
  | nil => rw [same.nil_cases]
  | cons character rest =>
      obtain ⟨character', rest', rfl, first, _⟩ := same.cons_cases
      rw [endsAt_cons, endsAt_cons]
      rcases eq_or_isAlpha_of_toUpper first with rfl | ⟨letter, letter'⟩
      · rfl
      · exact blind _ _ letter letter'

theorem length_takeWhile (same : SameLetters text text') :
    (text.takeWhile isSpace).length = (text'.takeWhile isSpace).length := by
  induction text generalizing text' with
  | nil => rw [same.nil_cases]
  | cons character rest inductionHypothesis =>
      obtain ⟨character', rest', rfl, first, later⟩ := same.cons_cases
      have alike : isSpace character = isSpace character' := by
        rcases eq_or_isAlpha_of_toUpper first with rfl | ⟨letter, letter'⟩
        · rfl
        · rw [isSpace_of_isAlpha letter, isSpace_of_isAlpha letter']
      cases space : isSpace character' with
      | true =>
          rw [List.takeWhile_cons_of_pos (alike.trans space), List.takeWhile_cons_of_pos space,
            List.length_cons, List.length_cons, inductionHypothesis later]
      | false =>
          rw [List.takeWhile_cons_of_neg (by simp [alike, space]),
            List.takeWhile_cons_of_neg (by simp [space])]

theorem isPrefix (same : SameLetters text text') {sign : List Char}
    (plain : ∀ character ∈ sign, character.isAlpha = false) (begins : sign <+: text') :
    sign <+: text := by
  induction sign generalizing text text' with
  | nil => exact List.nil_prefix
  | cons first later inductionHypothesis =>
      rw [List.forall_mem_cons] at plain
      cases text with
      | nil => rwa [same.nil_cases] at begins
      | cons character rest =>
          obtain ⟨character', rest', rfl, alike, behind⟩ := same.cons_cases
          obtain ⟨rfl, beginsLater⟩ := List.cons_prefix_cons.mp begins
          rcases eq_or_isAlpha_of_toUpper alike with rfl | ⟨_, letter⟩
          · exact List.cons_prefix_cons.mpr ⟨rfl, inductionHypothesis behind plain.2 beginsLater⟩
          · simp [letter] at plain

end SameLetters

theorem isSpace_toUpper (character : Char) : isSpace character.toUpper = isSpace character := by
  cases letter : character.isAlpha with
  | true =>
      rw [isSpace_of_isAlpha letter,
        isSpace_of_isAlpha (isAlpha_iff.mpr (.inl (isUpper_toUpper_iff.mpr letter)))]
  | false => rw [toUpper_eq_self letter]

theorem splitOnP_map_toUpper (text : List Char) :
    (text.map Char.toUpper).splitOnP isSpace =
      (text.splitOnP isSpace).map (List.map Char.toUpper) := by
  induction text with
  | nil => rfl
  | cons character rest inductionHypothesis =>
      rw [List.map_cons, List.splitOnP_cons_eq_if_modifyHead, List.splitOnP_cons_eq_if_modifyHead,
        isSpace_toUpper, inductionHypothesis]
      cases isSpace character with
      | true => simp
      | false => cases rest.splitOnP isSpace <;> simp

theorem words_map_toUpper (text : List Char) :
    words (text.map Char.toUpper) = (words text).map (List.map Char.toUpper) := by
  rw [words, words, splitOnP_map_toUpper, List.filter_map]
  congr 1
  apply List.filter_congr
  intro word _
  cases word <;> rfl

end FilterBox.Text
