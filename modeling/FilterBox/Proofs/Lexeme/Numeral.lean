import FilterBox.Proofs.Text.Boundary

/-!
The texts that are read as numerals.
-/

namespace FilterBox.Lexeme

open Text

/-- The texts of the form `d+` or `d+.d+`. -/
inductive IsUnsigned : List Char → Prop where
  | whole {digits : List Char} :
      digits ≠ [] →
      (∀ digit ∈ digits, digit.isDigit = true) →
      IsUnsigned digits
  | fraction {digits places : List Char} :
      digits ≠ [] →
      (∀ digit ∈ digits, digit.isDigit = true) →
      places ≠ [] →
      (∀ digit ∈ places, digit.isDigit = true) →
      IsUnsigned (digits ++ '.' :: places)

/-- The texts of the form `-?d+(.d+)?`. -/
inductive IsNumeral : List Char → Prop where
  | positive {text : List Char} :
      IsUnsigned text →
      IsNumeral text
  | negative {text : List Char} :
      IsUnsigned text →
      IsNumeral ('-' :: text)

/-- The size of a numeral without a sign at the front of a text. -/
def unsignedSize? (text : List Char) : Option Nat :=
  let whole := (text.takeWhile Char.isDigit).length
  if whole = 0 then
    none
  else
    match text.drop whole with
    | '.' :: rest =>
        let fraction := (rest.takeWhile Char.isDigit).length
        some (whole + if fraction = 0 then 0 else 1 + fraction)
    | _ => some whole

theorem IsUnsigned.head {text : List Char} (unsigned : IsUnsigned text) :
    ∃ digit rest, text = digit :: rest ∧ digit.isDigit = true := by
  cases unsigned with
  | whole nonempty digits =>
      obtain ⟨digit, rest, rfl⟩ := List.exists_cons_of_ne_nil nonempty
      exact ⟨digit, rest, rfl, digits digit (by simp)⟩
  | fraction nonempty digits =>
      obtain ⟨digit, rest, rfl⟩ := List.exists_cons_of_ne_nil nonempty
      exact ⟨digit, _, rfl, digits digit (by simp)⟩

theorem IsNumeral.head {text : List Char} (numeral : IsNumeral text) :
    ∃ character rest, text = character :: rest ∧ (character = '-' ∨ character.isDigit = true) := by
  cases numeral with
  | positive unsigned =>
      obtain ⟨digit, rest, rfl, isDigit⟩ := unsigned.head
      exact ⟨digit, rest, rfl, .inr isDigit⟩
  | @negative rest => exact ⟨'-', rest, rfl, .inl rfl⟩

theorem IsUnsigned.characters {text : List Char} (unsigned : IsUnsigned text) :
    ∀ character ∈ text, character.isDigit = true ∨ character ∈ ['.', '-'] := by
  intro character member
  cases unsigned with
  | whole _ digits => exact .inl (digits character member)
  | fraction _ digits _ places =>
      rcases List.mem_append.mp member with front | back
      · exact .inl (digits character front)
      · rcases List.mem_cons.mp back with rfl | behind
        · exact .inr (by decide)
        · exact .inl (places character behind)

theorem IsNumeral.characters {text : List Char} (numeral : IsNumeral text) :
    ∀ character ∈ text, character.isDigit = true ∨ character ∈ ['.', '-'] := by
  cases numeral with
  | positive unsigned => exact unsigned.characters
  | negative unsigned => exact List.forall_mem_cons.mpr ⟨.inr (by decide), unsigned.characters⟩

theorem IsNumeral.inside {text : List Char} (numeral : IsNumeral text) :
    ∀ character ∈ text, endsValue character = false := by
  intro character member
  rcases numeral.characters character member with digit | sign
  · exact endsValue_of_isDigit digit
  · simp only [List.mem_cons, List.not_mem_nil, or_false] at sign
    rcases sign with rfl | rfl <;> decide

theorem numeralSize?_minus (rest : List Char) :
    numeralSize? ('-' :: rest) = (unsignedSize? rest).map (1 + ·) := by
  have behind : ∀ size, ('-' :: rest).drop (1 + size) = rest.drop size := fun size => by
    rw [Nat.add_comm, List.drop_succ_cons]
  simp only [numeralSize?, unsignedSize?, List.head?_cons, if_true, List.drop_one, List.tail_cons,
    behind]
  split
  next => rfl
  next =>
    split
    next rest' point => simp_all [Nat.add_assoc]
    next other => simp_all

theorem numeralSize?_of_head?_ne {text : List Char} (unsigned : text.head? ≠ some '-') :
    numeralSize? text = unsignedSize? text := by
  simp only [numeralSize?, unsigned, if_false, List.drop_zero, Nat.zero_add]
  rfl

theorem unsignedSize?_append {text rest : List Char} (unsigned : IsUnsigned text)
    (ends : endsAt endsValue rest = true) : unsignedSize? (text ++ rest) = some text.length := by
  cases unsigned with
  | whole nonempty digits =>
      have taken := takeWhile_append_of_endsAt digits ends fun _ => isDigit_of_endsValue
      have nothing : text.length ≠ 0 := by simpa using nonempty
      simp only [unsignedSize?, taken, nothing, if_false, List.drop_left]
      cases rest with
      | nil => rfl
      | cons boundary rest =>
          split
          next same =>
            cases same
            simp [endsValue, isSpace] at ends
          next => rfl
  | @fraction digits places nonempty allDigits nonemptyPlaces allPlaces =>
      have point : endsAt (· = '.') ('.' :: (places ++ rest)) = true := rfl
      have taken : (digits ++ '.' :: (places ++ rest)).takeWhile Char.isDigit = digits :=
        takeWhile_append_of_endsAt allDigits point (by simp)
      have takenPlaces := takeWhile_append_of_endsAt allPlaces ends fun _ => isDigit_of_endsValue
      have nothing : digits.length ≠ 0 := by simpa using nonempty
      have nothingBehind : places.length ≠ 0 := by simpa using nonemptyPlaces
      simp only [unsignedSize?, List.append_assoc, List.cons_append, taken, nothing, if_false,
        List.drop_left, takenPlaces, nothingBehind, List.length_append, List.length_cons]
      congr 1
      omega

theorem numeralSize?_append {text rest : List Char} (numeral : IsNumeral text)
    (ends : endsAt endsValue rest = true) : numeralSize? (text ++ rest) = some text.length := by
  cases numeral with
  | positive unsigned =>
      obtain ⟨digit, later, rfl, isDigit⟩ := unsigned.head
      have plain : digit ≠ '-' := by rintro rfl; simp at isDigit
      rw [numeralSize?_of_head?_ne (by simpa using plain), unsignedSize?_append unsigned ends]
  | negative unsigned =>
      rw [List.cons_append, numeralSize?_minus, unsignedSize?_append unsigned ends]
      simp [Nat.add_comm]

theorem isUnsigned_of_unsignedSize? {text : List Char} {size : Nat}
    (found : unsignedSize? text = some size) :
    size ≤ text.length ∧ IsUnsigned (text.take size) := by
  obtain ⟨digits, whole⟩ : ∃ digits, text.takeWhile Char.isDigit = digits := ⟨_, rfl⟩
  obtain ⟨later, rfl⟩ : ∃ later, digits ++ later = text := whole ▸ List.takeWhile_prefix _
  have allDigits : ∀ digit ∈ digits, digit.isDigit = true := fun digit member =>
    List.all_eq_true.mp (List.all_takeWhile) digit (whole ▸ member)
  simp only [unsignedSize?, whole, List.drop_left] at found
  split at found
  next => simp at found
  next something =>
    have nonempty : digits ≠ [] := by simpa using something
    split at found
    next rest =>
      obtain ⟨places, behind⟩ : ∃ places, rest.takeWhile Char.isDigit = places := ⟨_, rfl⟩
      obtain ⟨remainder, rfl⟩ : ∃ remainder, places ++ remainder = rest :=
        behind ▸ List.takeWhile_prefix _
      have allPlaces : ∀ digit ∈ places, digit.isDigit = true := fun digit member =>
        List.all_eq_true.mp (List.all_takeWhile) digit (behind ▸ member)
      rw [behind] at found
      split at found
      next =>
        cases found
        exact ⟨by simp, by simpa using IsUnsigned.whole nonempty allDigits⟩
      next more =>
        cases found
        have nonemptyPlaces : places ≠ [] := by simpa using more
        have taken : (digits ++ '.' :: (places ++ remainder)).take
            (digits.length + (1 + places.length)) = digits ++ '.' :: places := by
          rw [List.take_length_add_append, Nat.add_comm 1, List.take_succ_cons, List.take_left]
        exact ⟨by simp; omega, taken ▸ .fraction nonempty allDigits nonemptyPlaces allPlaces⟩
    next =>
      cases found
      exact ⟨by simp, by simpa using IsUnsigned.whole nonempty allDigits⟩

theorem isNumeral_of_numeralSize? {text : List Char} {size : Nat}
    (found : numeralSize? text = some size) :
    size ≤ text.length ∧ IsNumeral (text.take size) := by
  by_cases signed : text.head? = some '-'
  · obtain ⟨rest, rfl⟩ : ∃ rest, text = '-' :: rest := by
      cases text with
      | nil => simp at signed
      | cons first rest => exact ⟨rest, by simpa using signed⟩
    rw [numeralSize?_minus, Option.map_eq_some_iff] at found
    obtain ⟨inner, found, rfl⟩ := found
    obtain ⟨fits, unsigned⟩ := isUnsigned_of_unsignedSize? found
    rw [Nat.add_comm 1, List.take_succ_cons, List.length_cons]
    exact ⟨by omega, .negative unsigned⟩
  · rw [numeralSize?_of_head?_ne signed] at found
    obtain ⟨fits, unsigned⟩ := isUnsigned_of_unsignedSize? found
    exact ⟨fits, .positive unsigned⟩

/-- A numeral taken from the front of a word without boundaries, up to a boundary, is the word. -/
theorem numeralSize?_of_endsAt {word rest : List Char} {size : Nat}
    (inside : ∀ character ∈ word, endsValue character = false)
    (ends : endsAt endsValue rest = true) (found : numeralSize? (word ++ rest) = some size)
    (stops : endsAt endsValue ((word ++ rest).drop size) = true) :
    numeralSize? word = some word.length := by
  obtain ⟨fits, numeral⟩ := isNumeral_of_numeralSize? found
  have whole := eq_length_of_endsAt inside ends numeral.inside fits stops
  rw [whole, List.take_left] at numeral
  have ends : endsAt endsValue [] = true := rfl
  simpa using numeralSize?_append numeral ends

end FilterBox.Lexeme
