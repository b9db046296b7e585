import FilterBox.Proofs.Lexeme.Numeral
import Mathlib.Data.List.TakeWhile

/-!
The written forms of finite numbers.

The written form of a finite number is a numeral, and it reads back as the same number, signs of
zero included.
-/

namespace FilterBox

open Text Lexeme

-- A power is the core one, whatever instances are in reach.
attribute [local instance (high)] instPowNat

namespace Decimal

/-- The digits of the positional form without its point. -/
def layout (decimal : Decimal) : List Char :=
  (Nat.toDigits 10 decimal.digits ++ List.replicate decimal.exponent.toNat '0').leftpad
    ((-decimal.exponent).toNat + 1) '0'

theorem isDigit_of_mem_layout {decimal : Decimal} {character : Char}
    (member : character ∈ decimal.layout) : character.isDigit = true := by
  simp only [layout, List.leftpad, List.mem_append, List.mem_replicate] at member
  rcases member with ⟨_, rfl⟩ | digit | ⟨_, rfl⟩
  · decide
  · exact Nat.isDigit_of_mem_toDigits (by decide) (by decide) digit
  · decide

theorem lt_length_layout (decimal : Decimal) :
    (-decimal.exponent).toNat < decimal.layout.length := by
  simp only [layout, List.leftpad, List.length_append, List.length_replicate]
  omega

theorem ofDigitChars_layout (decimal : Decimal) :
    Nat.ofDigitChars 10 decimal.layout 0 = decimal.digits * 10 ^ decimal.exponent.toNat := by
  simp only [layout, List.leftpad, Nat.ofDigitChars_append, Nat.ofDigitChars_replicate_zero,
    Nat.ofDigitChars_ten_toDigits, Nat.mul_zero]
  exact Nat.mul_comm ..

theorem positional_eq (decimal : Decimal) :
    ∃ whole places, decimal.layout = whole ++ places ∧ whole ≠ [] ∧
      places.length = (-decimal.exponent).toNat ∧
      decimal.positional = whole ++ if places = [] then [] else '.' :: places := by
  obtain ⟨size, count⟩ : ∃ size, decimal.layout.length - (-decimal.exponent).toNat = size :=
    ⟨_, rfl⟩
  have bound := decimal.lt_length_layout
  have behind : (decimal.layout.drop size).length = (-decimal.exponent).toNat := by
    rw [List.length_drop]
    omega
  have written : decimal.positional =
      if (-decimal.exponent).toNat = 0 then decimal.layout.take size
      else decimal.layout.take size ++ '.' :: decimal.layout.drop size := count ▸ rfl
  refine ⟨decimal.layout.take size, decimal.layout.drop size, (List.take_append_drop ..).symm, ?_,
    behind, ?_⟩
  · apply List.ne_nil_of_length_pos
    rw [List.length_take]
    omega
  · simp only [written, ← behind, List.length_eq_zero_iff]
    split <;> simp

theorem isUnsigned_positional (decimal : Decimal) : IsUnsigned decimal.positional := by
  obtain ⟨whole, places, split, nonempty, _, positional⟩ := decimal.positional_eq
  have digits : ∀ character ∈ whole ++ places, character.isDigit = true := fun character member =>
    isDigit_of_mem_layout (split ▸ member)
  have wholeDigits : ∀ character ∈ whole, character.isDigit = true := fun character member =>
    digits character (List.mem_append_left _ member)
  rw [positional]
  split
  next => simpa using IsUnsigned.whole nonempty wholeDigits
  next more =>
    exact .fraction nonempty wholeDigits more fun character member =>
      digits character (List.mem_append_right _ member)

theorem exponentOfText?_nil : exponentOfText? [] = some 0 := rfl

theorem ofText?_whole {digits : List Char} (nonempty : digits ≠ [])
    (isDigits : ∀ character ∈ digits, character.isDigit = true) :
    ofText? digits = some ⟨Nat.ofDigitChars 10 digits 0, 0⟩ := by
  have taken : digits.takeWhile Char.isDigit = digits := List.takeWhile_eq_self_iff.mpr isDigits
  have dropped : digits.dropWhile Char.isDigit = [] := List.dropWhile_eq_nil_iff.mpr isDigits
  rw [ofText?, taken, dropped]
  simp only [List.isEmpty_eq_false_iff.mpr nonempty, Bool.false_and, Bool.false_eq_true, if_false,
    exponentOfText?_nil, Option.map_some, List.append_nil, List.length_nil, Int.sub_self,
    Int.natCast_zero]

theorem ofText?_fraction {digits places : List Char} (nonempty : digits ≠ [])
    (isDigits : ∀ character ∈ digits, character.isDigit = true)
    (isPlaces : ∀ character ∈ places, character.isDigit = true) :
    ofText? (digits ++ '.' :: places) =
      some ⟨Nat.ofDigitChars 10 (digits ++ places) 0, -places.length⟩ := by
  have point : ('.' : Char).isDigit = false := rfl
  have taken : (digits ++ '.' :: places).takeWhile Char.isDigit = digits := by
    rw [List.takeWhile_append_of_pos isDigits]
    simp [point]
  have dropped : (digits ++ '.' :: places).dropWhile Char.isDigit = '.' :: places := by
    rw [List.dropWhile_append_of_pos isDigits]
    simp [point]
  have takenPlaces : places.takeWhile Char.isDigit = places :=
    List.takeWhile_eq_self_iff.mpr isPlaces
  have droppedPlaces : places.dropWhile Char.isDigit = [] :=
    List.dropWhile_eq_nil_iff.mpr isPlaces
  rw [ofText?, taken, dropped]
  simp only [List.isEmpty_eq_false_iff.mpr nonempty, Bool.false_and, Bool.false_eq_true, if_false,
    exponentOfText?_nil, Option.map_some, takenPlaces, droppedPlaces, Int.zero_sub]

theorem ofText?_positional (decimal : Decimal) :
    ofText? decimal.positional =
      some ⟨decimal.digits * 10 ^ decimal.exponent.toNat, -(-decimal.exponent).toNat⟩ := by
  obtain ⟨whole, places, split, nonempty, size, positional⟩ := decimal.positional_eq
  have digits : ∀ character ∈ whole ++ places, character.isDigit = true := fun character member =>
    isDigit_of_mem_layout (split ▸ member)
  have wholeDigits : ∀ character ∈ whole, character.isDigit = true := fun character member =>
    digits character (List.mem_append_left _ member)
  have placesDigits : ∀ character ∈ places, character.isDigit = true := fun character member =>
    digits character (List.mem_append_right _ member)
  rw [positional, ← ofDigitChars_layout, split, ← size]
  by_cases noPlaces : places = []
  · subst noPlaces
    rw [if_pos rfl, List.append_nil, ofText?_whole nonempty wholeDigits]
    rfl
  · rw [if_neg noPlaces, ofText?_fraction nonempty wholeDigits placesDigits]

theorem exists_ofText?_of_isUnsigned {text : List Char} (unsigned : IsUnsigned text) :
    ∃ decimal, ofText? text = some decimal := by
  cases unsigned with
  | whole nonempty digits => exact ⟨_, ofText?_whole nonempty digits⟩
  | fraction nonempty digits _ places => exact ⟨_, ofText?_fraction nonempty digits places⟩

theorem magnitude_scaled (decimal : Decimal) :
    magnitude ⟨decimal.digits * 10 ^ decimal.exponent.toNat, -(-decimal.exponent).toNat⟩ =
      decimal.magnitude := by
  have whole : (-((-decimal.exponent).toNat : Int)).toNat = 0 := by omega
  have depth : (- -((-decimal.exponent).toNat : Int)).toNat = (-decimal.exponent).toNat := by omega
  simp only [magnitude_eq_nearest, whole, depth, Nat.pow_zero, Nat.mul_one]

end Decimal

namespace Number

theorem spells_eq_false_of_isUnsigned {word : String} {text : List Char}
    (capitals : isCapital word = true)
    (unsigned : IsUnsigned text) : spells word text = false := by
  obtain ⟨digit, rest, rfl, isDigit⟩ := unsigned.head
  cases spelled : spells word (digit :: rest) with
  | false => rfl
  | true =>
      have letter := isAlpha_of_spells capitals spelled digit (by simp)
      simp [isDigit_of_isAlpha letter] at isDigit

theorem unsignedOfText?_of_isUnsigned (negative : Bool) {text : List Char}
    (unsigned : IsUnsigned text) :
    unsignedOfText? negative text = (Decimal.ofText? text).map (ofDecimal negative) := by
  have noInf : spells "INF" text = false := spells_eq_false_of_isUnsigned (by decide) unsigned
  have noInfinity : spells "INFINITY" text = false :=
    spells_eq_false_of_isUnsigned (by decide) unsigned
  have noNan : spells "NAN" text = false := spells_eq_false_of_isUnsigned (by decide) unsigned
  simp only [unsignedOfText?, noInf, noInfinity, noNan, Bool.or_self, Bool.false_eq_true, if_false]

theorem unsignedOfText?_positional (negative : Bool) (decimal : Decimal) :
    unsignedOfText? negative decimal.positional = some (ofDecimal negative decimal) := by
  rw [unsignedOfText?_of_isUnsigned negative decimal.isUnsigned_positional,
    Decimal.ofText?_positional, Option.map_some, ofDecimal, Decimal.magnitude_scaled]
  rfl

theorem ofText?_of_isUnsigned {text : String} (unsigned : IsUnsigned text.toList) :
    ofText? text = unsignedOfText? false text.toList := by
  obtain ⟨digit, rest, written, isDigit⟩ := unsigned.head
  unfold ofText?
  rw [written]
  split
  next _ same => cases same; simp at isDigit
  next _ same => cases same; simp at isDigit
  next => rfl

theorem exists_signed_of_isNumeral {text : String} (numeral : IsNumeral text.toList) :
    ∃ negative magnitude, ofText? text = some (.signed negative magnitude) := by
  generalize written : text.toList = characters at numeral
  cases numeral with
  | positive unsigned =>
      obtain ⟨decimal, read⟩ := Decimal.exists_ofText?_of_isUnsigned unsigned
      rw [ofText?_of_isUnsigned (written ▸ unsigned), written,
        unsignedOfText?_of_isUnsigned false unsigned, read]
      exact ⟨_, _, rfl⟩
  | @negative digits unsigned =>
      obtain ⟨decimal, read⟩ := Decimal.exists_ofText?_of_isUnsigned unsigned
      have signed : ofText? text = unsignedOfText? true digits := by
        rw [ofText?, written]
        rfl
      rw [signed, unsignedOfText?_of_isUnsigned true unsigned, read]
      exact ⟨_, _, rfl⟩

theorem exists_ofText?_of_isNumeral {text : String} (numeral : IsNumeral text.toList) :
    ∃ amount, ofText? text = some amount := by
  obtain ⟨_, _, read⟩ := exists_signed_of_isNumeral numeral
  exact ⟨_, read⟩

theorem toList_text {negative : Bool} {magnitude : Magnitude} (finite : magnitude.isFinite = true) :
    (text (.signed negative magnitude)).toList =
      (if negative then ['-'] else []) ++ (magnitude.shortest .up).positional := by
  cases negative <;> simp [text, finite]

theorem isNumeral_text {amount : Number} (finite : amount.isFinite = true) :
    IsNumeral amount.text.toList := by
  cases amount with
  | nan => simp [isFinite] at finite
  | signed negative magnitude =>
      have unsigned := (magnitude.shortest .up).isUnsigned_positional
      rw [toList_text finite]
      cases negative with
      | false => exact .positive unsigned
      | true => exact .negative unsigned

theorem ofText?_text {amount : Number} (finite : amount.isFinite = true) :
    ofText? amount.text = some amount := by
  cases amount with
  | nan => simp [isFinite] at finite
  | signed negative magnitude =>
      have same : ofDecimal negative (magnitude.shortest .up) = .signed negative magnitude := by
        rw [ofDecimal, Magnitude.magnitude_shortest]
      cases negative with
      | true =>
          unfold ofText?
          rw [toList_text finite, ← same]
          exact unsignedOfText?_positional true _
      | false =>
          have written : (text (.signed false magnitude)).toList =
              (magnitude.shortest .up).positional := toList_text finite
          rw [ofText?_of_isUnsigned (written ▸ (magnitude.shortest .up).isUnsigned_positional),
            written, unsignedOfText?_positional, same]

end Number

end FilterBox
