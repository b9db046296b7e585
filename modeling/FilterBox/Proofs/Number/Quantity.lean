import FilterBox.Number.Basic
import Mathlib.Algebra.Order.Field.Rat
import Mathlib.Data.Rat.Cast.Order

/-!
The rational numbers that finite numbers stand for.

The whole numbers among them that are kept as integers are recognised without any rounding.
-/

namespace FilterBox

-- A power is the core one, whatever instances are in reach.
attribute [local instance (high)] instPowNat

namespace Magnitude

/-- What a finite magnitude stands for. -/
def quantity (magnitude : Magnitude) : ℚ :=
  magnitude.units / unitsPerOne

theorem quantity_eq_natCast_iff {magnitude : Magnitude} {count : Nat} :
    magnitude.quantity = count ↔ magnitude.units = count * unitsPerOne := by
  have positive : (unitsPerOne : ℚ) ≠ 0 := Nat.cast_ne_zero.mpr (Nat.ne_of_gt unitsPerOne_pos)
  rw [quantity, div_eq_iff positive]
  exact_mod_cast Iff.rfl

theorem quantity_nonneg (magnitude : Magnitude) : 0 ≤ magnitude.quantity :=
  div_nonneg (Nat.cast_nonneg _) (Nat.cast_nonneg _)

end Magnitude

namespace Number

/-- What a finite number stands for; the two zeros stand for the same. -/
def quantity? : Number → Option ℚ
  | .nan => none
  | .signed negative magnitude =>
      if magnitude.isFinite then
        some (if negative then -magnitude.quantity else magnitude.quantity)
      else
        none

theorem toInteger?_of_not_finite {amount : Number} (infinite : amount.isFinite = false) :
    amount.toInteger? = none := by
  cases amount with
  | nan => rfl
  | signed negative magnitude =>
      have bound := magnitude.rank_le
      have rank : magnitude.rank = Magnitude.infinity.rank := by
        simp only [isFinite, Magnitude.isFinite, decide_eq_false_iff_not] at infinite
        change _ = 0x7FF0000000000000
        omega
      rw [Magnitude.eq_of_rank_eq rank]
      cases negative <;> decide +kernel

theorem signed_toInteger?_eq_some_iff {negative : Bool} {magnitude : Magnitude} {whole : Int} :
    (signed negative magnitude).toInteger? = some whole ↔
      ∃ count : Nat, magnitude.quantity = count ∧ count < 2 ^ (63 : Nat) ∧
        whole = if negative then -(count : Int) else count := by
  simp only [toInteger?, Option.ite_none_right_eq_some, Bool.and_eq_true, decide_eq_true_eq,
    Option.some.injEq, Magnitude.quantity_eq_natCast_iff]
  constructor
  · rintro ⟨⟨exact, small⟩, rfl⟩
    exact ⟨_, (Nat.div_mul_cancel (Nat.dvd_of_mod_eq_zero exact)).symm, small, rfl⟩
  · rintro ⟨count, units, small, rfl⟩
    rw [units, Nat.mul_mod_left, Nat.mul_div_cancel _ Magnitude.unitsPerOne_pos]
    exact ⟨⟨rfl, small⟩, rfl⟩

/-- Exactly the whole numbers of absolute value below 2^63 are taken as integers, each as itself. -/
theorem toInteger?_eq_some_iff {amount : Number} {whole : Int} :
    amount.toInteger? = some whole ↔
      amount.quantity? = some (whole : ℚ) ∧ whole.natAbs < 2 ^ (63 : Nat) := by
  cases amount with
  | nan => simp [toInteger?, quantity?]
  | signed negative magnitude =>
      by_cases finite : magnitude.isFinite = true
      · have positive := magnitude.quantity_nonneg
        rw [signed_toInteger?_eq_some_iff, quantity?, if_pos finite, Option.some.injEq]
        constructor
        · rintro ⟨count, quantity, small, rfl⟩
          cases negative <;> simp [quantity, small]
        · rintro ⟨quantity, small⟩
          -- The sign of the integer is the one of the number, or both zeros are meant.
          cases negative with
          | false =>
              have same : magnitude.quantity = whole := quantity
              rw [same, Int.cast_nonneg_iff] at positive
              obtain ⟨count, rfl⟩ := Int.eq_ofNat_of_zero_le positive
              exact ⟨count, by exact_mod_cast same, small, rfl⟩
          | true =>
              have same : magnitude.quantity = (-whole : Int) := by
                rw [Int.cast_neg]
                exact neg_eq_iff_eq_neg.mp quantity
              rw [same, Int.cast_nonneg_iff] at positive
              obtain ⟨count, opposite⟩ := Int.eq_ofNat_of_zero_le positive
              obtain rfl : whole = -(count : Int) := by omega
              exact ⟨count, by simpa using same, by simpa using small, rfl⟩
      · have infinite : (signed negative magnitude).isFinite = false :=
          Bool.eq_false_iff.mpr finite
        rw [toInteger?_of_not_finite infinite]
        simp [quantity?, finite]

end Number

end FilterBox
