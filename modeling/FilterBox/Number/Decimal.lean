import FilterBox.Number.Magnitude

/-!
Decimal numerals and magnitudes: reading a numeral as the nearest magnitude, and the shortest
numeral that reads back as a given magnitude.

`Decimal.magnitude_eq_nearest` says what reading does, `Magnitude.magnitude_shortest` that the
numeral chosen for a finite magnitude reads back.
-/

namespace FilterBox

-- A power is the core one, whatever instances are in reach.
attribute [local instance (high)] instPowNat

/-- The numeral `digits` times ten to the `exponent`. -/
structure Decimal where
  digits : Nat
  exponent : Int
  deriving DecidableEq

namespace Decimal

/-- The nearest magnitude. Powers of ten so large or so small that their effect is certain are not
computed. -/
def magnitude (decimal : Decimal) : Magnitude :=
  if decimal.digits = 0 then .zero
  else if 1024 ≤ decimal.exponent then .infinity
  else if decimal.exponent ≤ -(decimal.digits.log2 + 1076) then .zero
  else .nearest (decimal.digits * 10 ^ decimal.exponent.toNat) (10 ^ (-decimal.exponent).toNat)

theorem two_pow_le_ten_pow (exponent : Nat) : 2 ^ exponent ≤ 10 ^ exponent :=
  Nat.pow_le_pow_left (by decide) exponent

theorem magnitude_eq_nearest (decimal : Decimal) :
    decimal.magnitude =
      .nearest (decimal.digits * 10 ^ decimal.exponent.toNat)
        (10 ^ (-decimal.exponent).toNat) := by
  have tens := fun exponent : Nat => Nat.pow_pos (n := exponent) (by decide : 0 < 10)
  unfold magnitude
  split
  next vanishing =>
    rw [Magnitude.nearest_eq_zero]
    simp [vanishing, tens]
  next nonzero =>
    split
    next large =>
      rw [Magnitude.nearest_eq_infinity (tens _)]
      have whole : (-decimal.exponent).toNat = 0 := by omega
      have reached : ∀ bound : Nat, bound ≤ decimal.exponent.toNat →
          2 ^ bound ≤ decimal.digits * 10 ^ decimal.exponent.toNat := fun bound below =>
        Nat.le_trans (Nat.pow_le_pow_right (by decide) below)
          (Nat.le_trans (two_pow_le_ten_pow _)
            (Nat.le_mul_of_pos_left _ (Nat.pos_of_ne_zero nonzero)))
      simpa only [whole, Nat.pow_zero, Nat.mul_one] using reached 1024 (by omega)
    next =>
      split
      next small =>
        rw [Magnitude.nearest_eq_zero]
        have whole : decimal.exponent.toNat = 0 := by omega
        have depth : decimal.digits.log2 + 1 + 1 + Magnitude.unitPlaces ≤
            (-decimal.exponent).toNat := by
          simp only [Magnitude.unitPlaces]
          omega
        have below : decimal.digits < 2 ^ (decimal.digits.log2 + 1) := Nat.lt_log2_self
        rw [whole, Nat.pow_zero, Nat.mul_one]
        calc 2 * (decimal.digits * Magnitude.unitsPerOne)
            < 2 ^ (decimal.digits.log2 + 1 + 1) * Magnitude.unitsPerOne := by
              rw [← Nat.mul_assoc, Nat.pow_succ _ (decimal.digits.log2 + 1)]
              exact Nat.mul_lt_mul_of_pos_right (by omega) Magnitude.unitsPerOne_pos
          _ = 2 ^ (decimal.digits.log2 + 1 + 1 + Magnitude.unitPlaces) := (Nat.pow_add ..).symm
          _ ≤ 2 ^ (-decimal.exponent).toNat := Nat.pow_le_pow_right (by decide) depth
          _ ≤ 10 ^ (-decimal.exponent).toNat := two_pow_le_ten_pow _
      next => rfl

theorem magnitude_mul_ten (digits : Nat) (exponent : Int) :
    magnitude ⟨digits * 10, exponent⟩ = magnitude ⟨digits, exponent + 1⟩ := by
  simp only [magnitude_eq_nearest]
  by_cases negative : exponent < 0
  · have whole : exponent.toNat = 0 := by omega
    have shifted : (exponent + 1).toNat = 0 := by omega
    have depth : (-exponent).toNat = (-(exponent + 1)).toNat + 1 := by omega
    rw [whole, shifted, depth, Nat.pow_zero, Nat.mul_one, Nat.mul_one, Nat.pow_succ]
    exact Magnitude.nearest_mul_mul _ _ (by decide)
  · have whole : (-exponent).toNat = 0 := by omega
    have shifted : (-(exponent + 1)).toNat = 0 := by omega
    have height : (exponent + 1).toNat = exponent.toNat + 1 := by omega
    rw [whole, shifted, height, Nat.pow_succ, Nat.mul_assoc, Nat.mul_comm 10]

def trimmed (decimal : Decimal) : Decimal :=
  if vanishing : decimal.digits = 0 then ⟨0, 0⟩
  else if decimal.digits % 10 = 0 then
    trimmed ⟨decimal.digits / 10, decimal.exponent + 1⟩
  else decimal
termination_by decimal.digits
decreasing_by
  exact Nat.div_lt_self (Nat.pos_of_ne_zero vanishing) (by decide)

@[simp]
theorem magnitude_trimmed (decimal : Decimal) : decimal.trimmed.magnitude = decimal.magnitude := by
  fun_induction trimmed decimal with
  | case1 decimal vanishing => simp [magnitude, vanishing]
  | case2 decimal _ final inductionHypothesis =>
      rw [inductionHypothesis, ← magnitude_mul_ten,
        Nat.div_mul_cancel (Nat.dvd_of_mod_eq_zero final)]
  | case3 => rfl

end Decimal

/-- What becomes of a value halfway between two numerals. -/
inductive Tie
  | up
  | even
  deriving DecidableEq

namespace Magnitude

/-- How many decimal digits stand before the point; negative by the zeros that follow it when all
digits stand after it. -/
def wholeDigits (magnitude : Magnitude) : Int :=
  if unitsPerOne ≤ magnitude.units then
    (Nat.toDigits 10 (magnitude.units / unitsPerOne)).length
  else
    1 - (Nat.toDigits 10 ((unitsPerOne - 1) / magnitude.units)).length

/-- The two numerals with the given exponent next to the magnitude, the nearer one first. -/
def neighbours (ties : Tie) (magnitude : Magnitude) (exponent : Int) : List Decimal :=
  let numerator := magnitude.units * 10 ^ (-exponent).toNat
  let denominator := unitsPerOne * 10 ^ exponent.toNat
  let below := numerator / denominator
  let excess := 2 * (numerator % denominator)
  if denominator < excess ||
      (excess = denominator && (ties = .up || below % 2 = 1)) then
    [⟨below + 1, exponent⟩, ⟨below, exponent⟩]
  else
    [⟨below, exponent⟩, ⟨below + 1, exponent⟩]

/-- The numeral with the given exponent that is nearest to the magnitude among those that read back
as it. -/
def onGrid? (ties : Tie) (magnitude : Magnitude) (exponent : Int) : Option Decimal :=
  (magnitude.neighbours ties exponent).find? fun decimal => decimal.magnitude = magnitude

def expansion (magnitude : Magnitude) : Decimal :=
  ⟨magnitude.units * 5 ^ unitPlaces, -unitPlaces⟩

/-- The numeral with the fewest digits that reads back as the magnitude, and of those the
nearest. -/
def shortest (ties : Tie) (magnitude : Magnitude) : Decimal :=
  let found? := (List.range 17).findSome? fun count : Nat =>
    magnitude.onGrid? ties (magnitude.wholeDigits - (count + 1))
  (found?.getD magnitude.expansion).trimmed

theorem magnitude_expansion (magnitude : Magnitude) :
    magnitude.expansion.magnitude = magnitude := by
  rw [Decimal.magnitude_eq_nearest]
  apply nearest_eq_self (Nat.pow_pos (by decide))
  have whole : Int.toNat (-unitPlaces) = 0 := by omega
  have depth : Int.toNat (- -unitPlaces) = unitPlaces := by omega
  simp only [expansion, unitsPerOne, whole, depth]
  rw [Nat.pow_zero, Nat.mul_one, Nat.mul_assoc, ← Nat.mul_pow]

theorem magnitude_onGrid? {ties : Tie} {magnitude : Magnitude} {exponent : Int} {decimal : Decimal}
    (found : magnitude.onGrid? ties exponent = some decimal) : decimal.magnitude = magnitude := by
  simpa using List.find?_some found

theorem magnitude_shortest (ties : Tie) (magnitude : Magnitude) :
    (magnitude.shortest ties).magnitude = magnitude := by
  simp only [shortest, Decimal.magnitude_trimmed]
  cases search : (List.range 17).findSome? fun count : Nat =>
      magnitude.onGrid? ties (magnitude.wholeDigits - (count + 1)) with
  | none => exact magnitude_expansion magnitude
  | some decimal =>
      obtain ⟨count, _, found⟩ := List.exists_of_findSome?_eq_some search
      exact magnitude_onGrid? found

end Magnitude

end FilterBox
