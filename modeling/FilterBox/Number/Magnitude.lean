/-!
The absolute values that double precision can hold, and rounding to the nearest of them.

A magnitude is known by its rank: zero has rank 0, and the next larger magnitude has the next rank,
up to infinity. The rank is also the pattern of the 63 low bits in the interchange format.
-/

namespace FilterBox

-- A power is the core one, whatever instances are in reach.
attribute [local instance (high)] instPowNat

structure Magnitude where
  rank : Nat
  rank_le : rank ≤ 0x7FF0000000000000
  deriving DecidableEq

/-- The quotient rounded to the nearest natural number, a half to the even one. -/
def roundHalfEven (numerator denominator : Nat) : Nat :=
  let quotient := numerator / denominator
  let excess := 2 * (numerator % denominator)
  if denominator < excess || (excess = denominator && quotient % 2 = 1) then
    quotient + 1
  else
    quotient

@[simp]
theorem roundHalfEven_mul_self (quotient : Nat) {denominator : Nat} (positive : 0 < denominator) :
    roundHalfEven (quotient * denominator) denominator = quotient := by
  simp [roundHalfEven, Nat.mul_div_cancel _ positive]
  omega

theorem roundHalfEven_mul_mul (numerator denominator : Nat) {scale : Nat} (positive : 0 < scale) :
    roundHalfEven (numerator * scale) (denominator * scale) =
      roundHalfEven numerator denominator := by
  have doubled : 2 * (numerator % denominator * scale) = 2 * (numerator % denominator) * scale := by
    rw [Nat.mul_assoc]
  have less : denominator * scale < 2 * (numerator % denominator) * scale ↔
      denominator < 2 * (numerator % denominator) := Nat.mul_lt_mul_right positive
  have same : 2 * (numerator % denominator) * scale = denominator * scale ↔
      2 * (numerator % denominator) = denominator :=
    ⟨Nat.eq_of_mul_eq_mul_right positive, fun equal => by rw [equal]⟩
  simp only [roundHalfEven, Nat.mul_div_mul_right _ _ positive, Nat.mul_mod_mul_right, doubled,
    less, same]

namespace Magnitude

def ofRank (rank : Nat) : Magnitude :=
  ⟨min rank 0x7FF0000000000000, Nat.min_le_right ..⟩

def zero : Magnitude :=
  ofRank 0

def infinity : Magnitude :=
  ofRank 0x7FF0000000000000

def isFinite (magnitude : Magnitude) : Bool :=
  magnitude.rank < 0x7FF0000000000000

def unitPlaces : Nat :=
  1074

def unitsPerOne : Nat :=
  2 ^ unitPlaces

theorem unitsPerOne_pos : 0 < unitsPerOne :=
  Nat.two_pow_pos unitPlaces

/-- The magnitude as a multiple of the smallest positive one. The ranks come in blocks of
2^52: in the first two blocks the magnitudes are one unit apart, and the distance doubles from each
later block to the next. -/
def units (magnitude : Magnitude) : Nat :=
  let block := magnitude.rank / 2 ^ (52 : Nat)
  let place := magnitude.rank % 2 ^ (52 : Nat)
  if block = 0 then place else (2 ^ (52 : Nat) + place) * 2 ^ (block - 1)

def nearest (numerator denominator : Nat) : Magnitude :=
  let scaled := numerator * unitsPerOne
  let doublings := (scaled / denominator).log2 - 52
  ofRank (doublings * 2 ^ (52 : Nat) + roundHalfEven scaled (denominator * 2 ^ doublings))

theorem eq_of_rank_eq {left right : Magnitude} (equal : left.rank = right.rank) : left = right := by
  cases left
  cases right
  cases equal
  rfl

theorem log2_units (magnitude : Magnitude) (later : magnitude.rank / 2 ^ (52 : Nat) ≠ 0) :
    magnitude.units.log2 = 52 + (magnitude.rank / 2 ^ (52 : Nat) - 1) := by
  have place := Nat.mod_lt magnitude.rank (Nat.two_pow_pos 52)
  simp only [units, later, if_false]
  rw [Nat.log2_eq_iff (Nat.ne_of_gt (Nat.mul_pos (by omega) (Nat.two_pow_pos _)))]
  constructor
  · rw [Nat.pow_add]
    exact Nat.mul_le_mul_right _ (by omega)
  · rw [Nat.add_right_comm, Nat.pow_add]
    exact Nat.mul_lt_mul_of_pos_right (by omega) (Nat.two_pow_pos _)

theorem nearest_eq_self {magnitude : Magnitude} {numerator denominator : Nat}
    (positive : 0 < denominator)
    (equal : numerator * unitsPerOne = magnitude.units * denominator) :
    nearest numerator denominator = magnitude := by
  have bound := magnitude.rank_le
  have place := Nat.mod_lt magnitude.rank (Nat.two_pow_pos 52)
  have parts := Nat.div_add_mod magnitude.rank (2 ^ 52)
  have rounded : ∀ block significand, magnitude.units = significand * 2 ^ block →
      magnitude.units.log2 - 52 = block → block * 2 ^ 52 + significand = magnitude.rank →
      nearest numerator denominator = magnitude := by
    intro block significand written doublings rank
    apply eq_of_rank_eq
    have grouped : significand * 2 ^ block * denominator =
        significand * (denominator * 2 ^ block) := by
      rw [Nat.mul_assoc, Nat.mul_comm (2 ^ block)]
    simp only [nearest, ofRank, equal, Nat.mul_div_cancel _ positive, doublings]
    rw [written, grouped,
      roundHalfEven_mul_self _ (Nat.mul_pos positive (Nat.two_pow_pos block)), rank]
    exact Nat.min_eq_left bound
  by_cases first : magnitude.rank / 2 ^ 52 = 0
  · have small : magnitude.units = magnitude.rank % 2 ^ 52 := by simp only [units, if_pos first]
    have logarithm : magnitude.units.log2 < 52 ∨ magnitude.units = 0 := by
      by_cases vanishing : magnitude.units = 0
      · exact Or.inr vanishing
      · exact Or.inl ((Nat.log2_lt vanishing).mpr (by omega))
    rw [first, Nat.mul_zero, Nat.zero_add] at parts
    refine rounded 0 (magnitude.rank % 2 ^ 52) (by simpa using small) ?_ (by simpa using parts)
    rcases logarithm with below | vanishing
    · omega
    · simp [vanishing]
  · refine rounded (magnitude.rank / 2 ^ 52 - 1) (2 ^ 52 + magnitude.rank % 2 ^ 52)
      (by simp only [units, if_neg first]) (by rw [log2_units _ first]; omega) ?_
    omega

theorem nearest_mul_mul (numerator denominator : Nat) {scale : Nat} (positive : 0 < scale) :
    nearest (numerator * scale) (denominator * scale) = nearest numerator denominator := by
  have moved : numerator * scale * unitsPerOne = numerator * unitsPerOne * scale :=
    Nat.mul_right_comm ..
  have grouped : ∀ factor, denominator * scale * factor = denominator * factor * scale :=
    fun _ => Nat.mul_right_comm ..
  simp only [nearest, moved, grouped, Nat.mul_div_mul_right _ _ positive,
    roundHalfEven_mul_mul _ _ positive]

theorem nearest_eq_zero {numerator denominator : Nat}
    (small : 2 * (numerator * unitsPerOne) < denominator) :
    nearest numerator denominator = zero := by
  have whole : numerator * unitsPerOne / denominator = 0 := Nat.div_eq_of_lt (by omega)
  have remainder : numerator * unitsPerOne % denominator = numerator * unitsPerOne :=
    Nat.mod_eq_of_lt (by omega)
  have kept : ¬ denominator < 2 * (numerator * unitsPerOne) := by omega
  have uneven : ¬ 2 * (numerator * unitsPerOne) = denominator := by omega
  simp [nearest, whole, roundHalfEven, remainder, kept, uneven, zero]

theorem le_log2_scaled {numerator denominator exponent : Nat} (positive : 0 < denominator)
    (large : 2 ^ exponent * denominator ≤ numerator) :
    numerator * unitsPerOne / denominator ≠ 0 ∧
      exponent + unitPlaces ≤ (numerator * unitsPerOne / denominator).log2 := by
  have scaled : 2 ^ (exponent + unitPlaces) * denominator ≤ numerator * unitsPerOne := by
    rw [unitsPerOne, Nat.pow_add, Nat.mul_right_comm]
    exact Nat.mul_le_mul_right _ large
  have whole := (Nat.le_div_iff_mul_le positive).mpr scaled
  have nonzero := Nat.ne_of_gt (Nat.lt_of_lt_of_le (Nat.two_pow_pos _) whole)
  exact ⟨nonzero, (Nat.le_log2 nonzero).mpr whole⟩

theorem nearest_eq_infinity {numerator denominator : Nat} (positive : 0 < denominator)
    (large : 2 ^ (1024 : Nat) * denominator ≤ numerator) :
    nearest numerator denominator = infinity := by
  obtain ⟨nonzero, logarithm⟩ := le_log2_scaled positive large
  have significand : 2 ^ 52 ≤ roundHalfEven (numerator * unitsPerOne)
      (denominator * 2 ^ ((numerator * unitsPerOne / denominator).log2 - 52)) := by
    have floor : 2 ^ 52 ≤ numerator * unitsPerOne /
        (denominator * 2 ^ ((numerator * unitsPerOne / denominator).log2 - 52)) := by
      rw [← Nat.div_div_eq_div_mul, Nat.le_div_iff_mul_le (Nat.two_pow_pos _), ← Nat.pow_add]
      have recovered : 52 + ((numerator * unitsPerOne / denominator).log2 - 52) =
          (numerator * unitsPerOne / denominator).log2 := by omega
      rw [recovered]
      exact Nat.log2_self_le nonzero
    unfold roundHalfEven
    simp only
    split <;> omega
  apply eq_of_rank_eq
  simp only [nearest, ofRank, infinity]
  simp only [unitPlaces] at logarithm
  generalize (numerator * unitsPerOne / denominator).log2 = exponent at *
  omega

end Magnitude

end FilterBox
