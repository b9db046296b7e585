import FilterBox.Number.Decimal

/-!
Numbers of double precision.
-/

namespace FilterBox

-- A power is the core one, whatever instances are in reach.
attribute [local instance (high)] instPowNat

inductive Number
  | nan
  | signed (negative : Bool) (magnitude : Magnitude)
  deriving DecidableEq

namespace Number

/-- The bits of the interchange format: the sign on top of the rank of the magnitude. -/
def ofBits (bits : UInt64) : Number :=
  let rank := bits.toNat % 2 ^ (63 : Nat)
  if within : rank ≤ 0x7FF0000000000000 then
    .signed (2 ^ (63 : Nat) ≤ bits.toNat) ⟨rank, within⟩
  else
    .nan

def isFinite : Number → Bool
  | .nan => false
  | .signed _ magnitude => magnitude.isFinite

/-- Numerical equality: the two zeros are equal, and what is not a number equals nothing. -/
def equal : Number → Number → Bool
  | .signed negative magnitude, .signed negative' magnitude' =>
      magnitude = magnitude' && (negative = negative' || magnitude = .zero)
  | _, _ => false

def ofInt (integer : Int) : Number :=
  .signed (integer < 0) (.nearest integer.natAbs 1)

def ofDecimal (negative : Bool) (decimal : Decimal) : Number :=
  .signed negative decimal.magnitude

def toInteger? : Number → Option Int
  | .nan => none
  | .signed negative magnitude =>
      let whole := magnitude.units / Magnitude.unitsPerOne
      if magnitude.units % Magnitude.unitsPerOne = 0 && whole < 2 ^ (63 : Nat) then
        some (if negative then -whole else whole)
      else
        none

end Number

end FilterBox
