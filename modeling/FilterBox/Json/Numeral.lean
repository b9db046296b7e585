import FilterBox.Json.Basic

/-!
Numbers in JSON text.

A whole number that fits in 64 bits is kept as an integer. Any other number is made from its leading
digits, as many as fit in 64 bits, and scaled by powers of ten in double precision, so that the
result need not be the nearest one.
-/

namespace FilterBox

-- A power is the core one, whatever instances are in reach.
attribute [local instance (high)] instPowNat

namespace Magnitude

def times (left right : Magnitude) : Magnitude :=
  nearest (left.units * right.units) (unitsPerOne * unitsPerOne)

def dividedBy (left right : Magnitude) : Magnitude :=
  nearest left.units right.units

def tenTo (exponent : Nat) : Magnitude :=
  nearest (10 ^ exponent) 1

/-- The magnitude times a power of ten, in steps of at most 308 decimal places; none if the result
is too large. -/
def scaled? (magnitude : Magnitude) (exponent : Int) : Option Magnitude :=
  if magnitude = zero then
    some zero
  else if 308 < exponent then
    none
  else if 0 ≤ exponent then
    (some (magnitude.times (tenTo exponent.toNat))).filter isFinite
  else if -308 ≤ exponent then
    some (magnitude.dividedBy (tenTo (-exponent).toNat))
  else
    (magnitude.dividedBy (tenTo 308)).scaled? (exponent + 308)
termination_by (-exponent).toNat
decreasing_by
  omega

end Magnitude

namespace Json

/-- Appends digits to a significand as long as the result stays below 2^64. The digits that were
left over come second. -/
def gather (significand : Nat) : List Char → Nat × List Char
  | [] => (significand, [])
  | digit :: digits =>
      let longer := 10 * significand + (digit.toNat - '0'.toNat)
      if longer < 2 ^ (64 : Nat) then gather longer digits else (significand, digit :: digits)

/-- The parts of a written number; what is missing is empty, and only an exponent may have been
without digits. -/
structure Numeral where
  negative : Bool
  whole : List Char
  fraction : List Char
  exponent : Option Int

namespace Numeral

/-- Splits off a number: no zero before other digits, and digits wherever a part has begun. -/
def read? (text : List Char) : Option (Numeral × List Char) := do
  let (negative, text) := match text with
    | '-' :: rest => (true, rest)
    | text => (false, text)
  let (whole, text) := match text with
    | '0' :: rest => (['0'], rest)
    | text => (text.takeWhile Char.isDigit, text.dropWhile Char.isDigit)
  guard (!whole.isEmpty)
  let (fraction, text) ← match text with
    | '.' :: rest => do
        let fraction := rest.takeWhile Char.isDigit
        guard (!fraction.isEmpty)
        pure (fraction, rest.drop fraction.length)
    | text => pure ([], text)
  match text with
  | mark :: rest =>
      if mark = 'e' || mark = 'E' then do
        let (below, rest) := match rest with
          | '-' :: rest => (true, rest)
          | '+' :: rest => (false, rest)
          | rest => (false, rest)
        let digits := rest.takeWhile Char.isDigit
        guard (!digits.isEmpty)
        let size : Int := Nat.ofDigitChars 10 digits 0
        pure (⟨negative, whole, fraction, some (if below then -size else size)⟩,
          rest.drop digits.length)
      else
        pure (⟨negative, whole, fraction, none⟩, text)
  | [] => pure (⟨negative, whole, fraction, none⟩, [])

def value? (numeral : Numeral) : Option Json :=
  let (significand, skipped) := gather 0 numeral.whole
  let floating := fun significand exponent =>
    ((Magnitude.nearest significand 1).scaled? exponent).map fun magnitude =>
      Json.number (.signed numeral.negative magnitude)
  if numeral.fraction.isEmpty && numeral.exponent.isNone && skipped.isEmpty then
    if !numeral.negative then some (.integer significand)
    else if significand = 0 || 2 ^ (63 : Nat) < significand then floating significand 0
    else some (.integer (-significand))
  else
    let (longer, ignored) := gather significand numeral.fraction
    let places := numeral.fraction.length - ignored.length
    floating longer (skipped.length - places + numeral.exponent.getD 0)

end Numeral

end Json

end FilterBox
