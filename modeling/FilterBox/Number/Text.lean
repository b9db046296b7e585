import FilterBox.Number.Basic
import FilterBox.Text.Basic

/-!
The written forms of numbers.

`Number.text` is the form used in queries: never an exponent, no point in a whole number.
`Number.ofText?` reads that form and the usual wider one with signs, exponents and the words for
infinity.
-/

namespace FilterBox

open Text

namespace Decimal

/-- The numeral without an exponent, with at least one digit before the point, and a point only if
digits follow it. -/
def positional (decimal : Decimal) : List Char :=
  let places := (-decimal.exponent).toNat
  let digits :=
    (Nat.toDigits 10 decimal.digits ++ List.replicate decimal.exponent.toNat '0').leftpad
      (places + 1) '0'
  let whole := digits.take (digits.length - places)
  if places = 0 then whole else whole ++ '.' :: digits.drop (digits.length - places)

def exponentOfText? : List Char → Option Int
  | [] => some 0
  | mark :: rest =>
      let (negative, digits) := match rest with
        | '-' :: digits => (true, digits)
        | '+' :: digits => (false, digits)
        | digits => (false, digits)
      if mark.toUpper = 'E' && !digits.isEmpty && digits.all Char.isDigit then
        let size := Nat.ofDigitChars 10 digits 0
        some (if negative then -size else size)
      else
        none

def ofText? (text : List Char) : Option Decimal :=
  let whole := text.takeWhile Char.isDigit
  let (fraction, tail) := match text.dropWhile Char.isDigit with
    | '.' :: rest => (rest.takeWhile Char.isDigit, rest.dropWhile Char.isDigit)
    | rest => ([], rest)
  if whole.isEmpty && fraction.isEmpty then
    none
  else
    (exponentOfText? tail).map fun exponent =>
      ⟨Nat.ofDigitChars 10 (whole ++ fraction) 0, exponent - fraction.length⟩

end Decimal

namespace Number

def text : Number → String
  | .nan => "NaN"
  | .signed negative magnitude =>
      let sign := if negative then "-" else ""
      if magnitude.isFinite then
        sign ++ String.ofList (magnitude.shortest .up).positional
      else
        sign ++ "inf"

def unsignedOfText? (negative : Bool) (text : List Char) : Option Number :=
  if spells "INF" text || spells "INFINITY" text then some (.signed negative .infinity)
  else if spells "NAN" text then some .nan
  else (Decimal.ofText? text).map (ofDecimal negative)

/-- The nearest number to a written one; a word for infinity or for no number counts as one. -/
def ofText? (text : String) : Option Number :=
  match text.toList with
  | '-' :: rest => unsignedOfText? true rest
  | '+' :: rest => unsignedOfText? false rest
  | rest => unsignedOfText? false rest

end Number

end FilterBox
