import FilterBox.Json.Basic
import FilterBox.Number.Text

/-!
The text of JSON values, on one line or over several.
-/

namespace FilterBox

namespace Decimal

def scientific (decimal : Decimal) : List Char :=
  let digits := Nat.toDigits 10 decimal.digits
  let exponent := decimal.exponent + digits.length - 1
  let mantissa := match digits with
    | first :: second :: rest => first :: '.' :: second :: rest
    | digits => digits
  mantissa ++ 'e' :: (if exponent < 0 then '-' else '+') :: Nat.toDigits 10 exponent.natAbs

end Decimal

namespace Number

/-- The shortest digits that read back, halves going to the even digit. From 10^-5 up to 10^16 the
exponent is left out, and then a point with a zero marks a whole number. -/
def jsonText (negative : Bool) (magnitude : Magnitude) : String :=
  let decimal := magnitude.shortest .even
  let leading := decimal.exponent + (Nat.toDigits 10 decimal.digits).length - 1
  let digits :=
    if leading < -5 || 15 < leading then decimal.scientific
    else if decimal.exponent < 0 then decimal.positional
    else decimal.positional ++ ['.', '0']
  (if negative then "-" else "") ++ String.ofList digits

end Number

namespace Json

def escape (character : Char) : List Char :=
  if character = '"' then ['\\', '"']
  else if character = '\\' then ['\\', '\\']
  else if character = '\x08' then ['\\', 'b']
  else if character = '\x0c' then ['\\', 'f']
  else if character = '\n' then ['\\', 'n']
  else if character = '\r' then ['\\', 'r']
  else if character = '\t' then ['\\', 't']
  else if character.toNat < 0x20 then
    '\\' :: 'u' :: (Nat.toDigits 16 character.toNat).leftpad 4 '0'
  else [character]

def quote (text : String) : String :=
  "\"" ++ String.ofList (text.toList.flatMap escape) ++ "\""

/-- A value without parts; what is no finite number has no JSON form and is written as null. -/
def scalarText : Json → String
  | .bool flag => if flag then "true" else "false"
  | .integer whole => toString whole
  | .number (.signed negative magnitude) =>
      if magnitude.isFinite then Number.jsonText negative magnitude else "null"
  | .string text => quote text
  | _ => "null"

mutual

def compact : Json → String
  | .array items => "[" ++ ",".intercalate (compactItems items) ++ "]"
  | .object fields => "\x7b" ++ ",".intercalate (compactFields fields) ++ "\x7d"
  | value => value.scalarText

def compactItems : List Json → List String
  | [] => []
  | item :: items => item.compact :: compactItems items

def compactFields : List (String × Json) → List String
  | [] => []
  | (key, value) :: fields => (quote key ++ ":" ++ value.compact) :: compactFields fields

end

/-- Parts between brackets, each on a line of its own, two blanks further in than the brackets. -/
def block (opening closing : String) (depth : Nat) (parts : List String) : String :=
  let line := fun depth : Nat => "\n" ++ String.ofList (List.replicate (2 * depth) ' ')
  if parts.isEmpty then opening ++ closing
  else
    opening ++ line (depth + 1) ++ ("," ++ line (depth + 1)).intercalate parts ++ line depth ++
      closing

mutual

def pretty (depth : Nat) : Json → String
  | .array items => block "[" "]" depth (prettyItems (depth + 1) items)
  | .object fields => block "\x7b" "\x7d" depth (prettyFields (depth + 1) fields)
  | value => value.scalarText

def prettyItems (depth : Nat) : List Json → List String
  | [] => []
  | item :: items => item.pretty depth :: prettyItems depth items

def prettyFields (depth : Nat) : List (String × Json) → List String
  | [] => []
  | (key, value) :: fields =>
      (quote key ++ ": " ++ value.pretty depth) :: prettyFields depth fields

end

end Json

end FilterBox
