/-!
Characters shown by their code.
-/

namespace FilterBox.Text

/-- The code point in lower-case hexadecimal digits between braces. -/
def codeEscape (character : Char) : String :=
  "\\u\x7b" ++ String.ofList (Nat.toDigits 16 character.toNat) ++ "\x7d"

def hexDigit? (character : Char) : Option Nat :=
  let code := character.toNat
  if character.isDigit then some (code - '0'.toNat)
  else if 'a' ≤ character && character ≤ 'f' then some (code - 'a'.toNat + 10)
  else if 'A' ≤ character && character ≤ 'F' then some (code - 'A'.toNat + 10)
  else none

end FilterBox.Text
