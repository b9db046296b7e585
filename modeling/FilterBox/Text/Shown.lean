import FilterBox.Text.Escape
import FilterBox.Text.GraphemeExtend
import FilterBox.Text.Unprintable

/-!
Texts shown unambiguously on one line.
-/

namespace FilterBox.Text

/-- The two sound marks that have a width of their own, although they belong to the letter
before. -/
def isSpacingSoundMark (character : Char) : Bool :=
  character = '\uff9e' || character = '\uff9f'

/-- The letters that stand for a missing one and show nothing. -/
def isFiller (character : Char) : Bool :=
  character = '\u115f' || character = '\u1160' || character = '\u3164' || character = '\uffa0'

/-- Whether a character melts into its neighbour or is not seen; a plain blank counts as seen. -/
def isUnseen (character : Char) : Bool :=
  (isGraphemeExtend character && !isSpacingSoundMark character) || isFiller character ||
    (character ≠ ' ' && isUnprintable character)

/-- A character as it is shown between double quotes: escaped if it would be taken for something
else or would not be seen by itself. -/
def shownCharacter (character : Char) : String :=
  if character = '\x00' then "\\0"
  else if character = '\t' then "\\t"
  else if character = '\r' then "\\r"
  else if character = '\n' then "\\n"
  else if character = '"' then "\\\""
  else if character = '\\' then "\\\\"
  else if isUnseen character then codeEscape character
  else character.toString

def shown (text : String) : String :=
  "\"" ++ String.join (text.toList.map shownCharacter) ++ "\""

end FilterBox.Text
