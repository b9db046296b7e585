import FilterBox.Lexeme

/-!
Signs in the mere text of a query that it is still being typed.
-/

namespace FilterBox

open Text

namespace Unfinished

/-- The capital of a letter that has one in ASCII; the Kelvin sign counts as a K. -/
def capital (character : Char) : Char :=
  if character = '\u212A' then 'K' else character.toUpper

/-- Whether the text is the given word, written in capitals, up to the case of its letters. -/
def resembles (word : String) (text : List Char) : Bool :=
  text.map capital == word.toList

def isOperatorWord (text : List Char) : Bool :=
  resembles "IN" text || resembles "LIKE" text

/-- What may follow a colon at the end of an unfinished query: nothing, a sign, `NOT`, or an
operator word that may follow a `NOT`. -/
def isOperatorRemainder (text : List Char) : Bool :=
  let word := text.takeWhile fun character => !isSpace character
  let later := text.drop word.length
  text.isEmpty || [">=", "<=", "!=", ">", "<"].any (fun sign => sign.toList = text) ||
    resembles "NOT" text || isOperatorWord text ||
    (resembles "NOT" word && !later.isEmpty && isOperatorWord (later.dropWhile isSpace))

/-- Whether a text without blanks at its end ends in an operator. -/
def endsInOperator : List Char → Bool
  | [] => false
  | ':' :: rest => isOperatorRemainder rest || endsInOperator rest
  | '=' :: rest => rest.isEmpty || endsInOperator rest
  | _ :: rest => endsInOperator rest

/-- Whether a text without blanks at its end ends in a connective that begins at the start of the
text, behind a blank or behind an opening parenthesis. The flag says whether one may begin here. -/
def endsInConnective (mayBegin : Bool) : List Char → Bool
  | [] => false
  | character :: rest =>
      (mayBegin &&
        Connective.all.any fun connective => resembles connective.keyword (character :: rest)) ||
      endsInConnective (isSpace character || character = '(') rest

def isFieldName (text : List Char) : Bool :=
  text.head?.any Lexeme.isFieldStart && text.all Lexeme.isFieldCharacter

end Unfinished

namespace Query

/-- A query that ends in an operator or a connective, or is a single field name. -/
def looksUnfinished (query : String) : Bool :=
  let text := query.toList
  Unfinished.endsInOperator (trimEnd text) || Unfinished.endsInConnective true (trimEnd text) ||
    Unfinished.isFieldName (trim text)

end Query

end FilterBox
