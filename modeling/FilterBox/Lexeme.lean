import FilterBox.Text.Basic
import FilterBox.Text.Quoted
import FilterBox.Token.Basic

/-!
What stands at the front of a text: the words, literals and signs that tokens are made of.

Each recogniser answers with the number of characters that it takes. `Lexeme.first?` chooses among
them by what the query expects at that place.
-/

namespace FilterBox

open Text

inductive Mode
  /-- A condition may begin: words are fields or connectives. -/
  | field
  /-- An operator came before: words are values. -/
  | value
  /-- An operator that takes a list came before. -/
  | list
  /-- Inside the parentheses of a list: words are values. -/
  | item
  deriving DecidableEq

/-- A token without its place: the characters it takes and the text it carries. Only a quoted value
can be left open. -/
structure Lexeme where
  kind : Token.Kind
  valueKind : Option Value.Kind
  size : Nat
  text : List Char
  closed : Bool

namespace Lexeme

def endsValue (character : Char) : Bool :=
  isSpace character || character = ':' || character = '(' || character = ')' || character = ','

def isFieldStart (character : Char) : Bool :=
  character.isAlpha || character = '_'

def isFieldCharacter (character : Char) : Bool :=
  character.isAlphanum || character = '_' || character = '.'

/-- A capitalised word, in any case, with a boundary after it. -/
def wordSize? (word : String) (boundary : Char → Bool) (text : List Char) : Option Nat :=
  if spells word (text.take word.length) && endsAt boundary (text.drop word.length) then
    some word.length
  else
    none

/-- A connective needs a blank after it, so that `ANDroid` is no connective. -/
def connectiveSize? (text : List Char) : Option Nat :=
  Connective.all.findSome? fun connective => wordSize? connective.keyword isSpace text

/-- An operator word may touch a list or a quoted value, but no other character: in `level:INFO` the
value is `INFO`. -/
def maySucceedOperator (character : Char) : Bool :=
  isSpace character || character = '(' || character = '"' || character = '\''

def operatorWordSize? (text : List Char) : Option Nat :=
  (wordSize? "IN" maySucceedOperator text).or (wordSize? "LIKE" maySucceedOperator text)

def negatableWordSize? (text : List Char) : Option Nat :=
  let negated := (wordSize? "NOT" isSpace text).bind fun size =>
    let gap := ((text.drop size).takeWhile isSpace).length
    (operatorWordSize? (text.drop (size + gap))).map (size + gap + ·)
  negated.or (operatorWordSize? text)

def comparisonSize? (text : List Char) : Option Nat :=
  ([">=", "<=", "!=", ">", "<"].find? fun sign => sign.toList.isPrefixOf text).map String.length

/-- A colon with as much as belongs to it, or an equals sign. -/
def operatorSize? : List Char → Option Nat
  | ':' :: rest => some (1 + ((negatableWordSize? rest).or (comparisonSize? rest)).getD 0)
  | '=' :: _ => some 1
  | _ => none

/-- An optional minus sign, digits, and a point if digits follow it. -/
def numeralSize? (text : List Char) : Option Nat :=
  let sign := if text.head? = some '-' then 1 else 0
  let whole := ((text.drop sign).takeWhile Char.isDigit).length
  if whole = 0 then
    none
  else
    match text.drop (sign + whole) with
    | '.' :: rest =>
        let fraction := (rest.takeWhile Char.isDigit).length
        some (sign + whole + if fraction = 0 then 0 else 1 + fraction)
    | _ => some (sign + whole)

def booleanSize? (text : List Char) : Option Nat :=
  (wordSize? "TRUE" endsValue text).or (wordSize? "FALSE" endsValue text)

def verbatim (kind : Token.Kind) (valueKind : Option Value.Kind) (text : List Char) (size : Nat) :
    Lexeme :=
  ⟨kind, valueKind, size, text.take size, true⟩

def sign? : List Char → Option Lexeme
  | '(' :: rest => some (verbatim .leftParen none ('(' :: rest) 1)
  | ')' :: rest => some (verbatim .rightParen none (')' :: rest) 1)
  | ',' :: rest => some (verbatim .comma none (',' :: rest) 1)
  | _ => none

def connective? (text : List Char) : Option Lexeme :=
  (connectiveSize? text).map (verbatim .connective none text)

def operator? (text : List Char) : Option Lexeme :=
  (operatorSize? text).map (verbatim .operator none text)

def field? (text : List Char) : Option Lexeme :=
  if text.head?.any isFieldStart then
    some (verbatim .field none text (text.takeWhile isFieldCharacter).length)
  else
    none

def quoted? : List Char → Option Lexeme
  | quote :: rest =>
      if quote = '"' || quote = '\'' then
        let quotation := Quotation.read quote rest
        some ⟨.value, some .string, quotation.size + 1, quotation.content, quotation.closed⟩
      else
        none
  | [] => none

def numeral? (text : List Char) : Option Lexeme :=
  ((numeralSize? text).filter fun size => endsAt endsValue (text.drop size)).map
    (verbatim .value (some .number) text)

def boolean? (text : List Char) : Option Lexeme :=
  (booleanSize? text).map (verbatim .value (some .boolean) text)

/-- The longest stretch without a character that ends a value or cannot be shown. -/
def bare? (text : List Char) : Option Lexeme :=
  let run := text.takeWhile fun character => !endsValue character && !isControl character
  if run.isEmpty then none else some (verbatim .value (some .string) text run.length)

def value? (text : List Char) : Option Lexeme :=
  (quoted? text).or <| (numeral? text).or <| (boolean? text).or (bare? text)

/-- The token at the front of a text that begins with no blank. Words are fields and connectives
only where a condition may begin. -/
def first? (mode : Mode) (text : List Char) : Option Lexeme :=
  let connective := if mode = .field then connective? text else none
  let field := if mode = .field then field? text else none
  (sign? text).or <| connective.or <| (operator? text).or <| field.or (value? text)

def nextMode (mode : Mode) (lexeme : Lexeme) : Mode :=
  match lexeme.kind with
  | .leftParen => if mode = .list then .item else .field
  | .rightParen => .field
  | .comma | .value => if mode = .item then .item else .field
  | .operator =>
      match Operator.ofSymbol? (String.ofList lexeme.text) with
      | some operator => if operator.takesList then .list else .value
      | none => .value
  | .field | .connective | .endOfInput => mode

end Lexeme

end FilterBox
