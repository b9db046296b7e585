import FilterBox.Operator
import FilterBox.Span
import FilterBox.Value

/-!
Tokens of query text.
-/

namespace FilterBox

inductive Token.Kind
  | field
  | operator
  | value
  | connective
  | leftParen
  | rightParen
  | comma
  | endOfInput
  deriving DecidableEq

/-- A token as written at its span. The text of a quoted value is what stands between the quotes,
with escapes undone; any other text is the stretch of the query. -/
structure Token where
  kind : Token.Kind
  text : String
  valueKind : Option Value.Kind
  span : Span

namespace Token

def Kind.describe : Kind → String
  | field => "field"
  | operator => "operator"
  | value => "value"
  | connective => "logical operator"
  | leftParen => "'('"
  | rightParen => "')'"
  | comma => "','"
  | endOfInput => "end of input"

def final (offset : Nat) : Token :=
  ⟨.endOfInput, "", none, ⟨offset, offset⟩⟩

def connective? (token : Token) : Option Connective :=
  if token.kind = .connective then Connective.ofKeyword? token.text else none

/-- The operator that the token spells; unknown spellings compare for equality. -/
def operator (token : Token) : Operator :=
  (Operator.ofSymbol? token.text).getD .equals

/-- The value that the token stands for; a number that cannot be read stays a string. -/
def value (token : Token) : Value :=
  match token.valueKind with
  | some .number =>
      match Number.ofText? token.text with
      | some amount => .number amount
      | none => .string token.text
  | some .boolean => .boolean (Text.spells "TRUE" token.text.toList)
  | some .string | none => .string token.text

end Token

end FilterBox
