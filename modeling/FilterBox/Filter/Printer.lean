import FilterBox.Filter.Parser
import FilterBox.Lexeme

/-!
The canonical text of filters: both operands of `AND` and `OR` and the operand of `NOT` stand in
parentheses, and values are quoted where they would not read back as the same string.
-/

namespace FilterBox

open Text

namespace Value

/-- Whether a text would end early, or begin or spell something else, if it stood for a value
without quotes. -/
def needsQuotes (text : List Char) : Bool :=
  match text with
  | [] => true
  | first :: _ =>
      first = '"' || first = '\'' || first = '=' ||
      text.any (fun character =>
        Lexeme.endsValue character || isControl character || character = '"') ||
      Lexeme.numeralSize? text = some text.length ||
      spells "TRUE" text || spells "FALSE" text ||
      (text.all Lexeme.isFieldCharacter &&
        Connective.all.any fun connective => spells connective.keyword text)

mutual

def queryText : Value → String
  | .string text =>
      if needsQuotes text.toList then String.ofList (quoted text.toList) else text
  | .number amount => amount.text
  | .boolean flag => if flag then "true" else "false"
  | .list items => "(" ++ ", ".intercalate (itemQueryTexts items) ++ ")"

def itemQueryTexts : List Value → List String
  | [] => []
  | item :: items => item.queryText :: itemQueryTexts items

end

@[simp]
theorem itemQueryTexts_eq_map (items : List Value) :
    itemQueryTexts items = items.map queryText := by
  induction items with
  | nil => rfl
  | cons item items inductionHypothesis => simp [itemQueryTexts, inductionHypothesis]

end Value

def Condition.text (condition : Condition) : String :=
  condition.field ++ condition.operator.symbol ++ (if condition.operator.isWord then " " else "") ++
    condition.value.queryText

def Filter.text : Filter → String
  | .condition leaf => leaf.text
  | .conjunction left right => "(" ++ left.text ++ ") AND (" ++ right.text ++ ")"
  | .disjunction left right => "(" ++ left.text ++ ") OR (" ++ right.text ++ ")"
  | .negation operand => "NOT (" ++ operand.text ++ ")"

namespace Query

/-- The canonical text of a query, empty for a blank one. -/
def normalize (query : String) : Except SyntaxError String :=
  (parse query).map fun filter? => (filter?.map Filter.text).getD ""

end Query

end FilterBox
