import FilterBox.Chip
import FilterBox.Json.Printer
import FilterBox.Query.Verdict

/-!
The JSON forms in which values, filters, tokens, verdicts and chips are exchanged.
-/

namespace FilterBox

open Text

namespace Number

/-- A whole number of moderate size goes out as an integer, any other finite one as it is, and what
has no JSON form as null. -/
def toJson (amount : Number) : Json :=
  match amount.toInteger? with
  | some whole => .integer whole
  | none => if amount.isFinite then .number amount else .null

end Number

namespace Value

mutual

def toJson : Value → Json
  | .string text => .string text
  | .number amount => amount.toJson
  | .boolean flag => .bool flag
  | .list items => .array (itemsToJson items)

def itemsToJson : List Value → List Json
  | [] => []
  | item :: items => item.toJson :: itemsToJson items

end

@[simp]
theorem itemsToJson_eq_map (items : List Value) : itemsToJson items = items.map toJson := by
  induction items with
  | nil => rfl
  | cons item items inductionHypothesis => simp [itemsToJson, inductionHypothesis]

mutual

/-- Null reads as the empty string, and an object as its own text. -/
def ofJson : Json → Value
  | .null => .string ""
  | .bool flag => .boolean flag
  | .integer whole => .number (.ofInt whole)
  | .number amount => .number amount
  | .string text => .string text
  | .array items => .list (itemsOfJson items)
  | .object fields => .string (Json.object fields).compact

def itemsOfJson : List Json → List Value
  | [] => []
  | item :: items => ofJson item :: itemsOfJson items

end

@[simp]
theorem itemsOfJson_eq_map (items : List Json) : itemsOfJson items = items.map ofJson := by
  induction items with
  | nil => rfl
  | cons item items inductionHypothesis => simp [itemsOfJson, inductionHypothesis]

end Value

def Condition.toJson (condition : Condition) : Json :=
  .object
    [("type", .string "comparison"),
      ("field", .string condition.field),
      ("operator", .string condition.operator.name),
      ("value", condition.value.toJson),
      ("valueKind", .string condition.value.kind.name)]

def Filter.toJson : Filter → Json
  | .condition leaf => leaf.toJson
  | .conjunction left right => binary .and left.toJson right.toJson
  | .disjunction left right => binary .or left.toJson right.toJson
  | .negation operand =>
      .object
        [("type", .string "logical"), ("operator", .string Connective.not.keyword),
          ("operand", operand.toJson)]
where
  binary (connective : Connective) (left right : Json) : Json :=
    .object
      [("type", .string "logical"), ("operator", .string connective.keyword), ("left", left),
        ("right", right)]

def Verdict.toJson (verdict : Verdict) : Json :=
  .object
    [("valid", .bool verdict.isAccepted), ("error", (verdict.message?.map .string).getD .null)]

def Token.Kind.name : Token.Kind → String
  | field => "field"
  | operator => "operator"
  | value => "value"
  | connective => "logicalOp"
  | leftParen => "lParen"
  | rightParen => "rParen"
  | comma => "comma"
  | endOfInput => "eof"

def Token.toJson (token : Token) : Json :=
  let valueKind := token.valueKind.map fun kind => ("valueKind", .string kind.name)
  .object
    ([("kind", .string token.kind.name), ("text", .string token.text)] ++ valueKind.toList ++
      [("start", .integer token.span.start), ("end", .integer token.span.stop)])

def Scan.toJson (scan : Scan) : Json :=
  .object
    [("tokens", .array (scan.tokens.map Token.toJson)),
      ("diagnostics", .array (scan.diagnostics.map fun diagnostic => .string diagnostic.message))]

/-- A chip as it is sent out, its place in UTF-16 code units. -/
structure Chip.Card where
  field : String
  operator : Operator
  value : Json
  valueKind : Value.Kind
  startIndex : Nat
  endIndex : Nat
  label : String

namespace Chip

def card (query : String) (chip : Chip) : Card :=
  { field := chip.field
    operator := chip.operator
    value := chip.value.toJson
    valueKind := chip.value.kind
    startIndex := unitOffset query.toList chip.span.start
    endIndex := unitOffset query.toList chip.span.stop
    label := chip.label }

def Card.toJson (card : Card) : Json :=
  .object
    [("field", .string card.field),
      ("operator", .string card.operator.name),
      ("value", card.value),
      ("valueKind", .string card.valueKind.name),
      ("startIndex", .integer card.startIndex),
      ("endIndex", .integer card.endIndex),
      ("label", .string card.label)]

end Chip

def Query.cards (query : String) : List Chip.Card :=
  (chips query).map (Chip.card query)

end FilterBox
