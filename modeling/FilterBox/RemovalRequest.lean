import FilterBox.Filter.Removal
import FilterBox.Payload
import FilterBox.Text.Shown

/-!
Requests to remove a condition from a query, as they arrive in JSON.

A request is an object with the fields `query`, `field` and `operator`, all strings, and perhaps
`value`, or an array of the same four in this order.
-/

namespace FilterBox

open Text

/-- The operator is its name or its symbol, still to be read. -/
structure RemovalRequest where
  query : String
  field : String
  operator : String
  value : Json

namespace RemovalRequest

inductive Defect
  /-- A value stands where the request itself is expected. -/
  | notARequest (found : Json)
  | notAString (found : Json)
  | missing (field : String)
  | tooShort (length : Nat)
  | tooLong (length : Nat)

/-- The sort of a JSON value, with the value itself if it is a scalar. -/
def describe : Json → String
  | .null => "null"
  | .bool flag => s!"boolean `{flag}`"
  | .integer whole => s!"integer `{whole}`"
  | .number amount => "floating point `" ++ (Json.number amount).compact ++ "`"
  | .string text => "string " ++ shown text
  | .array _ => "sequence"
  | .object _ => "map"

def Defect.message : Defect → String
  | notARequest found =>
      s!"invalid type: {describe found}, expected struct RemoveConditionRequest"
  | notAString found => s!"invalid type: {describe found}, expected a string"
  | missing field => s!"missing field `{field}`"
  | tooShort length =>
      s!"invalid length {length}, expected struct RemoveConditionRequest with 4 elements"
  | tooLong length => s!"invalid length {length}, expected fewer elements in array"

def asString : Json → Except Defect String
  | .string text => .ok text
  | found => .error (.notAString found)

/-- The text fields are checked in the order of their names, wherever they stand, before any of them
is missed; fields of other names do not matter. -/
def ofFields (fields : List (String × Json)) : Except Defect RemovalRequest := do
  let field? ← (fields.lookup "field").mapM asString
  let operator? ← (fields.lookup "operator").mapM asString
  let query? ← (fields.lookup "query").mapM asString
  match query?, field?, operator? with
  | none, _, _ => .error (.missing "query")
  | _, none, _ => .error (.missing "field")
  | _, _, none => .error (.missing "operator")
  | some query, some field, some operator =>
      .ok ⟨query, field, operator, (fields.lookup "value").getD .null⟩

/-- The elements are checked from the first to the last. -/
def ofItems (items : List Json) : Except Defect RemovalRequest := do
  let texts ← (items.take 3).mapM asString
  match texts, items.drop 3 with
  | [query, field, operator], [] => .ok ⟨query, field, operator, .null⟩
  | [query, field, operator], [value] => .ok ⟨query, field, operator, value⟩
  | [_, _, _], _ => .error (.tooLong items.length)
  | _, _ => .error (.tooShort items.length)

def ofJson : Json → Except Defect RemovalRequest
  | .object fields => ofFields fields
  | .array items => ofItems items
  | found => .error (.notARequest found)

/-- The query without the condition; unchanged if there is no such operator. -/
def apply (request : RemovalRequest) : String :=
  match Operator.ofText? request.operator with
  | some operator =>
      Query.remove request.query request.field operator (Value.ofJson request.value)
  | none => request.query

end RemovalRequest

end FilterBox
