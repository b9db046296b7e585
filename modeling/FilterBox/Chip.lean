import FilterBox.Filter.Leaves
import FilterBox.Filter.Printer
import FilterBox.Text.Offset

/-!
Chips: the conditions of a query with the places where they stand in its text.
-/

namespace FilterBox

open Text

structure Chip where
  field : String
  operator : Operator
  value : Value
  span : Span

namespace Chip

/-- The chip of a condition that stands somewhere in a text of the given length in bytes. -/
def ofCondition? (size : Nat) (condition : Condition) : Option Chip := do
  let span ← condition.span
  guard (!span.isEmpty && span.stop ≤ size)
  return ⟨condition.field, condition.operator, condition.value, span⟩

def text? (query : String) (chip : Chip) : Option String :=
  (slice? query.toList chip.span.start chip.span.stop).map String.ofList

def label (chip : Chip) : String :=
  Condition.text ⟨chip.field, chip.operator, chip.value, none⟩

end Chip

namespace Query

/-- The chips of a query in the order of the text; none if the query has no filter. -/
def chips (query : String) : List Chip :=
  match parse query with
  | .ok (some filter) =>
      (filter.conditions.filterMap (Chip.ofCondition? (byteLength query.toList))).mergeSort
        fun chip chip' => chip.span.start ≤ chip'.span.start
  | _ => []

/-- The text of the value that the query first asks of the field `service`, unless it is a list. -/
def service? (query : String) : Option String :=
  match parse query with
  | .ok (some filter) =>
      ((filter.find? "service").map Condition.value).bind fun value =>
        if value.isList then none else some value.text
  | _ => none

end Query

end FilterBox
