import FilterBox.Operator
import FilterBox.Span
import FilterBox.Value

/-!
Filters: conditions joined by connectives.
-/

namespace FilterBox

/-- A comparison of a field with a value. The span tells where it was read from, if it was read. -/
structure Condition where
  field : String
  operator : Operator
  value : Value
  span : Option Span

namespace Condition

def equal (condition condition' : Condition) : Bool :=
  condition.field = condition'.field && condition.operator = condition'.operator &&
    condition.value.equal condition'.value

/-- Whether a request for this field, operator and value means the condition. -/
def isFor (field : String) (operator : Operator) (value : Value) (condition : Condition) : Bool :=
  condition.field = field && condition.operator = operator && condition.value.looselyEqual value

end Condition

inductive Filter
  | condition (leaf : Condition)
  | conjunction (left right : Filter)
  | disjunction (left right : Filter)
  | negation (operand : Filter)

namespace Filter

def connective? : Filter → Option Connective
  | .condition _ => none
  | .conjunction .. => some .and
  | .disjunction .. => some .or
  | .negation _ => some .not

def equal : Filter → Filter → Bool
  | .condition leaf, .condition leaf' => leaf.equal leaf'
  | .conjunction left right, .conjunction left' right' => left.equal left' && right.equal right'
  | .disjunction left right, .disjunction left' right' => left.equal left' && right.equal right'
  | .negation operand, .negation operand' => operand.equal operand'
  | _, _ => false

end Filter

end FilterBox
