import FilterBox.Filter.Leaves
import FilterBox.Filter.Printer
import FilterBox.Query.Unfinished

/-!
The filters whose text reads back.

Quotes protect a string unless it ends in a backslash. They are left out where a string would still
be one token by itself; behind the colon of an equality such a string can be drawn into the
operator.
-/

namespace FilterBox

open Text

namespace Value

/-- What a condition compares its field with: the items of a list, or the one value. -/
def scalars : Value → List Value
  | .list items => items
  | value => [value]

theorem scalars_of_scalar {value : Value} (scalar : value.isList = false) :
    value.scalars = [value] := by
  cases value with
  | list items => simp [isList] at scalar
  | _ => rfl

/-- Whether a scalar, where only a value can stand, reads back as itself. -/
def isReadable : Value → Bool
  | .string text => !(needsQuotes text.toList && text.toList.getLast? = some '\\')
  | .number amount => amount.isFinite
  | .boolean _ => true
  | .list _ => false

/-- Whether a text without quotes begins with more of an operator when it follows a colon. -/
def beginsOperator (text : List Char) : Bool :=
  [">", "<", "!="].any (fun sign => sign.toList.isPrefixOf text) ||
    ["IN", "LIKE"].any fun word =>
      spells word (text.take word.length) && (text.drop word.length).head? = some '\''

/-- Whether a text, with nothing behind it, is the rest of an operator when it follows a colon. -/
def isOperatorWord (text : List Char) : Bool :=
  ["IN", "LIKE"].any fun word => spells word text

end Value

namespace Condition

/-- A field name, and a list of scalars, not empty, just under the operators that take one. -/
def isWellFormed (condition : Condition) : Bool :=
  Unfinished.isFieldName condition.field.toList &&
    match condition.value with
    | .list items =>
        condition.operator.takesList && !items.isEmpty && items.all fun item => !item.isList
    | _ => !condition.operator.takesList

/-- The text that follows a mere colon without quotes. -/
def bareText? (condition : Condition) : Option (List Char) :=
  match condition.operator, condition.value with
  | .equals, .string text => if Value.needsQuotes text.toList then none else some text.toList
  | _, _ => none

/-- Whether the condition reads back where something follows it. -/
def isReadable (condition : Condition) : Bool :=
  condition.value.scalars.all Value.isReadable && !condition.bareText?.any Value.beginsOperator

end Condition

namespace Filter

def isWellFormed (filter : Filter) : Bool :=
  filter.leaves.all Condition.isWellFormed

/-- Whether the filter is a single equality with a word that an operator could end in. -/
def isLoneWord : Filter → Bool
  | .condition leaf => leaf.bareText?.any Value.isOperatorWord
  | _ => false

def isReadable (filter : Filter) : Bool :=
  filter.leaves.all Condition.isReadable && !filter.isLoneWord

theorem isReadable_iff {filter : Filter} :
    filter.isReadable = true ↔
      (∀ leaf ∈ filter.leaves, leaf.isReadable = true) ∧ filter.isLoneWord = false := by
  simp [isReadable]

end Filter

end FilterBox
