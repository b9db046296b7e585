import FilterBox.Number.Text

/-!
The values that conditions compare with.

Two notions of sameness are kept apart: `Value.equal` compares values of one kind, numbers as
numbers, and `Value.looselyEqual` compares the texts that stand for them.
-/

namespace FilterBox

/-- A list stands only to the right of an operator that takes one, and then holds scalars. -/
inductive Value
  | string (text : String)
  | number (amount : Number)
  | boolean (flag : Bool)
  | list (items : List Value)

namespace Value

inductive Kind
  | string
  | number
  | boolean
  deriving DecidableEq

def Kind.name : Kind → String
  | string => "string"
  | number => "number"
  | boolean => "boolean"

/-- A list is of the kind of its first item; an empty one counts as a string. -/
def kind : Value → Kind
  | .string _ => .string
  | .number _ => .number
  | .boolean _ => .boolean
  | .list [] => .string
  | .list (first :: _) => first.kind

def asString? : Value → Option String
  | .string text => some text
  | _ => none

def isList : Value → Bool
  | .list _ => true
  | _ => false

mutual

def text : Value → String
  | .string text => text
  | .number amount => amount.text
  | .boolean flag => if flag then "true" else "false"
  | .list items => "(" ++ ", ".intercalate (itemTexts items) ++ ")"

def itemTexts : List Value → List String
  | [] => []
  | item :: items => item.text :: itemTexts items

end

@[simp]
theorem itemTexts_eq_map (items : List Value) : itemTexts items = items.map text := by
  induction items with
  | nil => rfl
  | cons item items inductionHypothesis => simp [itemTexts, inductionHypothesis]

mutual

def equal : Value → Value → Bool
  | .string text, .string text' => text = text'
  | .number amount, .number amount' => amount.equal amount'
  | .boolean flag, .boolean flag' => flag = flag'
  | .list items, .list items' => equalItems items items'
  | _, _ => false

def equalItems : List Value → List Value → Bool
  | [], [] => true
  | item :: items, item' :: items' => item.equal item' && equalItems items items'
  | _, _ => false

end

/-- The same text; for lists as many items with pairwise the same texts, and a list is never the
same as a scalar. -/
def looselyEqual : Value → Value → Bool
  | .list items, .list items' => itemTexts items = itemTexts items'
  | .list _, _ => false
  | _, .list _ => false
  | value, value' => value.text = value'.text

@[simp]
theorem looselyEqual_list (items items' : List Value) :
    (list items).looselyEqual (list items') = true ↔ items.map text = items'.map text := by
  simp [looselyEqual]

end Value

end FilterBox
