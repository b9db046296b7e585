import FilterBox.Value

/-!
The numbers in a value, in lists of any nesting.
-/

namespace FilterBox.Value

mutual

/-- All numbers in the value, from left to right. -/
def numbers : Value → List Number
  | .number amount => [amount]
  | .list items => itemNumbers items
  | _ => []

def itemNumbers : List Value → List Number
  | [] => []
  | item :: items => item.numbers ++ itemNumbers items

end

@[simp]
theorem numbers_number (amount : Number) : numbers (.number amount) = [amount] := by
  rw [numbers]

@[simp]
theorem numbers_string (text : String) : numbers (.string text) = [] := by
  simp [numbers]

@[simp]
theorem numbers_boolean (flag : Bool) : numbers (.boolean flag) = [] := by
  simp [numbers]

@[simp]
theorem numbers_list (items : List Value) : numbers (.list items) = items.flatMap numbers := by
  rw [numbers]
  induction items with
  | nil => rfl
  | cons item items inductionHypothesis => simp [itemNumbers, inductionHypothesis]

@[elab_as_elim]
theorem nestingInduction {motive : Value → Prop} (string : ∀ text, motive (.string text))
    (number : ∀ amount, motive (.number amount)) (boolean : ∀ flag, motive (.boolean flag))
    (list : ∀ items, (∀ item ∈ items, motive item) → motive (.list items)) (value : Value) :
    motive value :=
  match value with
  | .string text => string text
  | .number amount => number amount
  | .boolean flag => boolean flag
  | .list items => list items fun item _ => nestingInduction string number boolean list item

end FilterBox.Value
