import FilterBox.Filter.Basic

/-!
Which conditions a request means.

Loose comparison sees the texts of scalars and, of a list, the texts of its items, so it divides all
values into classes. Two requests that differ mean different conditions.
-/

namespace FilterBox

namespace Value

/-- What loose comparison sees of a value: its text, or the texts of its items. -/
def likeness : Value → String ⊕ List String
  | .list items => .inr (items.map text)
  | value => .inl value.text

theorem looselyEqual_iff {value value' : Value} :
    value.looselyEqual value' = true ↔ value.likeness = value'.likeness := by
  cases value <;> cases value' <;> simp [looselyEqual, likeness]

theorem looselyEqual_self (value : Value) : value.looselyEqual value = true :=
  looselyEqual_iff.mpr rfl

theorem text_eq_of_looselyEqual {value value' : Value}
    (same : value.looselyEqual value' = true) : value.text = value'.text := by
  rw [looselyEqual_iff] at same
  cases value <;> cases value' <;> simp_all [likeness, text]

end Value

namespace Condition

theorem isFor_iff {field : String} {operator : Operator} {value : Value} {condition : Condition} :
    condition.isFor field operator value = true ↔
      condition.field = field ∧ condition.operator = operator ∧
        condition.value.likeness = value.likeness := by
  simp [isFor, Value.looselyEqual_iff, and_assoc]

theorem not_isFor_both {field field' : String} {operator operator' : Operator}
    {value value' : Value}
    (differ : field ≠ field' ∨ operator ≠ operator' ∨ value.looselyEqual value' = false)
    (condition : Condition) :
    ¬ (condition.isFor field operator value = true ∧
      condition.isFor field' operator' value' = true) := by
  simp only [isFor_iff]
  rintro ⟨⟨rfl, rfl, like⟩, rfl, rfl, like'⟩
  rw [← Bool.not_eq_true, Value.looselyEqual_iff, ← like, ← like'] at differ
  simp at differ

end Condition

end FilterBox
