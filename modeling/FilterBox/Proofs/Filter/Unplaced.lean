import FilterBox.Proofs.Printing.Readable

/-!
Filters without the places that they were read from.

Two filters that agree up to places have the same text, and are equal unless they hold something
that is not even equal to itself.
-/

namespace FilterBox

def Condition.unplaced (condition : Condition) : Condition :=
  { condition with span := none }

namespace Filter

def unplaced : Filter → Filter
  | .condition leaf => .condition leaf.unplaced
  | .conjunction left right => .conjunction left.unplaced right.unplaced
  | .disjunction left right => .disjunction left.unplaced right.unplaced
  | .negation operand => .negation operand.unplaced

@[simp]
theorem text_unplaced (filter : Filter) : filter.unplaced.text = filter.text := by
  induction filter with
  | condition leaf => rfl
  | conjunction left right leftHypothesis rightHypothesis =>
      simp only [unplaced, text, leftHypothesis, rightHypothesis]
  | disjunction left right leftHypothesis rightHypothesis =>
      simp only [unplaced, text, leftHypothesis, rightHypothesis]
  | negation operand inductionHypothesis => simp only [unplaced, text, inductionHypothesis]

@[simp]
theorem leaves_unplaced (filter : Filter) :
    filter.unplaced.leaves = filter.leaves.map Condition.unplaced := by
  induction filter with
  | condition leaf => rfl
  | conjunction left right leftHypothesis rightHypothesis =>
      simp [unplaced, leaves, leftHypothesis, rightHypothesis]
  | disjunction left right leftHypothesis rightHypothesis =>
      simp [unplaced, leaves, leftHypothesis, rightHypothesis]
  | negation operand inductionHypothesis => simpa [unplaced, leaves] using inductionHypothesis

theorem equal_unplaced (filter filter' : Filter) :
    filter.unplaced.equal filter'.unplaced = filter.equal filter' := by
  induction filter generalizing filter' with
  | condition leaf => cases filter' <;> rfl
  | conjunction left right leftHypothesis rightHypothesis =>
      cases filter' <;> simp [unplaced, equal, leftHypothesis, rightHypothesis]
  | disjunction left right leftHypothesis rightHypothesis =>
      cases filter' <;> simp [unplaced, equal, leftHypothesis, rightHypothesis]
  | negation operand inductionHypothesis =>
      cases filter' <;> simp [unplaced, equal, inductionHypothesis]

end Filter

theorem Number.equal_self {amount : Number} (finite : amount.isFinite = true) :
    amount.equal amount = true := by
  cases amount with
  | nan => simp [isFinite] at finite
  | signed negative magnitude => simp [equal]

namespace Value

theorem equal_self_of_isReadable {value : Value} (readable : value.isReadable = true) :
    value.equal value = true := by
  cases value with
  | string text => simp [equal]
  | number amount => exact Number.equal_self readable
  | boolean flag => simp [equal]
  | list items => simp [isReadable] at readable

theorem equalItems_self {items : List Value} (readable : ∀ item ∈ items, item.isReadable = true) :
    equalItems items items = true := by
  induction items with
  | nil => rfl
  | cons item items inductionHypothesis =>
      rw [List.forall_mem_cons] at readable
      simp [equalItems, equal_self_of_isReadable readable.1, inductionHypothesis readable.2]

theorem equal_self {value : Value} (readable : ∀ scalar ∈ value.scalars, scalar.isReadable = true) :
    value.equal value = true := by
  cases value with
  | list items =>
      rw [equal]
      exact equalItems_self readable
  | _ => exact equal_self_of_isReadable (readable _ List.mem_cons_self)

end Value

theorem Condition.equal_self {condition : Condition} (readable : condition.isReadable = true) :
    condition.equal condition = true := by
  simp only [isReadable, Bool.and_eq_true, List.all_eq_true] at readable
  simp [equal, Value.equal_self readable.1]

namespace Filter

theorem equal_self {filter : Filter}
    (readable : ∀ leaf ∈ filter.leaves, leaf.isReadable = true) : filter.equal filter = true := by
  induction filter with
  | condition leaf => exact Condition.equal_self (readable leaf (by simp [leaves]))
  | conjunction left right leftHypothesis rightHypothesis =>
      simp only [leaves, List.forall_mem_append] at readable
      simp [equal, leftHypothesis readable.1, rightHypothesis readable.2]
  | disjunction left right leftHypothesis rightHypothesis =>
      simp only [leaves, List.forall_mem_append] at readable
      simp [equal, leftHypothesis readable.1, rightHypothesis readable.2]
  | negation operand inductionHypothesis => exact inductionHypothesis readable

theorem equal_of_unplaced_eq {filter filter' : Filter}
    (same : filter'.unplaced = filter.unplaced)
    (readable : ∀ leaf ∈ filter.leaves, leaf.isReadable = true) : filter'.equal filter = true := by
  rw [← equal_unplaced, same, equal_unplaced]
  exact equal_self readable

theorem text_eq_of_unplaced_eq {filter filter' : Filter}
    (same : filter'.unplaced = filter.unplaced) : filter'.text = filter.text := by
  rw [← text_unplaced, same, text_unplaced]

end Filter

end FilterBox
