import FilterBox.Filter.Leaves
import FilterBox.Filter.Printer

/-!
Removing one condition from a filter. A connective that loses an operand gives way to the other one.

`Filter.leaves_without?` says that exactly the first target is gone.
-/

namespace FilterBox

namespace Filter

def join? (combine : Filter → Filter → Filter) : Option Filter → Option Filter → Option Filter
  | some left, some right => some (combine left right)
  | some survivor, none | none, some survivor => some survivor
  | none, none => none

/-- The filter without its first condition that is a target, which may leave nothing. If there is no
such condition there is no result. -/
def without? (isTarget : Condition → Bool) : Filter → Option (Option Filter)
  | .condition leaf => if isTarget leaf then some none else none
  | .conjunction left right =>
      match left.without? isTarget with
      | some rest => some (join? .conjunction rest (some right))
      | none => (right.without? isTarget).map (join? .conjunction (some left))
  | .disjunction left right =>
      match left.without? isTarget with
      | some rest => some (join? .disjunction rest (some right))
      | none => (right.without? isTarget).map (join? .disjunction (some left))
  | .negation operand => (operand.without? isTarget).map (Option.map .negation)

/-- The filter without its first target, and unchanged if it has none. -/
def prune (isTarget : Condition → Bool) (filter : Filter) : Option Filter :=
  (filter.without? isTarget).getD (some filter)

theorem leaves_join? {combine : Filter → Filter → Filter}
    (leaves_combine : ∀ left right, (combine left right).leaves = left.leaves ++ right.leaves)
    (left right : Option Filter) :
    ((join? combine left right).map leaves).getD [] =
      (left.map leaves).getD [] ++ (right.map leaves).getD [] := by
  cases left <;> cases right <;> simp [join?, leaves_combine]

section Search

variable {isTarget : Condition → Bool}

/-- A removal from two joined operands takes place in the left one if that has a target. -/
def withoutEither? (isTarget : Condition → Bool) (combine : Filter → Filter → Filter)
    (left right : Filter) : Option (Option Filter) :=
  match left.without? isTarget with
  | some rest => some (join? combine rest (some right))
  | none => (right.without? isTarget).map (join? combine (some left))

theorem without?_conjunction (isTarget : Condition → Bool) (left right : Filter) :
    (conjunction left right).without? isTarget = withoutEither? isTarget .conjunction left right :=
  rfl

theorem without?_disjunction (isTarget : Condition → Bool) (left right : Filter) :
    (disjunction left right).without? isTarget = withoutEither? isTarget .disjunction left right :=
  rfl

theorem withoutEither?_eq_none_iff {combine : Filter → Filter → Filter} {left right : Filter} :
    withoutEither? isTarget combine left right = none ↔
      left.without? isTarget = none ∧ right.without? isTarget = none := by
  unfold withoutEither?
  cases left.without? isTarget <;> simp

theorem withoutEither?_eq_some {combine : Filter → Filter → Filter} {left right : Filter}
    {rest : Option Filter} (found : withoutEither? isTarget combine left right = some rest) :
    (∃ leftRest, left.without? isTarget = some leftRest ∧
        join? combine leftRest (some right) = rest) ∨
      left.without? isTarget = none ∧ ∃ rightRest, right.without? isTarget = some rightRest ∧
        join? combine (some left) rightRest = rest := by
  unfold withoutEither? at found
  cases search : left.without? isTarget with
  | some leftRest =>
      exact .inl ⟨leftRest, rfl, Option.some.inj (by simpa only [search] using found)⟩
  | none => exact .inr ⟨rfl, Option.map_eq_some_iff.mp (by simpa only [search] using found)⟩

theorem without?_eq_none_iff {filter : Filter} :
    filter.without? isTarget = none ↔ ∀ leaf ∈ filter.leaves, isTarget leaf = false := by
  induction filter with
  | condition leaf => simp [without?, leaves]
  | conjunction left right leftHypothesis rightHypothesis =>
      rw [without?_conjunction, withoutEither?_eq_none_iff, leftHypothesis, rightHypothesis, leaves,
        List.forall_mem_append]
  | disjunction left right leftHypothesis rightHypothesis =>
      rw [without?_disjunction, withoutEither?_eq_none_iff, leftHypothesis, rightHypothesis, leaves,
        List.forall_mem_append]
  | negation operand inductionHypothesis =>
      simpa [without?, leaves] using inductionHypothesis

theorem exists_without?_iff {filter : Filter} :
    (∃ rest, filter.without? isTarget = some rest) ↔
      ∃ leaf ∈ filter.leaves, isTarget leaf = true := by
  rw [← Option.ne_none_iff_exists', ne_eq, without?_eq_none_iff]
  simp

theorem leaves_withoutEither? {combine : Filter → Filter → Filter}
    (leaves_combine : ∀ left right, (combine left right).leaves = left.leaves ++ right.leaves)
    {left right : Filter} {rest : Option Filter}
    (leftHypothesis : ∀ {rest}, left.without? isTarget = some rest →
      (rest.map leaves).getD [] = left.leaves.eraseP isTarget)
    (rightHypothesis : ∀ {rest}, right.without? isTarget = some rest →
      (rest.map leaves).getD [] = right.leaves.eraseP isTarget)
    (found : withoutEither? isTarget combine left right = some rest) :
    (rest.map leaves).getD [] = (left.leaves ++ right.leaves).eraseP isTarget := by
  rcases withoutEither?_eq_some found with
    ⟨leftRest, search, rfl⟩ | ⟨missing, rightRest, search, rfl⟩
  · obtain ⟨leaf, member, target⟩ := exists_without?_iff.mp ⟨leftRest, search⟩
    rw [leaves_join? leaves_combine, leftHypothesis search, List.eraseP_append_left target _ member]
    rfl
  · have absent := without?_eq_none_iff.mp missing
    rw [leaves_join? leaves_combine, rightHypothesis search,
      List.eraseP_append_right _ fun leaf member => by simp [absent leaf member]]
    rfl

theorem leaves_without? {filter : Filter} {rest : Option Filter}
    (found : filter.without? isTarget = some rest) :
    (rest.map leaves).getD [] = filter.leaves.eraseP isTarget := by
  induction filter generalizing rest with
  | condition leaf =>
      by_cases target : isTarget leaf = true
      · simp only [without?, target, if_true, Option.some.injEq] at found
        simp [← found, leaves, target]
      · simp [without?, target] at found
  | conjunction left right leftHypothesis rightHypothesis
  | disjunction left right leftHypothesis rightHypothesis =>
      exact leaves_withoutEither? (fun _ _ => rfl) leftHypothesis rightHypothesis found
  | negation operand inductionHypothesis =>
      simp only [without?, Option.map_eq_some_iff] at found
      obtain ⟨operandRest, operandFound, rfl⟩ := found
      cases operandRest with
      | none => simpa [leaves] using inductionHypothesis operandFound
      | some survivor => simpa [leaves] using inductionHypothesis operandFound

end Search

end Filter

namespace Query

/-- The canonical text of a query without the first condition for a field, operator and value. A
query without such a condition, or without any filter, is left as it is. -/
def remove (query field : String) (operator : Operator) (value : Value) : String :=
  match parse query with
  | .ok (some filter) =>
      match filter.without? (Condition.isFor field operator value) with
      | some rest => (rest.map Filter.text).getD ""
      | none => query
  | _ => query

end Query

end FilterBox
