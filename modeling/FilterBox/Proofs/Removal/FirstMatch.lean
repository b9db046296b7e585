import FilterBox.Proofs.Chip.Placement
import FilterBox.RemovalRequest

/-!
Removing a condition deletes exactly the first match.

`Filter.sweep` passes over all conditions from left to right with a mark that says whether a target
has been deleted, and rebuilds the tree on the way. It comes to the same as `Filter.without?`, which
looks for the target first (`Filter.sweep_eq`).
-/

namespace FilterBox

namespace Filter

section Sweep

variable (isTarget : Condition → Bool)

/-- Deletes the first target, unless one has been deleted already, and says whether one has been
deleted by now. -/
def sweep : Filter → Bool → Option Filter × Bool
  | .condition leaf, removed =>
      if !removed && isTarget leaf then (none, true) else (some (.condition leaf), removed)
  | .conjunction left right, removed =>
      let first := left.sweep removed
      let second := right.sweep first.2
      (join? .conjunction first.1 second.1, second.2)
  | .disjunction left right, removed =>
      let first := left.sweep removed
      let second := right.sweep first.2
      (join? .disjunction first.1 second.1, second.2)
  | .negation operand, removed =>
      let inner := operand.sweep removed
      (inner.1.map .negation, inner.2)

theorem sweep_of_removed (filter : Filter) : filter.sweep isTarget true = (some filter, true) := by
  induction filter with
  | condition leaf => simp [sweep]
  | conjunction left right leftHypothesis rightHypothesis
  | disjunction left right leftHypothesis rightHypothesis =>
      simp [sweep, leftHypothesis, rightHypothesis, join?]
  | negation operand inductionHypothesis => simp [sweep, inductionHypothesis]

/-- The pass with the mark deletes what the search finds, and the mark says whether it finds
anything. -/
theorem sweep_eq (filter : Filter) :
    filter.sweep isTarget false =
      (filter.prune isTarget, (filter.without? isTarget).isSome) := by
  unfold prune
  induction filter with
  | condition leaf =>
      by_cases target : isTarget leaf = true
      · simp [sweep, without?, target]
      · simp [sweep, without?, target]
  | conjunction left right leftHypothesis rightHypothesis
  | disjunction left right leftHypothesis rightHypothesis =>
      rw [sweep, leftHypothesis, without?]
      cases found : left.without? isTarget with
      | some rest => simp [sweep_of_removed]
      | none =>
          simp only [Option.isSome_none, rightHypothesis]
          cases right.without? isTarget <;> rfl
  | negation operand inductionHypothesis =>
      rw [sweep, inductionHypothesis, without?]
      cases operand.without? isTarget <;> rfl

variable {isTarget}

theorem sweep_of_absent {filter : Filter}
    (absent : ∀ leaf ∈ filter.conditions, isTarget leaf = false) :
    filter.sweep isTarget false = (some filter, false) := by
  rw [conditions_eq_leaves] at absent
  rw [sweep_eq, prune, without?_eq_none_iff.mpr absent]
  rfl

end Sweep

theorem length_leaves_without? {isTarget : Condition → Bool} {filter : Filter}
    {rest : Option Filter} (found : filter.without? isTarget = some rest) :
    ((rest.map leaves).getD []).length + 1 = filter.leaves.length := by
  obtain ⟨leaf, member, target⟩ := exists_without?_iff.mp ⟨rest, found⟩
  have positive := List.length_pos_of_mem member
  rw [leaves_without? found, List.length_eraseP_of_mem member target]
  omega

theorem text_ne_empty (filter : Filter) : filter.text ≠ "" := by
  intro empty
  have length := congrArg String.length empty
  cases filter with
  | condition leaf =>
      cases leaf with
      | mk field operator value span =>
          cases operator <;> simp [Filter.text, Condition.text, Operator.symbol] at length
  | conjunction left right => simp [Filter.text] at length
  | disjunction left right => simp [Filter.text] at length
  | negation operand => simp [Filter.text] at length

end Filter

namespace Query

theorem remove_of_parse {query : String} {filter : Filter} (read : parse query = .ok (some filter))
    (field : String) (operator : Operator) (value : Value) :
    remove query field operator value =
      match filter.without? (Condition.isFor field operator value) with
      | some rest => (rest.map Filter.text).getD ""
      | none => query := by
  cases found : filter.without? (Condition.isFor field operator value) <;>
    simp [remove, read, found]

section Match

variable {query : String} {filter : Filter} {field : String} {operator : Operator} {value : Value}

theorem remove_of_absent
    (absent : ∀ filter, parse query = .ok (some filter) →
      ∀ leaf ∈ filter.conditions, leaf.isFor field operator value = false) :
    remove query field operator value = query := by
  unfold remove
  split
  next filter read =>
    have leaves := absent filter read
    rw [Filter.conditions_eq_leaves] at leaves
    rw [Filter.without?_eq_none_iff.mpr leaves]
  next => rfl

theorem remove_of_present (read : parse query = .ok (some filter))
    (present : ∃ leaf ∈ filter.conditions, leaf.isFor field operator value = true) :
    (remove query field operator value = "" ↔ filter.conditions.length = 1) ∧
      (filter.conditions.length ≠ 1 → ∃ rest : Filter,
        remove query field operator value = rest.text ∧
          rest.conditions = filter.conditions.eraseP (Condition.isFor field operator value)) := by
  rw [Filter.conditions_eq_leaves] at present ⊢
  obtain ⟨rest?, found⟩ := Filter.exists_without?_iff.mpr present
  have length := Filter.length_leaves_without? found
  rw [remove_of_parse read, found]
  cases rest? with
  | none =>
      have single : filter.leaves.length = 1 := by simpa using length.symm
      simp [single]
  | some rest =>
      have positive := List.length_pos_iff.mpr rest.leaves_ne_nil
      have several : filter.leaves.length ≠ 1 := by
        simp only [Option.map_some, Option.getD_some] at length
        omega
      refine ⟨iff_of_false rest.text_ne_empty several, fun _ => ⟨rest, rfl, ?_⟩⟩
      rw [Filter.conditions_eq_leaves]
      exact Filter.leaves_without? found

end Match

/-- Removing a condition deletes exactly the first match. A query without a match stays as it is,
and so does a tree in the pass over it; an operator that does not exist matches nothing. -/
theorem remove_deletes_first :
    (∀ query field operator value,
      (∀ filter, parse query = .ok (some filter) →
        ∀ leaf ∈ filter.conditions, leaf.isFor field operator value = false) →
      remove query field operator value = query) ∧
    (∀ query filter field operator value, parse query = .ok (some filter) →
      (∃ leaf ∈ filter.conditions, leaf.isFor field operator value = true) →
      (remove query field operator value = "" ↔ filter.conditions.length = 1) ∧
      (filter.conditions.length ≠ 1 → ∃ rest : Filter,
        remove query field operator value = rest.text ∧
          rest.conditions = filter.conditions.eraseP (Condition.isFor field operator value))) ∧
    (∀ (isTarget : Condition → Bool) (filter : Filter),
      filter.sweep isTarget false =
          (filter.prune isTarget, (filter.without? isTarget).isSome) ∧
        ((∀ leaf ∈ filter.conditions, isTarget leaf = false) →
          filter.sweep isTarget false = (some filter, false))) ∧
    ∀ request : RemovalRequest, Operator.ofText? request.operator = none →
      request.apply = request.query := by
  refine ⟨?_, ?_, ?_, ?_⟩
  · intro query field operator value absent
    exact remove_of_absent absent
  · intro query filter field operator value read present
    exact remove_of_present read present
  · intro isTarget filter
    exact ⟨filter.sweep_eq isTarget, Filter.sweep_of_absent⟩
  · intro request unknown
    rw [RemovalRequest.apply, unknown]

/-- Of two equal conditions the first is deleted. A condition of another field, a query that is none
and an operator that does not exist leave the text alone. -/
theorem remove_deletes_first_twin :
    (∃ filter rest : Filter, parse "NOT a:x OR (b:y AND NOT a:x)" = .ok (some filter) ∧
      filter.conditions.length = 3 ∧
      remove "NOT a:x OR (b:y AND NOT a:x)" "a" .equals (.string "x") = rest.text ∧
      rest.conditions =
        filter.conditions.eraseP (Condition.isFor "a" .equals (.string "x"))) ∧
    remove "a:x )" "a" .equals (.string "x") = "a:x )" ∧
    (Filter.condition ⟨"b", .equals, .string "x", none⟩).sweep
        (Condition.isFor "a" .equals (.string "x")) false =
      (some (.condition ⟨"b", .equals, .string "x", none⟩), false) ∧
    RemovalRequest.apply ⟨"a:x", "a", "~", .string "x"⟩ = "a:x" := by
  refine ⟨?_, ?_, ?_, ?_⟩
  · obtain ⟨filter, read⟩ :=
      hasFilter_iff.mp (by decide +kernel : hasFilter "NOT a:x OR (b:y AND NOT a:x)" = true)
    have checked : (parse "NOT a:x OR (b:y AND NOT a:x)").toOption.join.any (fun filter =>
        filter.conditions.length = 3 &&
          filter.conditions.any (Condition.isFor "a" .equals (.string "x"))) = true := by
      rw [parse_eq_outcome]
      decide +kernel
    rw [read] at checked
    simp only [Except.toOption, Option.join_some, Option.any_some, Bool.and_eq_true,
      decide_eq_true_eq, List.any_eq_true] at checked
    obtain ⟨rest, removed, conditions⟩ :=
      (remove_deletes_first.2.1 _ filter _ _ _ read checked.2).2 (by simp [checked.1])
    exact ⟨filter, rest, read, checked.1, removed, conditions⟩
  · refine remove_deletes_first.1 _ _ _ _ fun filter read => ?_
    exact absurd (hasFilter_iff.mpr ⟨filter, read⟩) (by decide +kernel)
  · refine (remove_deletes_first.2.2.1 _ _).2 ?_
    simp [Filter.conditions_eq_leaves, Filter.leaves, Condition.isFor]
  · exact remove_deletes_first.2.2.2 _ (by decide)

end Query

end FilterBox
