import FilterBox.Proofs.Removal.FirstMatch
import FilterBox.Proofs.Removal.Matching

/-!
Removals of different conditions can be made in either order.

Both removals may meet the same connective, or one may take away a group or a negation in which the
other has its target. So what is removed from is taken to be what another removal has left, perhaps
nothing.
-/

namespace FilterBox

namespace Filter

section Pass

variable {isTarget : Condition → Bool}

/-- Whether there is a target in what is left of a filter. -/
def hasTarget (isTarget : Condition → Bool) (rest : Option Filter) : Bool :=
  ((rest.map leaves).getD []).any isTarget

theorem without?_eq_none_iff_hasTarget {filter : Filter} :
    filter.without? isTarget = none ↔ hasTarget isTarget (some filter) = false := by
  simp [without?_eq_none_iff, hasTarget]

theorem prune_of_absent {filter : Filter} (absent : hasTarget isTarget (some filter) = false) :
    filter.prune isTarget = some filter := by
  rw [prune, without?_eq_none_iff_hasTarget.mpr absent]
  rfl

theorem leaves_prune (isTarget : Condition → Bool) (filter : Filter) :
    ((filter.prune isTarget).map leaves).getD [] = filter.leaves.eraseP isTarget := by
  cases found : filter.without? isTarget with
  | some rest =>
      rw [prune, found]
      exact leaves_without? found
  | none =>
      have absent := without?_eq_none_iff.mp found
      rw [prune, found, List.eraseP_of_forall_not fun leaf member => by simp [absent leaf member]]
      rfl

@[simp]
theorem join?_none_left (combine : Filter → Filter → Filter) (right : Option Filter) :
    join? combine none right = right := by
  cases right <;> rfl

@[simp]
theorem join?_none_right (combine : Filter → Filter → Filter) (left : Option Filter) :
    join? combine left none = left := by
  cases left <;> rfl

/-- A removal from two operands, of which perhaps only one is left, takes place in the left one if
that has a target. -/
theorem bind_prune_join? {combine : Filter → Filter → Filter}
    (without?_combine : ∀ left right,
      (combine left right).without? isTarget = withoutEither? isTarget combine left right)
    (left right : Option Filter) :
    (join? combine left right).bind (prune isTarget) =
      if hasTarget isTarget left then join? combine (left.bind (prune isTarget)) right
      else join? combine left (right.bind (prune isTarget)) := by
  cases left with
  | none => simp [hasTarget]
  | some left =>
      cases leftFound : left.without? isTarget with
      | some rest =>
          have present : hasTarget isTarget (some left) = true := by
            rw [← Bool.not_eq_false, ← without?_eq_none_iff_hasTarget, leftFound]
            exact Option.some_ne_none rest
          rw [if_pos present]
          cases right with
          | none => simp
          | some right => simp [join?, prune, without?_combine, withoutEither?, leftFound]
      | none =>
          have absent := without?_eq_none_iff_hasTarget.mp leftFound
          rw [if_neg (by simp [absent])]
          cases right with
          | none => simp [prune_of_absent absent]
          | some right =>
              cases rightFound : right.without? isTarget <;>
                simp [join?, prune, without?_combine, withoutEither?, leftFound, rightFound]

end Pass

section Order

variable {isTarget isOther : Condition → Bool}

theorem hasTarget_bind_prune (apart : ∀ leaf, ¬ (isTarget leaf = true ∧ isOther leaf = true))
    (rest : Option Filter) :
    hasTarget isOther (rest.bind (prune isTarget)) = hasTarget isOther rest := by
  cases rest with
  | none => rfl
  | some filter =>
      rw [Bool.eq_iff_iff]
      simp only [hasTarget, Option.bind_some, leaves_prune, Option.map_some, Option.getD_some,
        List.any_eq_true]
      refine exists_congr fun leaf => and_congr_left fun other => ?_
      exact List.mem_eraseP_of_neg fun target => apart leaf ⟨target, other⟩

/-- Both removals from two operands, of which perhaps only one is left, commute if they do in each
operand. -/
theorem bind_prune_comm_join? {combine : Filter → Filter → Filter}
    (without?_combine : ∀ (isTarget : Condition → Bool) left right,
      (combine left right).without? isTarget = withoutEither? isTarget combine left right)
    (apart : ∀ leaf, ¬ (isTarget leaf = true ∧ isOther leaf = true)) (left right : Option Filter)
    (leftHypothesis : (left.bind (prune isTarget)).bind (prune isOther) =
      (left.bind (prune isOther)).bind (prune isTarget))
    (rightHypothesis : (right.bind (prune isTarget)).bind (prune isOther) =
      (right.bind (prune isOther)).bind (prune isTarget)) :
    ((join? combine left right).bind (prune isTarget)).bind (prune isOther) =
      ((join? combine left right).bind (prune isOther)).bind (prune isTarget) := by
  have prune_join? := fun isTarget => bind_prune_join? (without?_combine isTarget)
  have inRest := hasTarget_bind_prune apart left
  have inOtherRest := hasTarget_bind_prune (fun leaf both => apart leaf both.symm) left
  rw [prune_join?, prune_join?]
  by_cases first : hasTarget isTarget left = true
  · by_cases second : hasTarget isOther left = true
    · rw [if_pos first, if_pos second, prune_join?, prune_join?, inRest, inOtherRest, if_pos first,
        if_pos second, leftHypothesis]
    · rw [if_pos first, if_neg second, prune_join?, prune_join?, inRest, if_neg second,
        if_pos first]
  · by_cases second : hasTarget isOther left = true
    · rw [if_neg first, if_pos second, prune_join?, prune_join?, inOtherRest, if_neg first,
        if_pos second]
    · rw [if_neg first, if_neg second, prune_join?, prune_join?, if_neg first, if_neg second,
        rightHypothesis]

theorem prune_negation (isTarget : Condition → Bool) (operand : Filter) :
    (negation operand).prune isTarget = (operand.prune isTarget).map negation := by
  cases found : operand.without? isTarget <;> simp [prune, without?, found]

theorem bind_prune_negation (isTarget : Condition → Bool) (rest : Option Filter) :
    (rest.map negation).bind (prune isTarget) = (rest.bind (prune isTarget)).map negation := by
  cases rest with
  | none => rfl
  | some operand => exact prune_negation isTarget operand

/-- Removals without a common target commute. -/
theorem prune_comm (apart : ∀ leaf, ¬ (isTarget leaf = true ∧ isOther leaf = true))
    (filter : Filter) :
    (filter.prune isTarget).bind (prune isOther) =
    (filter.prune isOther).bind (prune isTarget) := by
  induction filter with
  | condition leaf =>
      by_cases target : isTarget leaf = true
      · have other : ¬ isOther leaf = true := fun other => apart leaf ⟨target, other⟩
        simp [prune, without?, target, other]
      · by_cases other : isOther leaf = true
        · simp [prune, without?, target, other]
        · simp [prune, without?, target, other]
  | conjunction left right leftHypothesis rightHypothesis =>
      exact bind_prune_comm_join? without?_conjunction apart (some left) (some right)
        leftHypothesis rightHypothesis
  | disjunction left right leftHypothesis rightHypothesis =>
      exact bind_prune_comm_join? without?_disjunction apart (some left) (some right)
        leftHypothesis rightHypothesis
  | negation operand inductionHypothesis =>
      rw [prune_negation, prune_negation, bind_prune_negation, bind_prune_negation,
        inductionHypothesis]

end Order

/-- Two requests that differ in field or operator, or whose values are not loosely equal, mean no
common condition, and what they leave of a filter does not depend on which of them comes first. A
request that means no condition of the filter leaves it as it is. -/
theorem different_removals_commute (filter : Filter) {field field' : String}
    {operator operator' : Operator} {value value' : Value}
    (differ : field ≠ field' ∨ operator ≠ operator' ∨ value.looselyEqual value' = false) :
    (∀ condition : Condition, ¬ (condition.isFor field operator value = true ∧
      condition.isFor field' operator' value' = true)) ∧
    (filter.prune (Condition.isFor field operator value)).bind
        (prune (Condition.isFor field' operator' value')) =
      (filter.prune (Condition.isFor field' operator' value')).bind
        (prune (Condition.isFor field operator value)) ∧
    ((∀ leaf ∈ filter.conditions, leaf.isFor field operator value = false) →
      filter.prune (Condition.isFor field operator value) = some filter) ∧
    ((∀ leaf ∈ filter.conditions, leaf.isFor field' operator' value' = false) →
      filter.prune (Condition.isFor field' operator' value') = some filter) := by
  have apart := Condition.not_isFor_both differ
  have identity : ∀ isTarget : Condition → Bool,
      (∀ leaf ∈ filter.conditions, isTarget leaf = false) →
        filter.prune isTarget = some filter := by
    intro isTarget absent
    apply prune_of_absent
    simpa [hasTarget, conditions_eq_leaves] using absent
  exact ⟨apart, prune_comm apart filter, identity _, identity _⟩

/-- `(NOT a:1 OR b:IN (x)) AND a:"1"` -/
def overlapping : Filter :=
  .conjunction
    (.disjunction (.negation (.condition ⟨"a", .equals, .number (.ofInt 1), some ⟨5, 8⟩⟩))
      (.condition ⟨"b", .inList, .list [.string "x"], some ⟨12, 20⟩⟩))
    (.condition ⟨"a", .equals, .string "1", some ⟨26, 31⟩⟩)

/-- Together the two removals take away the whole group. -/
theorem different_removals_commute_overlapping :
    ("a" ≠ "b" ∨ Operator.equals ≠ .inList ∨
        (Value.string "1").looselyEqual (.list [.string "x"]) = false) ∧
      (overlapping.prune (Condition.isFor "a" .equals (.string "1"))).bind
          (prune (Condition.isFor "b" .inList (.list [.string "x"]))) =
        some (.condition ⟨"a", .equals, .string "1", some ⟨26, 31⟩⟩) ∧
      (overlapping.prune (Condition.isFor "b" .inList (.list [.string "x"]))).bind
          (prune (Condition.isFor "a" .equals (.string "1"))) =
        some (.condition ⟨"a", .equals, .string "1", some ⟨26, 31⟩⟩) := by
  have differ : "a" ≠ "b" ∨ Operator.equals ≠ .inList ∨
      (Value.string "1").looselyEqual (.list [.string "x"]) = false := .inl (by decide)
  have sameText : (Number.ofInt 1).text = "1" := by decide +kernel
  have remaining : (overlapping.prune (Condition.isFor "a" .equals (.string "1"))).bind
      (prune (Condition.isFor "b" .inList (.list [.string "x"]))) =
        some (.condition ⟨"a", .equals, .string "1", some ⟨26, 31⟩⟩) := by
    simp [overlapping, prune, without?, Condition.isFor, Value.looselyEqual, Value.text, sameText,
      join?]
  exact ⟨differ, remaining, (different_removals_commute overlapping differ).2.1 ▸ remaining⟩

end Filter

end FilterBox
