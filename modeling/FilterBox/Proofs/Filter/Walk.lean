import FilterBox.Filter.Leaves

/-!
Walks meet the conditions of a filter from left to right.

A walk goes on turn by turn. Each turn takes one node away from what is pending (`Turns.size`),
although the pile of subtrees may grow, so a walk is over after as many turns as the filter has
nodes. What has been met and what remains are always together the leaves of the filter
(`Passes.remaining`).
-/

namespace FilterBox

-- The sum of no numbers is the core zero, whatever instances are in reach.
attribute [local instance (high)] Zero.ofOfNat0

namespace Walk

/-- One turn: the subtree on top is a condition and is met, or its operands take its place. -/
inductive Turns : Walk → List Condition → Walk → Prop where
  | condition {leaf : Condition} {pending : List Filter} :
      Turns ⟨.condition leaf :: pending⟩ [leaf] ⟨pending⟩
  | conjunction {left right : Filter} {pending : List Filter} :
      Turns ⟨.conjunction left right :: pending⟩ [] ⟨left :: right :: pending⟩
  | disjunction {left right : Filter} {pending : List Filter} :
      Turns ⟨.disjunction left right :: pending⟩ [] ⟨left :: right :: pending⟩
  | negation {operand : Filter} {pending : List Filter} :
      Turns ⟨.negation operand :: pending⟩ [] ⟨operand :: pending⟩

/-- A number of turns, with the conditions that are met on them. -/
inductive Passes : Nat → Walk → List Condition → Walk → Prop where
  | still {walk : Walk} :
      Passes 0 walk [] walk
  | turn {turns : Nat} {walk next final : Walk} {met later : List Condition} :
      Turns walk met next →
      Passes turns next later final →
      Passes (turns + 1) walk (met ++ later) final

section Turn

variable {walk next : Walk} {met : List Condition}

theorem Turns.remaining (turn : Turns walk met next) :
    walk.remaining = met ++ next.remaining := by
  cases turn with
  | condition => rfl
  | conjunction => simp [Walk.remaining, Filter.leaves]
  | disjunction => simp [Walk.remaining, Filter.leaves]
  | negation => rfl

theorem Turns.size (turn : Turns walk met next) : walk.size = next.size + 1 := by
  cases turn with
  | condition => simp only [Walk.size, Filter.size, List.map_cons, List.sum_cons]; omega
  | conjunction => simp only [Walk.size, Filter.size, List.map_cons, List.sum_cons]; omega
  | disjunction => simp only [Walk.size, Filter.size, List.map_cons, List.sum_cons]; omega
  | negation => simp only [Walk.size, Filter.size, List.map_cons, List.sum_cons]; omega

end Turn

section Pass

variable {turns turns' : Nat} {walk middle final : Walk} {met later : List Condition}

theorem Turns.passes (turn : Turns walk met final) : Passes 1 walk met final := by
  simpa using Passes.turn turn .still

theorem Turns.follow (turn : Turns walk [] middle) (passes : Passes turns middle met final) :
    Passes (turns + 1) walk met final := by
  simpa using Passes.turn turn passes

theorem Passes.append (first : Passes turns walk met middle)
    (second : Passes turns' middle later final) :
    Passes (turns + turns') walk (met ++ later) final := by
  induction first with
  | still => simpa using second
  | turn turn _ inductionHypothesis =>
      rw [List.append_assoc, Nat.succ_add]
      exact .turn turn (inductionHypothesis second)

theorem Passes.remaining (passes : Passes turns walk met final) :
    walk.remaining = met ++ final.remaining := by
  induction passes with
  | still => rfl
  | turn turn _ inductionHypothesis => rw [turn.remaining, inductionHypothesis, List.append_assoc]

theorem Passes.size (passes : Passes turns walk met final) : walk.size = turns + final.size := by
  induction passes with
  | still => simp
  | turn turn _ inductionHypothesis =>
      rw [turn.size, inductionHypothesis]
      omega

end Pass

theorem passes_subtree (filter : Filter) (pending : List Filter) :
    Passes filter.size ⟨filter :: pending⟩ filter.leaves ⟨pending⟩ := by
  induction filter generalizing pending with
  | condition leaf => exact Turns.condition.passes
  | conjunction left right leftHypothesis rightHypothesis =>
      exact Turns.conjunction.follow ((leftHypothesis _).append (rightHypothesis _))
  | disjunction left right leftHypothesis rightHypothesis =>
      exact Turns.disjunction.follow ((leftHypothesis _).append (rightHypothesis _))
  | negation operand inductionHypothesis => exact Turns.negation.follow (inductionHypothesis _)

theorem exists_passes_of_next? {walk rest : Walk} {condition : Condition}
    (found : walk.next? = some (condition, rest)) :
    ∃ turns, Passes turns walk [condition] rest := by
  fun_induction next? walk with
  | case1 => simp at found
  | case2 leaf pending =>
      obtain ⟨rfl, rfl⟩ : leaf = condition ∧ ⟨pending⟩ = rest := by simpa using found
      exact ⟨1, Turns.condition.passes⟩
  | case3 left right pending inductionHypothesis =>
      obtain ⟨turns, passes⟩ := inductionHypothesis found
      exact ⟨turns + 1, Turns.conjunction.follow passes⟩
  | case4 left right pending inductionHypothesis =>
      obtain ⟨turns, passes⟩ := inductionHypothesis found
      exact ⟨turns + 1, Turns.disjunction.follow passes⟩
  | case5 operand pending inductionHypothesis =>
      obtain ⟨turns, passes⟩ := inductionHypothesis found
      exact ⟨turns + 1, Turns.negation.follow passes⟩

theorem next?_eq_none_iff {walk : Walk} : walk.next? = none ↔ walk.remaining = [] := by
  have head := walk.remaining_next?
  rw [← Option.map_eq_none_iff, head, Option.map_eq_none_iff, List.head?_eq_none_iff]

theorem remaining_eq_nil_iff {walk : Walk} : walk.remaining = [] ↔ walk.pending = [] := by
  obtain ⟨pending⟩ := walk
  cases pending with
  | nil => simp [remaining]
  | cons filter pending => simp [remaining, filter.leaves_ne_nil]

theorem toList_eq_remaining (walk : Walk) : walk.toList = walk.remaining := by
  fun_induction toList walk with
  | case1 walk ended => exact (next?_eq_none_iff.mp ended).symm
  | case2 walk condition rest found inductionHypothesis =>
      obtain ⟨turns, passes⟩ := exists_passes_of_next? found
      rw [inductionHypothesis, passes.remaining]
      rfl

theorem find?_eq (passes : Condition → Bool) (walk : Walk) :
    walk.find? passes = walk.toList.find? passes := by
  fun_induction find? passes walk with
  | case1 walk ended =>
      rw [toList.eq_def, ended]
      rfl
  | case2 walk condition rest found passed =>
      rw [toList.eq_def, found]
      simp [passed]
  | case3 walk condition rest found failed inductionHypothesis =>
      rw [toList.eq_def, found]
      simp [failed, inductionHypothesis]

end Walk

namespace Filter

open Walk

theorem conditions_eq_leaves (filter : Filter) : filter.conditions = filter.leaves := by
  rw [conditions, toList_eq_remaining]
  simp [start, remaining]

theorem exists_mem_conditions (filter : Filter) : ∃ leaf, leaf ∈ filter.conditions := by
  rw [conditions_eq_leaves]
  exact List.exists_mem_of_ne_nil _ filter.leaves_ne_nil

theorem find?_eq (field : String) (filter : Filter) :
    filter.find? field = filter.conditions.find? fun condition => condition.field = field :=
  Walk.find?_eq ..

@[simp]
theorem remaining_start (filter : Filter) : (start filter).remaining = filter.leaves := by
  simp [start, remaining]

@[simp]
theorem size_start (filter : Filter) : (start filter).size = filter.size := by
  simp [start, Walk.size]

/-- A walk through a filter is over after as many turns as the filter has nodes, and has then met
the leaves, each as often as it occurs. Wherever the walk stands, the leaves of the pending subtrees
from the top down are still to come. The search for a field finds the first leaf on that field. -/
theorem walk_visits_leaves (filter : Filter) :
    Passes filter.size (start filter) filter.leaves ⟨[]⟩ ∧
    filter.conditions = filter.leaves ∧
    (∀ turns met walk, Passes turns (start filter) met walk →
      turns + walk.size = filter.size ∧
      walk.toList = walk.pending.flatMap leaves ∧
      met ++ walk.toList = filter.leaves ∧
      (walk.next? = none ↔ walk.pending = []) ∧
      ∀ leaf rest, walk.next? = some (leaf, rest) →
        ∃ more, Passes (turns + more) (start filter) (met ++ [leaf]) rest) ∧
    ∀ field : String, filter.find? field = filter.leaves.find? fun leaf => leaf.field = field := by
  refine ⟨passes_subtree filter [], conditions_eq_leaves filter, ?_, fun field => ?_⟩
  · intro turns met walk passes
    have size := passes.size
    have whole := passes.remaining
    rw [size_start] at size
    rw [remaining_start] at whole
    refine ⟨size.symm, toList_eq_remaining walk, ?_, ?_, fun leaf rest found => ?_⟩
    · rw [toList_eq_remaining, whole]
    · rw [next?_eq_none_iff, remaining_eq_nil_iff]
    · obtain ⟨more, onward⟩ := exists_passes_of_next? found
      exact ⟨more, passes.append onward⟩
  · rw [find?_eq, conditions_eq_leaves]

/-- `(a:x AND NOT b:y) OR a:x`. -/
def repeated : Filter :=
  .disjunction
    (.conjunction (.condition ⟨"a", .equals, .string "x", none⟩)
      (.negation (.condition ⟨"b", .equals, .string "y", none⟩)))
    (.condition ⟨"a", .equals, .string "x", none⟩)

/-- After three turns one condition is met, and the same condition is still to come a second
time. -/
theorem walk_visits_leaves_repeated :
    ∃ walk, Passes 3 (start repeated) [⟨"a", .equals, .string "x", none⟩] walk ∧
      3 + walk.size = repeated.size ∧
      walk.toList = [⟨"b", .equals, .string "y", none⟩, ⟨"a", .equals, .string "x", none⟩] := by
  have passes : Passes 3 (start repeated) [⟨"a", .equals, .string "x", none⟩] ⟨_⟩ :=
    Turns.disjunction.follow (Turns.conjunction.follow Turns.condition.passes)
  obtain ⟨size, toCome, _⟩ := (walk_visits_leaves repeated).2.2.1 _ _ _ passes
  exact ⟨_, passes, size, toCome⟩

end Filter

end FilterBox
