import FilterBox.Proofs.Removal.FirstMatch
import Mathlib.Logic.Function.Basic
import Mathlib.Logic.Function.Iterate

/-!
Removing a condition makes it neutral.

A filter is read as a Boolean formula over its conditions, each of which is an occurrence of its
own: two equal conditions may have different truth values. What is left after a removal has the
truth value of the whole filter in which the removed condition decides nothing for the nearest `AND`
or `OR` above it.
-/

namespace FilterBox

/-- The truth values of the conditions behind the first ones. -/
def beyond (front : Nat) (truth : Nat → Bool) : Nat → Bool :=
  fun place => truth (front + place)

/-- The truth values of the conditions that are left when the one at a place is removed. -/
def passOver (place : Nat) (truth : Nat → Bool) : Nat → Bool :=
  fun other => truth (if other < place then other else other + 1)

namespace Filter

/-- The truth value of a filter, given those of its conditions, which are counted from the left. -/
def holds : Filter → (Nat → Bool) → Bool
  | .condition _, truth => truth 0
  | .conjunction left right, truth =>
      left.holds truth && right.holds (beyond left.leaves.length truth)
  | .disjunction left right, truth =>
      left.holds truth || right.holds (beyond left.leaves.length truth)
  | .negation operand, truth => !operand.holds truth

/-- The connectives above the condition at a place, the nearest one first. -/
def connectivesAbove : Filter → Nat → List Connective
  | .condition _, _ => []
  | .conjunction left right, place =>
      (if place < left.leaves.length then left.connectivesAbove place
        else right.connectivesAbove (place - left.leaves.length)) ++ [.and]
  | .disjunction left right, place =>
      (if place < left.leaves.length then left.connectivesAbove place
        else right.connectivesAbove (place - left.leaves.length)) ++ [.or]
  | .negation operand, place => operand.connectivesAbove place ++ [.not]

end Filter

/-- The truth value with which a condition decides nothing, given the connectives above it. A
condition below none but `NOT` decides all. -/
def neutral : List Connective → Bool
  | [] | .and :: _ => true
  | .or :: _ => false
  | .not :: above => !neutral above

theorem neutral_replicate_not (negations : Nat) {nearest : Connective} (binary : nearest ≠ .not)
    (outer : List Connective) :
    neutral (List.replicate negations .not ++ nearest :: outer) =
      Bool.not^[negations] (nearest = .and) := by
  induction negations with
  | zero => cases nearest <;> simp_all [neutral]
  | succ negations inductionHypothesis =>
      rw [Function.iterate_succ_apply', ← inductionHypothesis]
      rfl

section Places

variable {front place : Nat} {truth : Nat → Bool}

@[simp]
theorem beyond_zero (truth : Nat → Bool) : beyond 0 truth = truth := by
  funext place
  rw [beyond, Nat.zero_add]

theorem beyond_update_of_lt (before : place < front) (value : Bool) :
    beyond front (Function.update truth place value) = beyond front truth := by
  funext other
  exact Function.update_of_ne (by omega) ..

theorem beyond_passOver_of_lt {fewer : Nat} (shorter : fewer + 1 = front) (before : place < front) :
    beyond fewer (passOver place truth) = beyond front truth := by
  funext other
  have behind : ¬ fewer + other < place := by omega
  have moved : fewer + other + 1 = front + other := by omega
  simp only [beyond, passOver, if_neg behind, moved]

theorem beyond_update_add (value : Bool) :
    beyond front (Function.update truth (front + place) value) =
      Function.update (beyond front truth) place value := by
  funext other
  by_cases same : other = place
  · simp [beyond, same]
  · simp [beyond, same]

theorem beyond_passOver_add :
    beyond front (passOver (front + place) truth) = passOver place (beyond front truth) := by
  funext other
  simp only [beyond, passOver, Nat.add_lt_add_iff_left]
  split <;> rfl

end Places

namespace Filter

/-- Only the truth values of the conditions count. -/
theorem holds_congr {filter : Filter} {truth truth' : Nat → Bool}
    (agree : ∀ place < filter.leaves.length, truth place = truth' place) :
    filter.holds truth = filter.holds truth' := by
  induction filter generalizing truth truth' with
  | condition leaf => exact agree 0 (by simp [leaves])
  | conjunction left right leftHypothesis rightHypothesis
  | disjunction left right leftHypothesis rightHypothesis =>
      simp only [leaves, List.length_append] at agree
      have inRight : right.holds (beyond left.leaves.length truth) =
          right.holds (beyond left.leaves.length truth') :=
        rightHypothesis fun place inside => agree (left.leaves.length + place) (by omega)
      simp only [holds]
      rw [leftHypothesis fun place inside => agree place (by omega), inRight]
  | negation operand inductionHypothesis =>
      simp only [holds]
      rw [inductionHypothesis agree]

section Behind

variable {filter : Filter} {place : Nat} {truth : Nat → Bool}

theorem holds_update_of_le (behind : filter.leaves.length ≤ place) (value : Bool) :
    filter.holds (Function.update truth place value) = filter.holds truth :=
  holds_congr fun _ _ => Function.update_of_ne (by omega) ..

theorem holds_passOver_of_le (behind : filter.leaves.length ≤ place) :
    filter.holds (passOver place truth) = filter.holds truth :=
  holds_congr fun other _ => by
    have before : other < place := by omega
    simp only [passOver, if_pos before]

end Behind

section Removal

variable {isTarget : Condition → Bool}

theorem findIdx_lt_of_without? {filter : Filter} {rest : Option Filter}
    (found : filter.without? isTarget = some rest) :
    filter.leaves.findIdx isTarget < filter.leaves.length := by
  rw [List.findIdx_lt_length]
  exact exists_without?_iff.mp ⟨rest, found⟩

theorem findIdx_eq_zero_of_without? {filter : Filter}
    (found : filter.without? isTarget = some none) :
    filter.leaves.findIdx isTarget = 0 := by
  have inside := findIdx_lt_of_without? found
  have single : 0 + 1 = filter.leaves.length := length_leaves_without? found
  omega

theorem findIdx_append_left {left right : Filter} {rest : Option Filter}
    (found : left.without? isTarget = some rest) :
    (left.leaves ++ right.leaves).findIdx isTarget = left.leaves.findIdx isTarget := by
  rw [List.findIdx_append, if_pos (findIdx_lt_of_without? found)]

theorem findIdx_append_right {left right : Filter} (missing : left.without? isTarget = none) :
    (left.leaves ++ right.leaves).findIdx isTarget =
      left.leaves.length + right.leaves.findIdx isTarget := by
  have absent := without?_eq_none_iff.mp missing
  have nowhere : ¬ left.leaves.findIdx isTarget < left.leaves.length := by
    rw [List.findIdx_lt_length]
    rintro ⟨leaf, member, target⟩
    simp [absent leaf member] at target
  rw [List.findIdx_append, if_neg nowhere, Nat.add_comm]

theorem holds_of_without?_eq_none {filter : Filter} (found : filter.without? isTarget = some none)
    (outer : List Connective) {truth : Nat → Bool}
    (decided : truth 0 = neutral (filter.connectivesAbove 0 ++ outer)) :
    filter.holds truth = neutral outer := by
  induction filter generalizing outer with
  | condition leaf => exact decided
  | conjunction left right | disjunction left right =>
      -- The other operand is left.
      rcases withoutEither?_eq_some found with ⟨rest, _, joined⟩ | ⟨_, rest, _, joined⟩
      all_goals cases rest <;> simp [join?] at joined
  | negation operand inductionHypothesis =>
      simp only [without?, Option.map_eq_some_iff, Option.map_eq_none_iff] at found
      obtain ⟨_, operandFound, rfl⟩ := found
      rw [holds, inductionHypothesis operandFound (.not :: outer)
        (by simpa [connectivesAbove] using decided)]
      simp [neutral]

/-- What is left holds just when the filter holds with its first target made neutral, whatever
connectives stand above the filter. -/
theorem holds_of_without? {filter rest : Filter} {place : Nat}
    (found : filter.without? isTarget = some (some rest))
    (first : filter.leaves.findIdx isTarget = place) (outer : List Connective)
    (truth : Nat → Bool) :
    rest.holds (passOver place truth) =
      filter.holds (Function.update truth place
        (neutral (filter.connectivesAbove place ++ outer))) := by
  induction filter generalizing rest place outer truth with
  | condition leaf => simp [without?] at found
  | conjunction left right leftHypothesis rightHypothesis
  | disjunction left right leftHypothesis rightHypothesis =>
      simp only [holds, connectivesAbove, List.append_assoc, List.singleton_append]
      rcases withoutEither?_eq_some found with
        ⟨leftRest, search, joined⟩ | ⟨missing, rightRest, search, joined⟩
      · rw [leaves, findIdx_append_left search] at first
        have inside : place < left.leaves.length := first ▸ findIdx_lt_of_without? search
        rw [beyond_update_of_lt inside, if_pos inside,
          ← beyond_passOver_of_lt (length_leaves_without? search) inside]
        cases leftRest with
        | some survivor =>
            obtain rfl := Option.some.inj joined
            rw [← leftHypothesis search first]
            rfl
        | none =>
            obtain rfl := Option.some.inj joined
            obtain rfl : place = 0 := first.symm.trans (findIdx_eq_zero_of_without? search)
            rw [holds_of_without?_eq_none search _ (Function.update_self ..)]
            simp [neutral]
      · rw [leaves, findIdx_append_right missing] at first
        obtain ⟨inner, rfl⟩ : ∃ inner, place = left.leaves.length + inner := ⟨_, first.symm⟩
        have behind : left.leaves.length ≤ left.leaves.length + inner := Nat.le_add_right ..
        rw [beyond_update_add, holds_update_of_le behind, if_neg (Nat.not_lt.mpr behind),
          Nat.add_sub_cancel_left]
        replace first := Nat.add_left_cancel first
        cases rightRest with
        | some survivor =>
            obtain rfl := Option.some.inj joined
            rw [holds, holds_passOver_of_le behind, beyond_passOver_add,
              rightHypothesis search first]
        | none =>
            obtain rfl := Option.some.inj joined
            obtain rfl : inner = 0 := first.symm.trans (findIdx_eq_zero_of_without? search)
            rw [holds_of_without?_eq_none search _ (Function.update_self ..),
              holds_passOver_of_le behind]
            simp [neutral]
  | negation operand inductionHypothesis =>
      simp only [without?, Option.map_eq_some_iff] at found
      obtain ⟨operandRest, operandFound, survivor, rfl, rfl⟩ := found
      simp only [holds, connectivesAbove, List.append_assoc, List.singleton_append]
      rw [inductionHypothesis operandFound first (.not :: outer)]

theorem exists_mem_connectivesAbove {filter : Filter} (several : 2 ≤ filter.leaves.length)
    (place : Nat) : ∃ connective ∈ filter.connectivesAbove place, connective ≠ .not := by
  induction filter generalizing place with
  | condition leaf => simp [leaves] at several
  | conjunction left right => exact ⟨.and, by simp [connectivesAbove], by decide⟩
  | disjunction left right => exact ⟨.or, by simp [connectivesAbove], by decide⟩
  | negation operand inductionHypothesis =>
      obtain ⟨connective, member, binary⟩ := inductionHypothesis several place
      exact ⟨connective, by simp [connectivesAbove, member], binary⟩

end Removal

end Filter

/-- Among connectives that are not all `NOT`, some `NOT`s come before the first other one. -/
theorem Connective.exists_replicate_not {above : List Connective}
    (mixed : ∃ connective ∈ above, connective ≠ .not) :
    ∃ negations nearest outer, above = List.replicate negations .not ++ nearest :: outer ∧
      nearest ≠ .not := by
  induction above with
  | nil => simp at mixed
  | cons connective above inductionHypothesis =>
      by_cases negation : connective = .not
      · obtain ⟨negations, nearest, outer, rfl, binary⟩ :=
          inductionHypothesis (by simpa [negation] using mixed)
        exact ⟨negations + 1, nearest, outer, by simp [negation, List.replicate_succ], binary⟩
      · exact ⟨0, connective, above, rfl, negation⟩

namespace Filter

/-- Removing a condition means making it neutral: with several conditions something is left, and it
holds just when the filter holds with the first target set to the value that decides nothing for the
nearest `AND` or `OR` above it, with one change for each negation between the two. -/
theorem prune_neutral {filter : Filter} {isTarget : Condition → Bool}
    (several : 2 ≤ filter.conditions.length)
    (present : ∃ leaf ∈ filter.conditions, isTarget leaf = true) :
    ∃ rest place negations nearest outer,
      filter.prune isTarget = some rest ∧
        filter.conditions.findIdx isTarget = place ∧
        rest.conditions = filter.conditions.eraseIdx place ∧
        filter.connectivesAbove place = List.replicate negations .not ++ nearest :: outer ∧
        nearest ≠ .not ∧
        ∀ truth, rest.holds (passOver place truth) =
          filter.holds (Function.update truth place (Bool.not^[negations] (nearest = .and))) := by
  simp only [conditions_eq_leaves] at several present ⊢
  obtain ⟨rest?, found⟩ := exists_without?_iff.mpr present
  have remaining := leaves_without? found
  have length := length_leaves_without? found
  cases rest? with
  | none => simp at length; omega
  | some rest =>
      obtain ⟨negations, nearest, outer, above, binary⟩ := Connective.exists_replicate_not
        (exists_mem_connectivesAbove several (filter.leaves.findIdx isTarget))
      refine ⟨rest, _, negations, nearest, outer, by simp [prune, found], rfl, ?_, above, binary,
        fun truth => ?_⟩
      · have here := List.findIdx?_eq_some_iff_findIdx_eq.mpr ⟨findIdx_lt_of_without? found, rfl⟩
        simpa [List.eraseP_eq_eraseIdx, here] using remaining
      · have neutralValue := neutral_replicate_not negations binary outer
        rw [← neutralValue, ← above]
        simpa using holds_of_without? found rfl [] truth

/-- `NOT (a:x OR NOT NOT NOT b:y)` -/
def tripleNegation : Filter :=
  .negation (.disjunction (.condition ⟨"a", .equals, .string "x", none⟩)
    (.negation (.negation (.negation (.condition ⟨"b", .equals, .string "y", none⟩)))))

/-- Below three negations the value that decides nothing for `OR` is true. -/
theorem prune_neutral_tripleNegation :
    2 ≤ tripleNegation.conditions.length ∧
      (∃ leaf ∈ tripleNegation.conditions, leaf.isFor "b" .equals (.string "y") = true) ∧
      ∃ rest, tripleNegation.prune (Condition.isFor "b" .equals (.string "y")) = some rest ∧
        ∀ truth, rest.holds (passOver 1 truth) =
          tripleNegation.holds (Function.update truth 1 true) := by
  have several : 2 ≤ tripleNegation.conditions.length := by
    rw [conditions_eq_leaves]
    decide
  have present : ∃ leaf ∈ tripleNegation.conditions,
      leaf.isFor "b" .equals (.string "y") = true := by
    rw [conditions_eq_leaves]
    exact ⟨⟨"b", .equals, .string "y", none⟩, by simp [tripleNegation, leaves], by decide⟩
  obtain ⟨rest, place, negations, nearest, outer, pruned, first, _, above, binary, same⟩ :=
    prune_neutral several present
  obtain rfl : place = 1 := by
    rw [← first, conditions_eq_leaves]
    decide
  refine ⟨several, present, rest, pruned, fun truth => ?_⟩
  have value : neutral (tripleNegation.connectivesAbove 1) = true := by decide
  rw [same, ← neutral_replicate_not negations binary outer, ← above, value]

end Filter

end FilterBox
