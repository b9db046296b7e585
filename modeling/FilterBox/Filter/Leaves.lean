import FilterBox.Filter.Basic

/-!
The conditions of a filter from left to right.

`Filter.leaves` lists them by recursion on the tree. A `Walk` meets them one at a time and keeps the
subtrees still to be visited; `Walk.remaining_next?` says that it meets exactly the leaves.
-/

namespace FilterBox

-- The sum of no numbers is the core zero, whatever instances are in reach.
attribute [local instance (high)] Zero.ofOfNat0

namespace Filter

def leaves : Filter → List Condition
  | .condition leaf => [leaf]
  | .conjunction left right => left.leaves ++ right.leaves
  | .disjunction left right => left.leaves ++ right.leaves
  | .negation operand => operand.leaves

def size : Filter → Nat
  | .condition _ => 1
  | .conjunction left right => left.size + right.size + 1
  | .disjunction left right => left.size + right.size + 1
  | .negation operand => operand.size + 1

theorem leaves_ne_nil (filter : Filter) : filter.leaves ≠ [] := by
  induction filter with
  | condition => simp [leaves]
  | conjunction left right leftHypothesis _ => simp [leaves, leftHypothesis]
  | disjunction left right leftHypothesis _ => simp [leaves, leftHypothesis]
  | negation operand inductionHypothesis => simpa [leaves] using inductionHypothesis

end Filter

/-- A visit of conditions under way: the subtrees not visited yet, the next one on top. -/
structure Walk where
  pending : List Filter

namespace Walk

def start (filter : Filter) : Walk :=
  ⟨[filter]⟩

def remaining (walk : Walk) : List Condition :=
  walk.pending.flatMap Filter.leaves

def size (walk : Walk) : Nat :=
  (walk.pending.map Filter.size).sum

def next? (walk : Walk) : Option (Condition × Walk) :=
  match walk with
  | ⟨[]⟩ => none
  | ⟨.condition leaf :: pending⟩ => some (leaf, ⟨pending⟩)
  | ⟨.conjunction left right :: pending⟩ => next? ⟨left :: right :: pending⟩
  | ⟨.disjunction left right :: pending⟩ => next? ⟨left :: right :: pending⟩
  | ⟨.negation operand :: pending⟩ => next? ⟨operand :: pending⟩
termination_by walk.size
decreasing_by
  all_goals
    simp only [size, Filter.size, List.map_cons, List.sum_cons]
    omega

theorem remaining_next? (walk : Walk) :
    walk.next?.map (fun (condition, rest) => (condition, rest.remaining)) =
      walk.remaining.head?.map fun condition => (condition, walk.remaining.tail) := by
  fun_induction next? walk with
  | case1 => rfl
  | case2 => simp [remaining, Filter.leaves]
  | case3 left right pending inductionHypothesis =>
      simpa [remaining, Filter.leaves] using inductionHypothesis
  | case4 left right pending inductionHypothesis =>
      simpa [remaining, Filter.leaves] using inductionHypothesis
  | case5 operand pending inductionHypothesis =>
      simpa [remaining, Filter.leaves] using inductionHypothesis

theorem size_next? {walk rest : Walk} {condition : Condition}
    (found : walk.next? = some (condition, rest)) : rest.size < walk.size := by
  fun_induction next? walk with
  | case1 => simp at found
  | case2 leaf pending =>
      obtain ⟨_, rfl⟩ : leaf = condition ∧ ⟨pending⟩ = rest := by simpa using found
      simp [size, Filter.size]
  | case3 left right pending inductionHypothesis =>
      have smaller := inductionHypothesis found
      simp only [size, Filter.size, List.map_cons, List.sum_cons] at smaller ⊢
      omega
  | case4 left right pending inductionHypothesis =>
      have smaller := inductionHypothesis found
      simp only [size, Filter.size, List.map_cons, List.sum_cons] at smaller ⊢
      omega
  | case5 operand pending inductionHypothesis =>
      have smaller := inductionHypothesis found
      simp only [size, Filter.size, List.map_cons, List.sum_cons] at smaller ⊢
      omega

def toList (walk : Walk) : List Condition :=
  match _found : walk.next? with
  | none => []
  | some (condition, rest) => condition :: rest.toList
termination_by walk.size
decreasing_by
  exact size_next? _found

/-- The first condition the walk meets that passes a test. -/
def find? (passes : Condition → Bool) (walk : Walk) : Option Condition :=
  match _found : walk.next? with
  | none => none
  | some (condition, rest) => if passes condition then some condition else rest.find? passes
termination_by walk.size
decreasing_by
  exact size_next? _found

end Walk

namespace Filter

def conditions (filter : Filter) : List Condition :=
  (Walk.start filter).toList

def find? (field : String) (filter : Filter) : Option Condition :=
  (Walk.start filter).find? fun condition => condition.field = field

end Filter

end FilterBox
