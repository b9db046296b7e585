import FilterBox.Proofs.Grammar.Derivation
import FilterBox.Proofs.Grammar.Run

/-!
Every derivation is followed by the machine.

From a state in which an operand may come, the tokens of a factor or an operand lead to the state in
which that operand is finished. The tokens of a product or an expression lead to a complete factor
whose level still holds what stands before it.
-/

namespace FilterBox.Grammar

open FilterBox.Parser

theorem Items.steps {tokens : List Token} {items : List Value} (derived : Items tokens items)
    (field : Token) (operator : Operator) (level : Level) (outer : List Level) :
    State.steps? ⟨.item field operator [], level, outer⟩ tokens =
      some ⟨.separator field operator items, level, outer⟩ := by
  induction derived with
  | one isValue => simp [State.step?, isValue]
  | more earlier isComma isValue inductionHypothesis =>
      rw [State.steps?_append_of_eq inductionHypothesis]
      simp [State.step?, isComma, isValue]

/-- Where the machine stands behind the tokens of a tree. -/
def Follows : Category → List Token → Filter → Prop
  | .expression, tokens, filter => ∀ outer : List Level, ∃ level factor,
      State.steps? ⟨.operand, .empty, outer⟩ tokens = some ⟨.complete factor, level, outer⟩ ∧
        level.expression factor = filter
  | .product, tokens, filter => ∀ (alternatives : Option Filter) (outer : List Level),
      ∃ factors factor,
        State.steps? ⟨.operand, ⟨alternatives, none, 0⟩, outer⟩ tokens =
          some ⟨.complete factor, ⟨alternatives, factors, 0⟩, outer⟩ ∧
        Level.product ⟨alternatives, factors, 0⟩ factor = filter
  | .factor, tokens, filter | .operand, tokens, filter =>
      ∀ (level : Level) (outer : List Level),
        State.steps? ⟨.operand, level, outer⟩ tokens =
          some (State.finish ⟨.operand, level, outer⟩ filter)

/-- The machine follows every derivation. -/
theorem Derives.follows {category : Category} {tokens : List Token} {filter : Filter}
    (derived : Derives category tokens filter) : Follows category tokens filter := by
  induction derived with
  | @disjunction left right mark first second _ isOr _ leftFollows rightFollows =>
      intro outer
      obtain ⟨level, factor, reached, whole⟩ := leftFollows outer
      obtain ⟨factors, later, reachedRight, product⟩ := rightFollows (some first) outer
      refine ⟨⟨some first, factors, 0⟩, later, ?_, ?_⟩
      · rw [State.steps?_append_of_eq reached]
        simpa [State.step?, isOr, whole] using reachedRight
      · simp only [Level.expression, product]
  | product _ follows =>
      intro outer
      obtain ⟨factors, factor, reached, product⟩ := follows none outer
      exact ⟨⟨none, factors, 0⟩, factor, reached, product⟩
  | @conjunction left right mark first second _ isAnd _ leftFollows rightFollows =>
      intro alternatives outer
      obtain ⟨factors, factor, reached, product⟩ := leftFollows alternatives outer
      refine ⟨some first, second, ?_, rfl⟩
      rw [State.steps?_append_of_eq reached]
      simp only [State.steps?_cons, State.step?, isAnd, product, Option.bind_some]
      exact rightFollows ⟨alternatives, some first, 0⟩ outer
  | @factor tokens filter _ follows =>
      intro alternatives outer
      exact ⟨none, filter, follows ⟨alternatives, none, 0⟩ outer, rfl⟩
  | @negation mark tokens filter isNot _ follows =>
      intro level outer
      have isConnective := Token.kind_of_connective? isNot
      -- The operand is reached with one more negation pending, which `finish` then applies.
      have reached := follows { level with negations := level.negations + 1 } outer
      simp only [State.steps?_cons, State.step?, isConnective, isNot, if_true, Option.bind_some,
        reached, State.finish, Level.negate_negation, Level.negate_succ]
  | operand _ follows => exact follows
  | @group opening closing tokens filter opens _ closes follows =>
      intro level outer
      -- Inside the parentheses the present level is one of the outer ones.
      obtain ⟨inner, factor, reached, whole⟩ := follows (level :: outer)
      have noConnective : closing.connective? = none := Token.connective?_eq_none (by simp [closes])
      rw [List.cons_append, State.steps?_cons]
      simp only [State.step?, opens, Option.bind_some]
      rw [State.steps?_append_of_eq reached]
      simp [State.step?, closes, noConnective, whole, State.finish]
  | comparison isField isOperator takesOne isValue =>
      intro level outer
      simp [State.step?, isField, isOperator, takesOne, isValue, State.finish]
  | membership isField isOperator takesList opens items closes =>
      intro level outer
      simp only [List.cons_append, State.steps?_cons, State.step?, isField, isOperator, takesList,
        opens, if_true, Option.bind_some]
      rw [State.steps?_append_of_eq (items.steps _ _ _ _)]
      simp [State.step?, closes, State.finish]

end FilterBox.Grammar
