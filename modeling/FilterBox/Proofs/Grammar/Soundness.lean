import FilterBox.Proofs.Grammar.Derivation
import FilterBox.Proofs.Grammar.Transition

/-!
Every run of the machine has a derivation behind it.

The invariant relates a state to the tokens taken so far: they fall into the unfinished expressions
of the outer levels, each before an opening parenthesis, what the present level holds, and what the
stage has seen of the present operand.
-/

namespace FilterBox.Grammar

open FilterBox.Parser

/-- The tokens that a level stands for: an expression before an `OR`, a product before an `AND`, and
`NOT`s. -/
inductive Pending : Level → List Token → Prop where
  | empty :
      Pending .empty []
  | disjunction {tokens : List Token} {filter : Filter} {mark : Token} :
      Derives .expression tokens filter →
      mark.connective? = some .or →
      Pending ⟨some filter, none, 0⟩ (tokens ++ [mark])
  | conjunction {alternatives : Option Filter} {before tokens : List Token} {filter : Filter}
      {mark : Token} :
      Pending ⟨alternatives, none, 0⟩ before →
      Derives .product tokens filter →
      mark.connective? = some .and →
      Pending ⟨alternatives, some filter, 0⟩ (before ++ (tokens ++ [mark]))
  | negation {alternatives factors : Option Filter} {negations : Nat} {before : List Token}
      {mark : Token} :
      Pending ⟨alternatives, factors, negations⟩ before →
      mark.connective? = some .not →
      Pending ⟨alternatives, factors, negations + 1⟩ (before ++ [mark])

/-- The tokens that the outer levels stand for. -/
inductive Enclosing : List Level → List Token → Prop where
  | nil :
      Enclosing [] []
  | cons {level : Level} {outer : List Level} {before tokens : List Token} {opening : Token} :
      Enclosing outer before →
      Pending level tokens →
      opening.kind = .leftParen →
      Enclosing (level :: outer) (before ++ (tokens ++ [opening]))

/-- The beginning of a condition up to its operator. -/
def Heads (field : Token) (operator : Operator) (tokens : List Token) : Prop :=
  ∃ mark : Token, tokens = [field, mark] ∧ field.kind = .field ∧ mark.kind = .operator ∧
    mark.operator = operator

/-- What the stage has seen of the present operand. -/
def Seen : Stage → List Token → Prop
  | .operand, tokens => tokens = []
  | .operator field, tokens => tokens = [field] ∧ field.kind = .field
  | .value field operator, tokens => Heads field operator tokens ∧ operator.takesList = false
  | .list field operator, tokens => Heads field operator tokens ∧ operator.takesList = true
  | .item field operator items, tokens =>
      ∃ head opening inner, tokens = head ++ opening :: inner ∧ Heads field operator head ∧
        operator.takesList = true ∧ opening.kind = .leftParen ∧
        ((items = [] ∧ inner = []) ∨
          ∃ earlier comma, inner = earlier ++ [comma] ∧ Items earlier items ∧ comma.kind = .comma)
  | .separator field operator items, tokens =>
      ∃ head opening inner, tokens = head ++ opening :: inner ∧ Heads field operator head ∧
        operator.takesList = true ∧ opening.kind = .leftParen ∧ Items inner items
  | .complete filter, tokens => Derives .factor tokens filter

/-- The tokens that have led to a state. -/
def Consumed (state : State) (tokens : List Token) : Prop :=
  ∃ before middle present, tokens = before ++ (middle ++ present) ∧
    Enclosing state.outer before ∧ Pending state.level middle ∧ Seen state.stage present ∧
    ∀ filter, state.stage = .complete filter → state.level.negations = 0

theorem Pending.negate {level : Level} {before tokens : List Token} {filter : Filter}
    (pending : Pending level before) (derived : Derives .factor tokens filter) :
    ∃ before' tokens', before ++ tokens = before' ++ tokens' ∧
      Pending { level with negations := 0 } before' ∧
      Derives .factor tokens' (level.negate filter) := by
  induction pending generalizing tokens filter with
  | empty => exact ⟨[], tokens, rfl, .empty, derived⟩
  | disjunction alternatives isOr => exact ⟨_, tokens, rfl, .disjunction alternatives isOr, derived⟩
  | conjunction pending factors isAnd _ =>
      exact ⟨_, tokens, rfl, .conjunction pending factors isAnd, derived⟩
  | negation _ isNot inductionHypothesis =>
      obtain ⟨before', tokens', same, pending, negated⟩ :=
        inductionHypothesis (.negation isNot derived)
      refine ⟨before', tokens', by simpa using same, pending, ?_⟩
      rwa [Level.negate_negation] at negated

theorem Pending.product {level : Level} {before tokens : List Token} {filter : Filter}
    (pending : Pending level before) (settled : level.negations = 0)
    (derived : Derives .factor tokens filter) :
    ∃ before' tokens', before ++ tokens = before' ++ tokens' ∧
      Pending ⟨level.alternatives, none, 0⟩ before' ∧
      Derives .product tokens' (level.product filter) := by
  cases pending with
  | empty => exact ⟨[], tokens, rfl, .empty, .factor derived⟩
  | disjunction alternatives isOr =>
      exact ⟨_, tokens, rfl, .disjunction alternatives isOr, .factor derived⟩
  | @conjunction alternatives before earlier factors mark pending product isAnd =>
      refine ⟨before, earlier ++ mark :: tokens, by simp, pending, ?_⟩
      exact .conjunction product isAnd derived
  | negation => simp at settled

theorem Pending.expression {level : Level} {before tokens : List Token} {filter : Filter}
    (pending : Pending level before) (settled : level.negations = 0)
    (derived : Derives .factor tokens filter) :
    Derives .expression (before ++ tokens) (level.expression filter) := by
  obtain ⟨before', tokens', same, alternatives, product⟩ := pending.product settled derived
  rw [same]
  obtain ⟨alternatives?, factors?, negations⟩ := level
  cases alternatives with
  | empty => exact .product product
  | @disjunction earlier filter mark expression isOr =>
      rw [List.append_assoc, List.singleton_append]
      exact .disjunction expression isOr product

theorem Consumed.finish (state : State) {before middle tokens : List Token} {filter : Filter}
    (enclosing : Enclosing state.outer before) (pending : Pending state.level middle)
    (derived : Derives .operand tokens filter) :
    Consumed (state.finish filter) (before ++ (middle ++ tokens)) := by
  obtain ⟨middle', tokens', same, settled, factor⟩ := pending.negate (.operand derived)
  exact ⟨before, middle', tokens', by rw [same], enclosing, settled, factor, fun _ _ => rfl⟩

theorem Consumed.advance {level : Level} {outer : List Level} {before middle present : List Token}
    {stage : Stage} (enclosing : Enclosing outer before) (pending : Pending level middle)
    (seen : Seen stage present) (unfinished : ∀ filter, stage ≠ .complete filter) :
    Consumed ⟨stage, level, outer⟩ (before ++ (middle ++ present)) :=
  ⟨before, middle, present, rfl, enclosing, pending, seen,
    fun filter complete => absurd complete (unfinished filter)⟩

theorem Consumed.await {level : Level} {outer : List Level} {before middle : List Token}
    (enclosing : Enclosing outer before) (pending : Pending level middle) :
    Consumed ⟨.operand, level, outer⟩ (before ++ middle) :=
  ⟨before, middle, [], by simp, enclosing, pending, rfl, by simp⟩

section Step

variable {level : Level} {outer : List Level} {before middle present : List Token} {token : Token}
  {next : State}

theorem Consumed.step_operand (enclosing : Enclosing outer before) (pending : Pending level middle)
    (seen : Seen .operand present)
    (advances : State.Advances ⟨.operand, level, outer⟩ token next) :
    Consumed next (before ++ (middle ++ (present ++ [token]))) := by
  obtain rfl : present = [] := seen
  cases advances with
  | field isField => exact .advance enclosing pending ⟨rfl, isField⟩ (by simp)
  | group opens =>
      -- The present level becomes an outer one, with the parenthesis behind its tokens.
      simpa using Consumed.await (.cons enclosing pending opens) .empty
  | negation isNot => simpa using Consumed.await enclosing (.negation pending isNot)

theorem Consumed.step_operator {field : Token} (enclosing : Enclosing outer before)
    (pending : Pending level middle) (seen : Seen (.operator field) present)
    (advances : State.Advances ⟨.operator field, level, outer⟩ token next) :
    Consumed next (before ++ (middle ++ (present ++ [token]))) := by
  obtain ⟨rfl, isField⟩ := seen
  cases advances with
  | singleOperator isOperator takesOne =>
      have heads : Heads field token.operator [field, token] :=
        ⟨token, rfl, isField, isOperator, rfl⟩
      exact .advance enclosing pending ⟨heads, takesOne⟩ (by simp)
  | listOperator isOperator takesList =>
      have heads : Heads field token.operator [field, token] :=
        ⟨token, rfl, isField, isOperator, rfl⟩
      exact .advance enclosing pending ⟨heads, takesList⟩ (by simp)

theorem Consumed.step_value {field : Token} {operator : Operator}
    (enclosing : Enclosing outer before)
    (pending : Pending level middle) (seen : Seen (.value field operator) present)
    (advances : State.Advances ⟨.value field operator, level, outer⟩ token next) :
    Consumed next (before ++ (middle ++ (present ++ [token]))) := by
  obtain ⟨⟨mark, rfl, isField, isOperator, rfl⟩, takesOne⟩ := seen
  cases advances with
  | comparison isValue =>
      exact .finish _ enclosing pending (.comparison isField isOperator takesOne isValue)

theorem Consumed.step_list {field : Token} {operator : Operator}
    (enclosing : Enclosing outer before)
    (pending : Pending level middle) (seen : Seen (.list field operator) present)
    (advances : State.Advances ⟨.list field operator, level, outer⟩ token next) :
    Consumed next (before ++ (middle ++ (present ++ [token]))) := by
  obtain ⟨heads, takesList⟩ := seen
  cases advances with
  | opening opens =>
      exact .advance enclosing pending
        ⟨present, token, [], rfl, heads, takesList, opens, .inl ⟨rfl, rfl⟩⟩ (by simp)

theorem Consumed.step_item {field : Token} {operator : Operator} {items : List Value}
    (enclosing : Enclosing outer before) (pending : Pending level middle)
    (seen : Seen (.item field operator items) present)
    (advances : State.Advances ⟨.item field operator items, level, outer⟩ token next) :
    Consumed next (before ++ (middle ++ (present ++ [token]))) := by
  obtain ⟨head, opening, inner, rfl, heads, takesList, opens, sofar⟩ := seen
  cases advances with
  | item isValue =>
      have derived : Items (inner ++ [token]) (items ++ [token.value]) := by
        rcases sofar with ⟨rfl, rfl⟩ | ⟨earlier, comma, rfl, derived, isComma⟩
        · exact .one isValue
        · simpa using Items.more derived isComma isValue
      exact .advance enclosing pending
        ⟨head, opening, inner ++ [token], by simp, heads, takesList, opens, derived⟩ (by simp)

theorem Consumed.step_separator {field : Token} {operator : Operator} {items : List Value}
    (enclosing : Enclosing outer before) (pending : Pending level middle)
    (seen : Seen (.separator field operator items) present)
    (advances : State.Advances ⟨.separator field operator items, level, outer⟩ token next) :
    Consumed next (before ++ (middle ++ (present ++ [token]))) := by
  obtain ⟨head, opening, inner, rfl, heads, takesList, opens, derived⟩ := seen
  cases advances with
  | comma isComma =>
      exact .advance enclosing pending ⟨head, opening, inner ++ [token], by simp, heads, takesList,
        opens, .inr ⟨inner, token, rfl, derived, isComma⟩⟩ (by simp)
  | membership closes =>
      obtain ⟨mark, rfl, isField, isOperator, rfl⟩ := heads
      have condition := Derives.membership isField isOperator takesList opens derived closes
      simpa using Consumed.finish ⟨_, level, outer⟩ enclosing pending condition

theorem Consumed.step_complete {filter : Filter} (enclosing : Enclosing outer before)
    (pending : Pending level middle) (seen : Seen (.complete filter) present)
    (settled : level.negations = 0)
    (advances : State.Advances ⟨.complete filter, level, outer⟩ token next) :
    Consumed next (before ++ (middle ++ (present ++ [token]))) := by
  cases advances with
  | conjunction isAnd =>
      obtain ⟨middle', tokens', same, alternatives, product⟩ := pending.product settled seen
      have whole : middle ++ (present ++ [token]) = middle' ++ (tokens' ++ [token]) := by
        rw [← List.append_assoc, same, List.append_assoc]
      rw [whole]
      exact .await enclosing (.conjunction alternatives product isAnd)
  | disjunction isOr =>
      have expression := pending.expression settled seen
      simpa using Consumed.await enclosing (.disjunction expression isOr)
  | closing closes =>
      -- What the level holds and the factor are the inside of a group, an operand of the level
      -- around.
      have expression := pending.expression settled seen
      cases enclosing with
      | cons enclosing pending opens =>
          have group := Derives.group opens expression closes
          simpa using Consumed.finish ⟨_, _, _⟩ enclosing pending group

end Step

theorem Consumed.step {state next : State} {tokens : List Token} {token : Token}
    (consumed : Consumed state tokens) (stepped : state.step? token = some next) :
    Consumed next (tokens ++ [token]) := by
  have advances := State.advances_of_step? stepped
  obtain ⟨stage, level, outer⟩ := state
  obtain ⟨before, middle, present, rfl, enclosing, pending, seen, settled⟩ := consumed
  simp only [List.append_assoc]
  cases stage with
  | operand => exact .step_operand enclosing pending seen advances
  | operator field => exact .step_operator enclosing pending seen advances
  | value field operator => exact .step_value enclosing pending seen advances
  | list field operator => exact .step_list enclosing pending seen advances
  | item field operator items => exact .step_item enclosing pending seen advances
  | separator field operator items => exact .step_separator enclosing pending seen advances
  | complete filter => exact .step_complete enclosing pending seen (settled filter rfl) advances

theorem Consumed.steps {state final : State} {before tokens : List Token}
    (consumed : Consumed state before) (stepped : state.steps? tokens = some final) :
    Consumed final (before ++ tokens) := by
  induction tokens generalizing state before with
  | nil =>
      cases stepped
      simpa using consumed
  | cons token rest inductionHypothesis =>
      simp only [State.steps?_cons, Option.bind_eq_some_iff] at stepped
      obtain ⟨next, first, later⟩ := stepped
      simpa using inductionHypothesis (consumed.step first) later

theorem consumed_start : Consumed .start [] :=
  ⟨[], [], [], rfl, .nil, .empty, rfl, by simp [State.start]⟩

theorem Consumed.result {state : State} {tokens : List Token} {filter : Filter}
    (consumed : Consumed state tokens) (result : state.result? = some filter) :
    Derives .expression tokens filter := by
  obtain ⟨stage, level, outer⟩ := state
  obtain ⟨before, middle, present, rfl, enclosing, pending, seen, settled⟩ := consumed
  simp only [State.result?] at result
  split at result
  next factor =>
    cases result
    cases enclosing
    exact pending.expression (settled factor rfl) seen
  next => simp at result

end FilterBox.Grammar
