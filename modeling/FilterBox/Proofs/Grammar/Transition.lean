import FilterBox.Proofs.Grammar.Run

/-!
What one token can do to the reading machine.

`Advances state token next` has one constructor for each way on, and these are all
(`advances_of_step?`). What every step preserves is proved by cases on it.
-/

namespace FilterBox.Parser.State

inductive Advances : State → Token → State → Prop
  | field {token : Token} {level : Level} {outer : List Level} :
      token.kind = .field →
      Advances ⟨.operand, level, outer⟩ token ⟨.operator token, level, outer⟩
  | group {token : Token} {level : Level} {outer : List Level} :
      token.kind = .leftParen →
      Advances ⟨.operand, level, outer⟩ token ⟨.operand, .empty, level :: outer⟩
  | negation {token : Token} {level : Level} {outer : List Level} :
      token.connective? = some .not →
      Advances ⟨.operand, level, outer⟩ token
        ⟨.operand, { level with negations := level.negations + 1 }, outer⟩
  | singleOperator {token field : Token} {level : Level} {outer : List Level} :
      token.kind = .operator → token.operator.takesList = false →
      Advances ⟨.operator field, level, outer⟩ token ⟨.value field token.operator, level, outer⟩
  | listOperator {token field : Token} {level : Level} {outer : List Level} :
      token.kind = .operator → token.operator.takesList = true →
      Advances ⟨.operator field, level, outer⟩ token ⟨.list field token.operator, level, outer⟩
  | comparison {token field : Token} {operator : Operator} {level : Level} {outer : List Level} :
      token.kind = .value →
      Advances ⟨.value field operator, level, outer⟩ token
        (finish ⟨.value field operator, level, outer⟩ (.condition
          ⟨field.text, operator, token.value, some (field.span.cover token.span)⟩))
  | opening {token field : Token} {operator : Operator} {level : Level} {outer : List Level} :
      token.kind = .leftParen →
      Advances ⟨.list field operator, level, outer⟩ token ⟨.item field operator [], level, outer⟩
  | item {token field : Token} {operator : Operator} {items : List Value} {level : Level}
      {outer : List Level} :
      token.kind = .value →
      Advances ⟨.item field operator items, level, outer⟩ token
        ⟨.separator field operator (items ++ [token.value]), level, outer⟩
  | comma {token field : Token} {operator : Operator} {items : List Value} {level : Level}
      {outer : List Level} :
      token.kind = .comma →
      Advances ⟨.separator field operator items, level, outer⟩ token
        ⟨.item field operator items, level, outer⟩
  | membership {token field : Token} {operator : Operator} {items : List Value} {level : Level}
      {outer : List Level} :
      token.kind = .rightParen →
      Advances ⟨.separator field operator items, level, outer⟩ token
        (finish ⟨.separator field operator items, level, outer⟩ (.condition
          ⟨field.text, operator, .list items, some (field.span.cover token.span)⟩))
  | conjunction {token : Token} {filter : Filter} {level : Level} {outer : List Level} :
      token.connective? = some .and →
      Advances ⟨.complete filter, level, outer⟩ token
        ⟨.operand, ⟨level.alternatives, some (level.product filter), 0⟩, outer⟩
  | disjunction {token : Token} {filter : Filter} {level : Level} {outer : List Level} :
      token.connective? = some .or →
      Advances ⟨.complete filter, level, outer⟩ token
        ⟨.operand, ⟨some (level.expression filter), none, 0⟩, outer⟩
  | closing {token : Token} {filter : Filter} {level around : Level} {outer : List Level} :
      token.kind = .rightParen →
      Advances ⟨.complete filter, level, around :: outer⟩ token
        (finish ⟨.operand, around, outer⟩ (level.expression filter))

theorem Advances.step? {state next : State} {token : Token} (advances : state.Advances token next) :
    state.step? token = some next := by
  cases advances with
  | field isField => simp [State.step?, isField]
  | group opens => simp [State.step?, opens]
  | negation isNot => simp [State.step?, isNot, Token.kind_of_connective? isNot]
  | singleOperator isOperator takesOne => simp [State.step?, isOperator, takesOne]
  | listOperator isOperator takesList => simp [State.step?, isOperator, takesList]
  | comparison isValue => simp [State.step?, isValue]
  | opening opens => simp [State.step?, opens]
  | item isValue => simp [State.step?, isValue]
  | comma isComma => simp [State.step?, isComma]
  | membership closes => simp [State.step?, closes]
  | conjunction isAnd => simp [State.step?, isAnd]
  | disjunction isOr => simp [State.step?, isOr]
  | closing closes =>
      have noConnective : token.connective? = none := Token.connective?_eq_none (by simp [closes])
      simp [State.step?, noConnective, closes]

theorem advances_of_step? {state next : State} {token : Token}
    (stepped : state.step? token = some next) : state.Advances token next := by
  obtain ⟨stage, level, outer⟩ := state
  cases stage with
  | operand =>
      simp only [State.step?] at stepped
      split at stepped
      next isField =>
        cases stepped
        exact .field isField
      next opens =>
        cases stepped
        exact .group opens
      next =>
        split at stepped
        next isNot =>
          cases stepped
          exact .negation isNot
        next => simp at stepped
  | operator field =>
      simp only [State.step?] at stepped
      split at stepped
      next isOperator =>
        cases stepped
        cases takesList : token.operator.takesList with
        | false => exact .singleOperator isOperator takesList
        | true => exact .listOperator isOperator takesList
      next => simp at stepped
  | value field operator =>
      simp only [State.step?] at stepped
      split at stepped
      next isValue =>
        cases stepped
        exact .comparison isValue
      next => simp at stepped
  | list field operator =>
      simp only [State.step?] at stepped
      split at stepped
      next opens =>
        cases stepped
        exact .opening opens
      next => simp at stepped
  | item field operator items =>
      simp only [State.step?] at stepped
      split at stepped
      next isValue =>
        cases stepped
        exact .item isValue
      next => simp at stepped
  | separator field operator items =>
      simp only [State.step?] at stepped
      split at stepped
      next isComma =>
        cases stepped
        exact .comma isComma
      next closes =>
        cases stepped
        exact .membership closes
      next => simp at stepped
  | complete filter =>
      simp only [State.step?] at stepped
      split at stepped
      next isAnd =>
        cases stepped
        exact .conjunction isAnd
      next isOr =>
        cases stepped
        exact .disjunction isOr
      next closes _ _ =>
        cases stepped
        exact .closing closes
      next => simp at stepped

end FilterBox.Parser.State
