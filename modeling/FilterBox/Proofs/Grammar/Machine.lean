import FilterBox.Filter.Parser

/-!
A machine that reads a filter one token at a time.

Its stage says what may come next, and a stack holds the unfinished expressions around the present
one. So the machine can be stopped in front of any token, which a descent through nested calls
cannot.
-/

namespace FilterBox

namespace Parser

/-- How far the present operand has been read. -/
inductive Stage
  | operand
  | operator (field : Token)
  | value (field : Token) (operator : Operator)
  | list (field : Token) (operator : Operator)
  | item (field : Token) (operator : Operator) (items : List Value)
  | separator (field : Token) (operator : Operator) (items : List Value)
  | complete (filter : Filter)

/-- An unfinished expression: the alternatives before the last `OR`, the factors since then before
the last `AND`, and the number of `NOT`s since then. -/
structure Level where
  alternatives : Option Filter
  factors : Option Filter
  negations : Nat

namespace Level

def empty : Level :=
  ⟨none, none, 0⟩

def negate (level : Level) (operand : Filter) : Filter :=
  Nat.repeat .negation level.negations operand

def product (level : Level) (factor : Filter) : Filter :=
  match level.factors with
  | none => factor
  | some factors => .conjunction factors factor

def expression (level : Level) (factor : Filter) : Filter :=
  match level.alternatives with
  | none => level.product factor
  | some alternatives => .disjunction alternatives (level.product factor)

end Level

structure State where
  stage : Stage
  level : Level
  outer : List Level

namespace State

def start : State :=
  ⟨.operand, .empty, []⟩

def finish (state : State) (operand : Filter) : State :=
  ⟨.complete (state.level.negate operand), { state.level with negations := 0 }, state.outer⟩

def expects (state : State) : Expectation :=
  match state.stage with
  | .operand => .operand
  | .operator _ => .token .operator
  | .value .. => .token .value
  | .list .. => .token .leftParen
  | .item .. => .token .value
  | .separator .. => .token .rightParen
  | .complete _ => .token (if state.outer.isEmpty then .endOfInput else .rightParen)

/-- The state after one more token, if it may come next. -/
def step? (state : State) (token : Token) : Option State :=
  match state.stage with
  | .operand =>
      match token.kind with
      | .field => some { state with stage := .operator token }
      | .leftParen => some ⟨.operand, .empty, state.level :: state.outer⟩
      | _ =>
          if token.connective? = some .not then
            some { state with level.negations := state.level.negations + 1 }
          else
            none
  | .operator field =>
      if token.kind = .operator then
        let stage := if token.operator.takesList then Stage.list else Stage.value
        some { state with stage := stage field token.operator }
      else
        none
  | .value field operator =>
      if token.kind = .value then
        some (state.finish (.condition
          ⟨field.text, operator, token.value, some (field.span.cover token.span)⟩))
      else
        none
  | .list field operator =>
      if token.kind = .leftParen then
        some { state with stage := .item field operator [] }
      else
        none
  | .item field operator items =>
      if token.kind = .value then
        some { state with stage := .separator field operator (items ++ [token.value]) }
      else
        none
  | .separator field operator items =>
      match token.kind with
      | .comma => some { state with stage := .item field operator items }
      | .rightParen =>
          some (state.finish (.condition
            ⟨field.text, operator, .list items, some (field.span.cover token.span)⟩))
      | _ => none
  | .complete filter =>
      match token.connective?, token.kind, state.outer with
      | some .and, _, outer =>
          some ⟨.operand, ⟨state.level.alternatives, some (state.level.product filter), 0⟩, outer⟩
      | some .or, _, outer =>
          some ⟨.operand, ⟨some (state.level.expression filter), none, 0⟩, outer⟩
      | _, .rightParen, level :: outer =>
          some (State.finish ⟨.operand, level, outer⟩ (state.level.expression filter))
      | _, _, _ => none

def result? (state : State) : Option Filter :=
  match state.stage, state.outer with
  | .complete filter, [] => some (state.level.expression filter)
  | _, _ => none

/-- What is made of the end of the tokens at a byte offset. -/
def conclude (state : State) (position : Nat) : Except SyntaxError Filter :=
  match state.result? with
  | some filter => .ok filter
  | none => .error ⟨⟨state.expects, .endOfInput⟩, position⟩

/-- Takes the remaining tokens up to the final mark. Without one the tokens end where the last of
them does. -/
def run (state : State) (last : Nat) : List Token → Except SyntaxError Filter
  | [] => state.conclude last
  | token :: rest =>
      if token.kind = .endOfInput then
        state.conclude token.span.start
      else
        match state.step? token with
        | some next => next.run token.span.stop rest
        | none => .error ⟨⟨state.expects, token.kind⟩, token.span.start⟩

end State

end Parser

end FilterBox
