import FilterBox.Proofs.Filter.Unplaced
import FilterBox.Proofs.Grammar.Descent
import FilterBox.Proofs.Grammar.Transition

/-!
Reading tokens at other places.

The machine never looks at where a token stands: it goes on in the same way without places
(`State.step?_unplaced`). So tokens that stand elsewhere are read as the same filter up to places,
or fail in the same way at another place (`Query.reading_congr`).
-/

namespace FilterBox

def Token.unplaced (token : Token) : Token :=
  { token with span := ⟨0, 0⟩ }

namespace Token

@[simp]
theorem kind_unplaced (token : Token) : token.unplaced.kind = token.kind := rfl

@[simp]
theorem connective?_unplaced (token : Token) : token.unplaced.connective? = token.connective? := rfl

@[simp]
theorem unplaced_unplaced (token : Token) : token.unplaced.unplaced = token.unplaced := rfl

end Token

@[simp]
theorem Filter.unplaced_unplaced (filter : Filter) :
    filter.unplaced.unplaced = filter.unplaced := by
  induction filter with
  | condition leaf => rfl
  | conjunction left right leftHypothesis rightHypothesis =>
      simp only [unplaced, leftHypothesis, rightHypothesis]
  | disjunction left right leftHypothesis rightHypothesis =>
      simp only [unplaced, leftHypothesis, rightHypothesis]
  | negation operand inductionHypothesis => simp only [unplaced, inductionHypothesis]

namespace Parser

def Stage.unplaced : Stage → Stage
  | .operand => .operand
  | .operator field => .operator field.unplaced
  | .value field comparison => .value field.unplaced comparison
  | .list field comparison => .list field.unplaced comparison
  | .item field comparison items => .item field.unplaced comparison items
  | .separator field comparison items => .separator field.unplaced comparison items
  | .complete filter => .complete filter.unplaced

namespace Level

def unplaced (level : Level) : Level :=
  ⟨level.alternatives.map Filter.unplaced, level.factors.map Filter.unplaced, level.negations⟩

@[simp]
theorem unplaced_unplaced (level : Level) : level.unplaced.unplaced = level.unplaced := by
  simp [unplaced, Function.comp_def]

theorem negate_unplaced (level : Level) (operand : Filter) :
    level.unplaced.negate operand.unplaced = (level.negate operand).unplaced := by
  unfold negate unplaced
  induction level.negations with
  | zero => rfl
  | succ negations inductionHypothesis =>
      simp only [Nat.repeat, inductionHypothesis, Filter.unplaced]

theorem product_unplaced (level : Level) (factor : Filter) :
    level.unplaced.product factor.unplaced = (level.product factor).unplaced := by
  unfold product unplaced
  cases level.factors <;> rfl

theorem expression_unplaced (level : Level) (factor : Filter) :
    level.unplaced.expression factor.unplaced = (level.expression factor).unplaced := by
  unfold expression
  rw [product_unplaced]
  unfold unplaced
  cases level.alternatives <;> rfl

end Level

namespace State

/-- The state after the same tokens, standing nowhere. -/
def unplaced (state : State) : State :=
  ⟨state.stage.unplaced, state.level.unplaced, state.outer.map Level.unplaced⟩

@[simp]
theorem unplaced_unplaced (state : State) : state.unplaced.unplaced = state.unplaced := by
  obtain ⟨stage, level, outer⟩ := state
  cases stage <;> simp [unplaced, Stage.unplaced]

theorem finish_unplaced (state : State) (operand : Filter) :
    (state.unplaced.finish operand.unplaced) = (state.finish operand).unplaced := by
  simp only [finish, unplaced, Stage.unplaced, Level.negate_unplaced]
  rfl

theorem unplaced_finish (state : State) {operand operand' : Filter}
    (same : operand.unplaced = operand'.unplaced) :
    (state.unplaced.finish operand).unplaced = (state.finish operand').unplaced := by
  rw [← finish_unplaced, ← finish_unplaced, unplaced_unplaced, same]

theorem Advances.unplaced {state next : State} {token : Token}
    (advances : state.Advances token next) :
    ∃ next', state.unplaced.Advances token.unplaced next' ∧ next'.unplaced = next.unplaced := by
  cases advances with
  | field isField => exact ⟨_, .field isField, unplaced_unplaced ⟨.operator token, _, _⟩⟩
  | group opens => exact ⟨_, .group opens, unplaced_unplaced ⟨.operand, .empty, _ :: _⟩⟩
  | @negation token level outer isNot =>
      exact ⟨_, .negation isNot, unplaced_unplaced ⟨.operand, ⟨_, _, level.negations + 1⟩, outer⟩⟩
  | singleOperator isOperator takesOne =>
      exact ⟨_, .singleOperator isOperator takesOne, unplaced_unplaced ⟨.value _ _, _, _⟩⟩
  | listOperator isOperator takesList =>
      exact ⟨_, .listOperator isOperator takesList, unplaced_unplaced ⟨.list _ _, _, _⟩⟩
  | comparison isValue => exact ⟨_, .comparison isValue, unplaced_finish _ rfl⟩
  | opening opens => exact ⟨_, .opening opens, unplaced_unplaced ⟨.item _ _ [], _, _⟩⟩
  | item isValue => exact ⟨_, .item isValue, unplaced_unplaced ⟨.separator _ _ _, _, _⟩⟩
  | comma isComma => exact ⟨_, .comma isComma, unplaced_unplaced ⟨.item _ _ _, _, _⟩⟩
  | membership closes => exact ⟨_, .membership closes, unplaced_finish _ rfl⟩
  | @conjunction token filter level outer isAnd =>
      refine ⟨_, .conjunction isAnd, ?_⟩
      rw [Level.product_unplaced]
      exact unplaced_unplaced
        ⟨.operand, ⟨level.alternatives, some (level.product filter), 0⟩, outer⟩
  | @disjunction token filter level outer isOr =>
      refine ⟨_, .disjunction isOr, ?_⟩
      rw [Level.expression_unplaced]
      exact unplaced_unplaced ⟨.operand, ⟨some (level.expression filter), none, 0⟩, outer⟩
  | @closing token filter level around outer closes =>
      refine ⟨_, .closing closes, ?_⟩
      rw [Level.expression_unplaced]
      exact unplaced_finish ⟨.operand, around, outer⟩ (Filter.unplaced_unplaced _)

theorem isSome_step?_unplaced (state : State) (token : Token) :
    (state.unplaced.step? token.unplaced).isSome = (state.step? token).isSome := by
  obtain ⟨stage, level, outer⟩ := state
  cases stage with
  | operand =>
      cases kind : token.kind <;> by_cases isNot : token.connective? = some .not <;>
        simp [step?, unplaced, Stage.unplaced, isNot, kind]
  | operator =>
      by_cases kind : token.kind = .operator <;> simp [step?, unplaced, Stage.unplaced, kind]
  | value => by_cases kind : token.kind = .value <;> simp [step?, unplaced, Stage.unplaced, kind]
  | list => by_cases kind : token.kind = .leftParen <;> simp [step?, unplaced, Stage.unplaced, kind]
  | item => by_cases kind : token.kind = .value <;> simp [step?, unplaced, Stage.unplaced, kind]
  | separator => cases kind : token.kind <;> simp [step?, unplaced, Stage.unplaced, kind]
  | complete =>
      rcases spelled : token.connective? with _ | ⟨_ | _ | _⟩ <;> cases kind : token.kind <;>
        cases outer <;> simp [step?, unplaced, Stage.unplaced, spelled, kind]

theorem step?_unplaced (state : State) (token : Token) :
    (state.unplaced.step? token.unplaced).map unplaced = (state.step? token).map unplaced := by
  cases stepped : state.step? token with
  | some next =>
      obtain ⟨next', advances, same⟩ := (advances_of_step? stepped).unplaced
      rw [advances.step?, Option.map_some, Option.map_some, same]
  | none =>
      have stuck := isSome_step?_unplaced state token
      rw [stepped, Option.isSome_none, Option.isSome_eq_false_iff,
        Option.isNone_iff_eq_none] at stuck
      rw [stuck]

theorem expects_unplaced (state : State) : state.unplaced.expects = state.expects := by
  obtain ⟨stage, level, outer⟩ := state
  cases stage with
  | complete => cases outer <;> rfl
  | _ => rfl

theorem result?_unplaced (state : State) :
    state.unplaced.result? = state.result?.map Filter.unplaced := by
  obtain ⟨stage, level, outer⟩ := state
  cases stage with
  | complete filter =>
      cases outer with
      | nil => exact congrArg some (level.expression_unplaced filter)
      | cons => rfl
  | _ => rfl

theorem expects_congr {state state' : State} (same : state.unplaced = state'.unplaced) :
    state.expects = state'.expects := by
  rw [← expects_unplaced, same, expects_unplaced]

end State

end Parser

/-- What came of reading tokens, but for the places. -/
def Parser.upToPlaces (outcome : Except SyntaxError Filter) : Except Mismatch Filter :=
  (outcome.map Filter.unplaced).mapError SyntaxError.toMismatch

namespace Parser.State

variable {state state' : State}

theorem conclude_congr (same : state.unplaced = state'.unplaced) (place place' : Nat) :
    Parser.upToPlaces (state.conclude place) = Parser.upToPlaces (state'.conclude place') := by
  have result : state.result?.map Filter.unplaced = state'.result?.map Filter.unplaced := by
    rw [← result?_unplaced, ← result?_unplaced, same]
  unfold conclude
  rw [expects_congr same]
  cases read : state.result? with
  | none =>
      rw [read, Option.map_none, eq_comm, Option.map_eq_none_iff] at result
      rw [result]
      rfl
  | some filter =>
      rw [read, Option.map_some, eq_comm, Option.map_eq_some_iff] at result
      obtain ⟨filter', read', alike⟩ := result
      rw [read']
      exact congrArg Except.ok alike.symm

theorem run_congr {tokens tokens' : List Token} (same : state.unplaced = state'.unplaced)
    (alike : tokens.map Token.unplaced = tokens'.map Token.unplaced) (last last' : Nat) :
    Parser.upToPlaces (state.run last tokens) = Parser.upToPlaces (state'.run last' tokens') := by
  induction tokens generalizing state state' tokens' last last' with
  | nil =>
      obtain rfl : tokens' = [] := by simpa [eq_comm] using alike
      exact conclude_congr same last last'
  | cons token tokens inductionHypothesis =>
      cases tokens' with
      | nil => simp at alike
      | cons token' tokens' =>
          rw [List.map_cons, List.map_cons] at alike
          obtain ⟨alikeToken, alikeTokens⟩ := List.cons.inj alike
          have kind : token.kind = token'.kind := by
            rw [← Token.kind_unplaced, alikeToken, Token.kind_unplaced]
          have stepped := state.step?_unplaced token
          rw [same, alikeToken, step?_unplaced] at stepped
          unfold run
          rw [kind]
          by_cases isEnd : token'.kind = .endOfInput
          · rw [if_pos isEnd, if_pos isEnd]
            exact conclude_congr same _ _
          · rw [if_neg isEnd, if_neg isEnd]
            cases onward : state.step? token with
            | none =>
                rw [onward, Option.map_none, Option.map_eq_none_iff] at stepped
                rw [stepped, expects_congr same]
                rfl
            | some next =>
                rw [onward, Option.map_some, Option.map_eq_some_iff] at stepped
                obtain ⟨next', onward', sameNext⟩ := stepped
                rw [onward']
                exact inductionHypothesis sameNext.symm alikeTokens _ _

end Parser.State

namespace Query

/-- What comes of reading a query, but for the places. -/
def reading (query : String) : Except Mismatch (Option Filter) :=
  ((parse query).map (Option.map Filter.unplaced)).mapError SyntaxError.toMismatch

theorem reading_congr {query query' : String}
    (alike : (tokens query).map Token.unplaced = (tokens query').map Token.unplaced) :
    reading query = reading query' := by
  have head : ∀ tokens : List Token,
      (tokens.head?.all fun token => token.kind = .endOfInput) =
        (tokens.map Token.unplaced).head?.all fun token => token.kind = .endOfInput := by
    intro tokens
    cases tokens <;> rfl
  have optional : ∀ outcome : Except SyntaxError Filter,
      ((outcome.map some).map (Option.map Filter.unplaced)).mapError SyntaxError.toMismatch =
        (Parser.upToPlaces outcome).map some := by
    intro outcome
    cases outcome <;> rfl
  have same := Parser.State.run_congr (rfl : Parser.State.start.unplaced = _) alike 0 0
  rw [reading, reading, parse, parse, Filter.ofTokens_eq_outcome, Filter.ofTokens_eq_outcome,
    Parser.outcome, Parser.outcome, head, alike, ← head]
  split
  · rfl
  · rw [optional, optional, same]

end Query

end FilterBox
