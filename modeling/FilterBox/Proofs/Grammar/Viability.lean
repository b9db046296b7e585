import FilterBox.Proofs.Grammar.Recognition

/-!
What a syntax error says about the tokens before it.

The machine is never in a dead end: from every state some tokens lead to a complete filter. So it
stops only at a token that nothing can mend, and what it expects there can indeed come.
-/

namespace FilterBox

def Expectation.kinds : Expectation → List Token.Kind
  | token kind => [kind]
  | operand => [.field, .leftParen]

namespace Parser.State

/-- Whether some tokens lead from the state to the end of a filter. -/
def CanFinish (state : State) : Prop :=
  ∃ tokens, (∀ token ∈ tokens, token.kind ≠ .endOfInput) ∧
    ∃ final filter, state.steps? tokens = some final ∧ final.result? = some filter

theorem CanFinish.of_step {state next : State} (canFinish : next.CanFinish) (token : Token)
    (ordinary : token.kind ≠ .endOfInput) (stepped : state.step? token = some next) :
    state.CanFinish := by
  obtain ⟨tokens, unmarked, final, filter, reached, result⟩ := canFinish
  refine ⟨token :: tokens, ?_, final, filter, ?_, result⟩
  · exact List.forall_mem_cons.mpr ⟨ordinary, unmarked⟩
  · rw [steps?_cons, stepped, Option.bind_some, reached]

theorem canFinish_complete (filter : Filter) (level : Level) (outer : List Level) :
    CanFinish ⟨.complete filter, level, outer⟩ := by
  induction outer generalizing filter level with
  | nil => exact ⟨[], by simp, _, _, rfl, rfl⟩
  | cons around outer inductionHypothesis =>
      have closes : State.step? ⟨.complete filter, level, around :: outer⟩
          ⟨.rightParen, ")", none, ⟨0, 0⟩⟩ =
            some (finish ⟨.operand, around, outer⟩ (level.expression filter)) := rfl
      exact (inductionHypothesis _ _).of_step _ (by simp) closes

theorem canFinish_finish (state : State) (operand : Filter) : (state.finish operand).CanFinish :=
  canFinish_complete _ _ _

section Stages

variable (field : Token) (operator : Operator) (items : List Value) (level : Level)
  (outer : List Level)

theorem canFinish_value : CanFinish ⟨.value field operator, level, outer⟩ :=
  (canFinish_finish _ _).of_step ⟨.value, "", none, ⟨0, 0⟩⟩ (by simp) rfl

theorem canFinish_separator : CanFinish ⟨.separator field operator items, level, outer⟩ :=
  (canFinish_finish _ _).of_step ⟨.rightParen, ")", none, ⟨0, 0⟩⟩ (by simp) rfl

theorem canFinish_item : CanFinish ⟨.item field operator items, level, outer⟩ :=
  (canFinish_separator ..).of_step ⟨.value, "", none, ⟨0, 0⟩⟩ (by simp) rfl

theorem canFinish_list : CanFinish ⟨.list field operator, level, outer⟩ :=
  (canFinish_item ..).of_step ⟨.leftParen, "(", none, ⟨0, 0⟩⟩ (by simp) rfl

theorem canFinish_operator : CanFinish ⟨.operator field, level, outer⟩ :=
  (canFinish_value ..).of_step ⟨.operator, ":", none, ⟨0, 0⟩⟩ (by simp) rfl

theorem canFinish_operand : CanFinish ⟨.operand, level, outer⟩ :=
  (canFinish_operator ..).of_step ⟨.field, "", none, ⟨0, 0⟩⟩ (by simp) rfl

end Stages

theorem canFinish (state : State) : state.CanFinish := by
  obtain ⟨stage, level, outer⟩ := state
  cases stage with
  | operand => exact canFinish_operand ..
  | operator field => exact canFinish_operator ..
  | value field operator => exact canFinish_value ..
  | list field operator => exact canFinish_list ..
  | item field operator items => exact canFinish_item ..
  | separator field operator items => exact canFinish_separator ..
  | complete filter => exact canFinish_complete ..

theorem isSome_step?_of_expects {state : State} {token : Token}
    (expected : token.kind ∈ state.expects.kinds) (ordinary : token.kind ≠ .endOfInput) :
    (state.step? token).isSome = true := by
  obtain ⟨stage, level, outer⟩ := state
  cases stage with
  | operand =>
      simp only [expects, Expectation.kinds, List.mem_cons, List.not_mem_nil, or_false] at expected
      rcases expected with isField | opens
      · simp [step?, isField]
      · simp [step?, opens]
  | operator field => simp [step?, List.mem_singleton.mp expected]
  | value field operator => simp [step?, List.mem_singleton.mp expected]
  | list field operator => simp [step?, List.mem_singleton.mp expected]
  | item field operator items => simp [step?, List.mem_singleton.mp expected]
  | separator field operator items => simp [step?, List.mem_singleton.mp expected]
  | complete filter =>
      cases outer with
      | nil => exact absurd (List.mem_singleton.mp expected) ordinary
      | cons around outer =>
          have closes : token.kind = .rightParen := List.mem_singleton.mp expected
          have noConnective : token.connective? = none :=
            Token.connective?_eq_none (by simp [closes])
          simp [step?, closes, noConnective]

theorem exists_result?_of_expects {state : State}
    (expected : .endOfInput ∈ state.expects.kinds) : ∃ filter, state.result? = some filter := by
  obtain ⟨stage, level, outer⟩ := state
  cases stage with
  | complete filter =>
      cases outer with
      | nil => exact ⟨_, rfl⟩
      | cons around outer => simp [expects, Expectation.kinds] at expected
  | _ => simp [expects, Expectation.kinds] at expected

/-- An error arises either at the end of the tokens, where a filter is not complete, or at a token
that may not come. -/
theorem run_error_cases {state : State} {tokens : List Token} {error : SyntaxError} (last : Nat)
    (unmarked : ∀ token ∈ tokens, token.kind ≠ .endOfInput)
    (failed : state.run last tokens = .error error) :
    (∃ final, state.steps? tokens = some final ∧ final.result? = none ∧
      error.toMismatch = ⟨final.expects, .endOfInput⟩) ∨
    ∃ before token after middle, tokens = before ++ token :: after ∧
      state.steps? before = some middle ∧ middle.step? token = none ∧
      error = ⟨⟨middle.expects, token.kind⟩, token.span.start⟩ := by
  rcases state.steps?_cases tokens with
    ⟨final, reached⟩ | ⟨before, token, after, middle, rfl, reached, stuck⟩
  · rw [run_eq_conclude last unmarked reached, conclude] at failed
    cases result : final.result? with
    | some filter => simp [result] at failed
    | none =>
        rw [result] at failed
        exact .inl ⟨final, reached, result, by rw [← Except.error.inj failed]⟩
  · simp only [List.forall_mem_append, List.forall_mem_cons] at unmarked
    rw [run_of_step?_eq_none last after unmarked.1 unmarked.2.1 reached stuck] at failed
    exact .inr ⟨before, token, after, middle, rfl, reached, stuck, (Except.error.inj failed).symm⟩

end Parser.State

namespace Grammar

open FilterBox.Parser

/-- Whether more tokens can make a filter of these. -/
def IsViable (tokens : List Token) : Prop :=
  ∃ more filter, Filter.ofTokens (tokens ++ more) = .ok (some filter)

/-- Whether what is expected behind some tokens may indeed come there: the end, if they are a filter
already, and any token of another kind, if more can make a filter of them and it. -/
def IsTruthful (tokens : List Token) (expected : Expectation) : Prop :=
  ∀ kind ∈ expected.kinds,
    if kind = .endOfInput then
      ∃ filter, Filter.ofTokens tokens = .ok (some filter)
    else
      ∀ token : Token, token.kind = kind → IsViable (tokens ++ [token])

theorem ofTokens_eq_ok_some_of_steps? {tokens : List Token} {final : State} {filter : Filter}
    (unmarked : ∀ token ∈ tokens, token.kind ≠ .endOfInput)
    (reached : State.start.steps? tokens = some final) (result : final.result? = some filter) :
    Filter.ofTokens tokens = .ok (some filter) :=
  (ofTokens_eq_ok_some_iff_derives unmarked).mpr (derives_iff_steps?.mpr ⟨final, reached, result⟩)

theorem isViable_of_steps? {tokens : List Token} {middle : State}
    (unmarked : ∀ token ∈ tokens, token.kind ≠ .endOfInput)
    (reached : State.start.steps? tokens = some middle) : IsViable tokens := by
  obtain ⟨more, unmarkedMore, final, filter, finished, result⟩ := middle.canFinish
  refine ⟨more, filter, ofTokens_eq_ok_some_of_steps? ?_ ?_ result⟩
  · exact List.forall_mem_append.mpr ⟨unmarked, unmarkedMore⟩
  · rw [State.steps?_append_of_eq reached, finished]

theorem isTruthful_expects {tokens : List Token} {middle : State}
    (unmarked : ∀ token ∈ tokens, token.kind ≠ .endOfInput)
    (reached : State.start.steps? tokens = some middle) : IsTruthful tokens middle.expects := by
  intro kind expected
  split
  next isEnd =>
    obtain ⟨filter, result⟩ := State.exists_result?_of_expects (isEnd ▸ expected)
    exact ⟨filter, ofTokens_eq_ok_some_of_steps? unmarked reached result⟩
  next ordinary =>
    rintro token rfl
    obtain ⟨next, stepped⟩ :=
      Option.isSome_iff_exists.mp (State.isSome_step?_of_expects expected ordinary)
    have further : State.start.steps? (tokens ++ [token]) = some next := by
      rw [State.steps?_append_of_eq reached, State.steps?_cons, stepped]
      rfl
    exact isViable_of_steps? (by simpa [or_imp, forall_and] using ⟨unmarked, ordinary⟩) further

theorem ofTokens_eq_error_iff {tokens : List Token} {error : SyntaxError}
    (unmarked : ∀ token ∈ tokens, token.kind ≠ .endOfInput) :
    Filter.ofTokens tokens = .error error ↔
      tokens ≠ [] ∧ State.start.run 0 tokens = .error error := by
  by_cases empty : tokens = []
  · simp [empty, Filter.ofTokens_eq_outcome, outcome]
  · rw [Filter.ofTokens_of_ne_nil empty unmarked]
    cases State.start.run 0 tokens <;> simp [empty, Except.map]

theorem ofTokens_error_of_step?_eq_none {before : List Token} {token : Token} {middle : State}
    (more : List Token) (unmarked : ∀ other ∈ before, other.kind ≠ .endOfInput)
    (ordinary : token.kind ≠ .endOfInput) (reached : State.start.steps? before = some middle)
    (stuck : middle.step? token = none) :
    Filter.ofTokens (before ++ token :: more) =
      .error ⟨⟨middle.expects, token.kind⟩, token.span.start⟩ := by
  have failed := State.run_of_step?_eq_none 0 more unmarked ordinary reached stuck
  have whole : ∀ other ∈ before ++ [token], other.kind ≠ .endOfInput := by
    simpa [or_imp, forall_and] using ⟨unmarked, ordinary⟩
  rw [List.append_cons] at failed ⊢
  rw [Filter.ofTokens_append (by simp) whole, failed]
  rfl

/-- An error at the end means that the tokens can become a filter. Any other error is at the first
token that nothing can mend: the tokens before it can become a filter, and with it they fail in the
same way whatever follows. What the error expects may come there. -/
theorem ofTokens_error_earliest {tokens : List Token}
    (unmarked : ∀ token ∈ tokens, token.kind ≠ .endOfInput) {error : SyntaxError}
    (failed : Filter.ofTokens tokens = .error error) :
    (error.found = .endOfInput → IsViable tokens ∧ IsTruthful tokens error.expected) ∧
    (error.found ≠ .endOfInput → ∃ before token after, tokens = before ++ token :: after ∧
      error.found = token.kind ∧ error.position = token.span.start ∧
      IsViable before ∧
      (∀ more, Filter.ofTokens (before ++ token :: more) = .error error) ∧
      IsTruthful before error.expected) := by
  obtain ⟨_, stopped⟩ := (ofTokens_eq_error_iff unmarked).mp failed
  rcases State.run_error_cases 0 unmarked stopped with
    ⟨final, reached, _, mismatch⟩ | ⟨before, token, after, middle, rfl, reached, stuck, rfl⟩
  · obtain ⟨⟨expected, found⟩, position⟩ := error
    obtain ⟨rfl, rfl⟩ := Mismatch.mk.inj mismatch
    exact ⟨fun _ => ⟨isViable_of_steps? unmarked reached, isTruthful_expects unmarked reached⟩,
      fun other => absurd rfl other⟩
  · simp only [List.forall_mem_append, List.forall_mem_cons] at unmarked
    obtain ⟨unmarkedBefore, ordinary, _⟩ := unmarked
    refine ⟨fun isEnd => absurd isEnd ordinary, fun _ => ⟨before, token, after, rfl, rfl, rfl,
      isViable_of_steps? unmarkedBefore reached, fun more => ?_,
      isTruthful_expects unmarkedBefore reached⟩⟩
    exact ofTokens_error_of_step?_eq_none more unmarkedBefore ordinary reached stuck

/-- Tokens of `not (a:in (x, :5`. -/
def interrupted : List Token :=
  [⟨.connective, "not", none, ⟨0, 3⟩⟩, ⟨.leftParen, "(", none, ⟨4, 5⟩⟩,
    ⟨.field, "a", none, ⟨5, 6⟩⟩, ⟨.operator, ":in", none, ⟨6, 9⟩⟩,
    ⟨.leftParen, "(", none, ⟨10, 11⟩⟩, ⟨.value, "x", some .string, ⟨11, 12⟩⟩,
    ⟨.comma, ",", none, ⟨12, 13⟩⟩, ⟨.operator, ":", none, ⟨14, 15⟩⟩,
    ⟨.value, "5", some .number, ⟨15, 16⟩⟩]

/-- The colon in the list is the token that nothing can mend. -/
theorem ofTokens_error_earliest_interrupted :
    (∀ token ∈ interrupted, token.kind ≠ .endOfInput) ∧
      Filter.ofTokens interrupted = .error ⟨⟨.token .value, .operator⟩, 14⟩ ∧
      ∃ before token after, interrupted = before ++ token :: after ∧
        .operator = token.kind ∧ 14 = token.span.start ∧ IsViable before ∧
        (∀ more, Filter.ofTokens (before ++ token :: more) =
          .error ⟨⟨.token .value, .operator⟩, 14⟩) ∧
        IsTruthful before (.token .value) :=
  have unmarked : ∀ token ∈ interrupted, token.kind ≠ .endOfInput := by decide
  have failed : Filter.ofTokens interrupted = .error ⟨⟨.token .value, .operator⟩, 14⟩ :=
    Filter.ofTokens_eq_outcome interrupted
  ⟨unmarked, failed, (ofTokens_error_earliest unmarked failed).2 (by decide)⟩

end Grammar

end FilterBox
