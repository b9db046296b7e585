import FilterBox.Proofs.Grammar.Transition
import FilterBox.Proofs.Grammar.Viability
import FilterBox.Proofs.Query.Patterns
import FilterBox.Proofs.Token.Scanned
import FilterBox.Query.Verdict

/-!
The verdict on a query that does not look unfinished.

Where the machine runs out of tokens without a filter, either the last token leaves a condition
open, or a group or a list is open. The count of the parentheses knows the latter: it is the number
of lists and groups that the machine is in. So a query is accepted exactly when more tokens can make
a filter of it.
-/

namespace FilterBox

open Text

namespace Token

def nesting (token : Token) : Int :=
  if token.kind = .leftParen then 1 else if token.kind = .rightParen then -1 else 0

@[simp]
theorem openParens_nil : openParens [] = 0 := rfl

@[simp]
theorem openParens_cons (token : Token) (tokens : List Token) :
    openParens (token :: tokens) = token.nesting + openParens tokens := by
  unfold openParens nesting
  by_cases opens : token.kind = .leftParen
  · simp [opens]
    omega
  · by_cases closes : token.kind = .rightParen
    · simp [closes]
      omega
    · simp [opens, closes]

theorem openParens_append (tokens tokens' : List Token) :
    openParens (tokens ++ tokens') = openParens tokens + openParens tokens' := by
  induction tokens with
  | nil => simp
  | cons token tokens inductionHypothesis =>
      rw [List.cons_append, openParens_cons, openParens_cons, inductionHypothesis, Int.add_assoc]

end Token

namespace Parser

/-- Whether the stage is inside the parentheses of a list. -/
def Stage.isInList : Stage → Bool
  | item .. | separator .. => true
  | operand | operator _ | value .. | list .. | complete _ => false

namespace State

def depth (state : State) : Int :=
  state.outer.length + if state.stage.isInList then 1 else 0

theorem Advances.depth {state next : State} {token : Token} (advances : state.Advances token next) :
    next.depth = state.depth + token.nesting := by
  cases advances with
  | negation isNot => simp [State.depth, Token.nesting, Token.kind_of_connective? isNot]
  | conjunction isAnd =>
      simp [State.depth, Token.nesting, Stage.isInList, Token.kind_of_connective? isAnd]
  | disjunction isOr =>
      simp [State.depth, Token.nesting, Stage.isInList, Token.kind_of_connective? isOr]
  | comparison isValue => simp [State.depth, Token.nesting, Stage.isInList, finish, isValue]
  | membership closes | closing closes =>
      have lower : token.nesting = -1 := by simp [Token.nesting, closes]
      simp only [State.depth, Stage.isInList, finish, lower, List.length_cons, Bool.false_eq_true,
        if_true, if_false]
      omega
  | field kind | group kind | singleOperator kind | listOperator kind | opening kind | item kind
  | comma kind => simp [State.depth, Token.nesting, Stage.isInList, kind]

theorem depth_steps? {state final : State} {tokens : List Token}
    (reached : state.steps? tokens = some final) :
    final.depth = state.depth + Token.openParens tokens := by
  induction tokens generalizing state with
  | nil =>
      cases reached
      simp
  | cons token tokens inductionHypothesis =>
      rw [steps?_cons, Option.bind_eq_some_iff] at reached
      obtain ⟨next, stepped, reached⟩ := reached
      rw [inductionHypothesis reached, (advances_of_step? stepped).depth, Token.openParens_cons]
      omega

/-- Behind a token that nothing has to follow there is a list that goes on or a complete operand. -/
theorem Advances.settled {state next : State} {token : Token} (advances : state.Advances token next)
    (settles : token.leavesOpen = false) :
    next.stage.isInList = true ∨ ∃ filter, next.stage = .complete filter := by
  cases advances with
  | comparison | membership | closing => exact .inr ⟨_, rfl⟩
  | item => exact .inl rfl
  | negation spelled | conjunction spelled | disjunction spelled =>
      simp [Token.leavesOpen, Token.kind_of_connective? spelled] at settles
  | field kind | group kind | singleOperator kind | listOperator kind | opening kind | comma kind =>
      simp [Token.leavesOpen, kind] at settles

theorem depth_pos {state : State} (unfinished : state.result? = none)
    (settled : state.stage.isInList = true ∨ ∃ filter, state.stage = .complete filter) :
    0 < state.depth := by
  obtain ⟨stage, level, outer⟩ := state
  rcases settled with inList | ⟨filter, complete⟩
  · simp only [depth, inList, if_true]
    omega
  · obtain rfl : stage = .complete filter := complete
    cases outer with
    | nil => simp [result?] at unfinished
    | cons around outer =>
        simp only [depth, List.length_cons]
        omega

theorem endMidway_of_result?_eq_none {tokens : List Token} {final : State} (nonempty : tokens ≠ [])
    (unmarked : ∀ token ∈ tokens, token.kind ≠ .endOfInput)
    (reached : State.start.steps? tokens = some final) (unfinished : final.result? = none)
    (place : Nat) : Token.endMidway (tokens ++ [Token.final place]) = true := by
  have counted := depth_steps? reached
  obtain ⟨front, last, rfl⟩ := (List.eq_nil_or_concat' tokens).resolve_left nonempty
  have ordinary : last.kind ≠ .endOfInput := unmarked last (by simp)
  have parens : Token.openParens (front ++ [last] ++ [Token.final place]) =
      Token.openParens (front ++ [last]) := by
    rw [Token.openParens_append]
    exact Int.add_zero _
  rw [steps?_append, Option.bind_eq_some_iff] at reached
  obtain ⟨middle, -, stepped⟩ := reached
  have advances : middle.Advances last final := advances_of_step? (by simpa using stepped)
  rw [Token.endMidway, parens, Bool.or_eq_true, decide_eq_true_eq]
  by_cases leavesOpen : last.leavesOpen = true
  · left
    simp [Token.final, ordinary, leavesOpen]
  · right
    have inside := depth_pos unfinished (advances.settled (Bool.eq_false_iff.mpr leavesOpen))
    rw [counted] at inside
    simpa [depth, start, Stage.isInList] using inside

end State

end Parser

namespace Query

open FilterBox.Parser Unfinished

section Marked

variable {query : String} {tokens : List Token} {place : Nat}

theorem parse_of_steps? {final : State}
    (scanned : Query.tokens query = tokens ++ [Token.final place])
    (unmarked : ∀ token ∈ tokens, token.kind ≠ .endOfInput) (nonempty : tokens ≠ [])
    (reached : State.start.steps? tokens = some final) :
    parse query = (final.conclude place).map some := by
  rw [parse, scanned, Filter.ofTokens_append nonempty unmarked,
    State.run_of_steps? 0 [] rfl unmarked reached]
  rfl

theorem parse_of_nil (scanned : Query.tokens query = [Token.final place]) :
    parse query = .ok none := by
  rw [parse, scanned]
  rfl

/-- A query fails at its end, where its tokens make no filter yet, or at a token that may not
come. -/
theorem parse_error_cases {error : SyntaxError}
    (scanned : Query.tokens query = tokens ++ [Token.final place])
    (unmarked : ∀ token ∈ tokens, token.kind ≠ .endOfInput) (failed : parse query = .error error) :
    (tokens ≠ [] ∧ ∃ final, State.start.steps? tokens = some final ∧ final.result? = none ∧
      error = ⟨⟨final.expects, .endOfInput⟩, place⟩) ∨
    ∃ before token after middle, tokens = before ++ token :: after ∧
      State.start.steps? before = some middle ∧ middle.step? token = none ∧
      error = ⟨⟨middle.expects, token.kind⟩, token.span.start⟩ := by
  have nonempty : tokens ≠ [] := by
    rintro rfl
    simp [parse_of_nil scanned] at failed
  rcases State.start.steps?_cases tokens with
    ⟨final, reached⟩ | ⟨before, token, after, middle, rfl, reached, stuck⟩
  · left
    rw [parse_of_steps? scanned unmarked nonempty reached, State.conclude] at failed
    cases result : final.result? with
    | some filter => simp [result, Except.map] at failed
    | none =>
        rw [result] at failed
        exact ⟨nonempty, final, reached, result, (Except.error.inj failed).symm⟩
  · right
    simp only [List.forall_mem_append, List.forall_mem_cons] at unmarked
    have stopped :=
      Grammar.ofTokens_error_of_step?_eq_none (after ++ [Token.final place]) unmarked.1
        unmarked.2.1 reached stuck
    rw [parse, scanned, List.append_assoc, List.cons_append, stopped] at failed
    exact ⟨before, token, after, middle, rfl, reached, stuck, (Except.error.inj failed).symm⟩

theorem endMidway_of_parse_error {error : SyntaxError} (failed : parse query = .error error)
    (isEnd : error.found = .endOfInput) : Token.endMidway (Query.tokens query) = true := by
  obtain ⟨tokens, _, layout, scanned⟩ := exists_layout query
  rcases parse_error_cases scanned layout.ordinary failed with
    ⟨nonempty, final, reached, unfinished, _⟩ | ⟨before, token, after, middle, rfl, _, _, rfl⟩
  · rw [scanned]
    exact State.endMidway_of_result?_eq_none nonempty layout.ordinary reached unfinished _
  · exact absurd isEnd (layout.ordinary token (by simp))

theorem verdict_of_isBlank (blank : trim query.toList = []) : verdict query = .accepted :=
  if_pos (by simp [blank])

theorem verdict_of_looksUnfinished (unfinished : looksUnfinished query = true) :
    verdict query = .accepted :=
  if_pos (by simp [unfinished])

theorem verdict_eq (visible : trim query.toList ≠ []) (plain : looksUnfinished query = false) :
    verdict query =
      match parse query with
      | .ok _ => .accepted
      | .error error =>
          if error.found = .endOfInput then .accepted else .rejected error.toMismatch := by
  rw [verdict, if_neg (by simp [visible, plain])]
  cases read : parse query with
  | ok => rfl
  | error error =>
      by_cases isEnd : error.found = .endOfInput
      · simp [SyntaxError.isEndOfInput, isEnd, endMidway_of_parse_error read isEnd]
      · simp [SyntaxError.isEndOfInput, isEnd]

theorem verdict_of_steps? {final : State}
    (scanned : Query.tokens query = tokens ++ [Token.final place])
    (unmarked : ∀ token ∈ tokens, token.kind ≠ .endOfInput)
    (reached : State.start.steps? tokens = some final) : verdict query = .accepted := by
  by_cases blank : trim query.toList = []
  · exact verdict_of_isBlank blank
  by_cases unfinished : looksUnfinished query = true
  · exact verdict_of_looksUnfinished unfinished
  rw [verdict_eq blank (Bool.eq_false_iff.mpr unfinished)]
  cases read : parse query with
  | ok => rfl
  | error error =>
      rcases parse_error_cases scanned unmarked read with
        ⟨_, _, _, _, rfl⟩ | ⟨before, token, after, middle, rfl, reachedBefore, stuck, rfl⟩
      · rfl
      · simp [State.steps?_eq_none after reachedBefore stuck] at reached

theorem exists_error_of_not_isViable
    (scanned : Query.tokens query = tokens ++ [Token.final place])
    (unmarked : ∀ token ∈ tokens, token.kind ≠ .endOfInput) (stuck : ¬ Grammar.IsViable tokens) :
    ∃ error, parse query = .error error ∧ error.found ≠ .endOfInput := by
  rcases State.start.steps?_cases tokens with
    ⟨final, reached⟩ | ⟨before, token, after, middle, rfl, reached, refused⟩
  · exact absurd (Grammar.isViable_of_steps? unmarked reached) stuck
  · simp only [List.forall_mem_append, List.forall_mem_cons] at unmarked
    refine ⟨⟨⟨middle.expects, token.kind⟩, token.span.start⟩, ?_, unmarked.2.1⟩
    rw [parse, scanned, List.append_assoc, List.cons_append]
    exact Grammar.ofTokens_error_of_step?_eq_none _ unmarked.1 unmarked.2.1 reached refused

theorem exists_steps?_of_isViable (unmarked : ∀ token ∈ tokens, token.kind ≠ .endOfInput)
    (viable : Grammar.IsViable tokens) : ∃ final, State.start.steps? tokens = some final := by
  rcases State.start.steps?_cases tokens with
    reached | ⟨before, token, after, middle, rfl, reached, refused⟩
  · exact reached
  · obtain ⟨more, filter, read⟩ := viable
    simp only [List.forall_mem_append, List.forall_mem_cons] at unmarked
    have failed := Grammar.ofTokens_error_of_step?_eq_none (after ++ more) unmarked.1 unmarked.2.1
      reached refused
    rw [List.append_assoc, List.cons_append, failed] at read
    simp at read

end Marked

end Query

end FilterBox
