import FilterBox.Proofs.Grammar.Machine

/-!
The reading machine over whole stretches of tokens.

`State.steps?` takes the tokens of a stretch one after another. The machine gets through a list or
stops at one of its tokens (`State.steps?_cases`), and goes on behind a stretch from where that
leads (`State.run_append`). So a list without the final mark is read exactly when the machine gets
through it to a state in which it may end (`State.run_eq_ok_iff`), and the end of the list is a
final mark at the place where the last token stops (`State.run_append_mark`).
-/

namespace FilterBox

namespace Token

theorem kind_of_connective? {token : Token} {connective : Connective}
    (spelled : token.connective? = some connective) : token.kind = .connective := by
  unfold connective? at spelled
  split at spelled
  next isConnective => exact isConnective
  next => simp at spelled

theorem connective?_eq_none {token : Token} (other : token.kind ≠ .connective) :
    token.connective? = none :=
  if_neg other

def stopOf (place : Nat) (tokens : List Token) : Nat :=
  (tokens.getLast?.map fun token => token.span.stop).getD place

@[simp]
theorem stopOf_nil (place : Nat) : stopOf place [] = place := rfl

@[simp]
theorem stopOf_cons (place : Nat) (token : Token) (tokens : List Token) :
    stopOf place (token :: tokens) = stopOf token.span.stop tokens := by
  unfold stopOf
  rw [List.getLast?_cons]
  cases tokens.getLast? <;> rfl

end Token

namespace Parser

namespace Level

theorem negate_negation (level : Level) (operand : Filter) :
    level.negate (.negation operand) = .negation (level.negate operand) := by
  unfold negate
  induction level.negations with
  | zero => rfl
  | succ negations inductionHypothesis => simp only [Nat.repeat, inductionHypothesis]

theorem negate_succ (alternatives factors : Option Filter) (negations : Nat) (operand : Filter) :
    negate ⟨alternatives, factors, negations + 1⟩ operand =
      .negation (negate ⟨alternatives, factors, negations⟩ operand) := rfl

end Level

namespace State

/-- The state after a stretch of tokens, if each of them may come where it stands. -/
def steps? (state : State) (tokens : List Token) : Option State :=
  tokens.foldlM step? state

@[simp]
theorem steps?_nil (state : State) : state.steps? [] = some state := rfl

@[simp]
theorem steps?_cons (state : State) (token : Token) (tokens : List Token) :
    state.steps? (token :: tokens) = (state.step? token).bind fun next => next.steps? tokens := rfl

theorem steps?_append (state : State) (first second : List Token) :
    state.steps? (first ++ second) =
      (state.steps? first).bind fun next => next.steps? second :=
  List.foldlM_append

theorem steps?_append_of_eq {state middle : State} {first second : List Token}
    (reached : state.steps? first = some middle) :
    state.steps? (first ++ second) = middle.steps? second := by
  rw [steps?_append, reached, Option.bind_some]

/-- The machine gets through the tokens or stops at one of them. -/
theorem steps?_cases (state : State) (tokens : List Token) :
    (∃ final, state.steps? tokens = some final) ∨
      ∃ before token after middle, tokens = before ++ token :: after ∧
        state.steps? before = some middle ∧ middle.step? token = none := by
  induction tokens generalizing state with
  | nil => exact .inl ⟨state, rfl⟩
  | cons token tokens inductionHypothesis =>
      cases stepped : state.step? token with
      | none => exact .inr ⟨[], token, tokens, state, rfl, rfl, stepped⟩
      | some next =>
          rcases inductionHypothesis next with
            ⟨final, reached⟩ | ⟨before, stuck, after, middle, rfl, reached, refused⟩
          · exact .inl ⟨final, by rw [steps?_cons, stepped, Option.bind_some, reached]⟩
          · refine .inr ⟨token :: before, stuck, after, middle, rfl, ?_, refused⟩
            rw [steps?_cons, stepped, Option.bind_some, reached]

/-- Behind a stretch that the machine gets through, it goes on from where the stretch leads and
stops. -/
theorem run_append {state final : State} {tokens : List Token} (last : Nat) (rest : List Token)
    (unmarked : ∀ token ∈ tokens, token.kind ≠ .endOfInput)
    (reached : state.steps? tokens = some final) :
    state.run last (tokens ++ rest) = final.run (Token.stopOf last tokens) rest := by
  induction tokens generalizing state last with
  | nil =>
      cases reached
      rfl
  | cons token tokens inductionHypothesis =>
      rw [List.forall_mem_cons] at unmarked
      rw [steps?_cons, Option.bind_eq_some_iff] at reached
      obtain ⟨next, stepped, reached⟩ := reached
      rw [List.cons_append, run, if_neg unmarked.1, stepped, Token.stopOf_cons]
      exact inductionHypothesis _ unmarked.2 reached

theorem run_eq_conclude {state final : State} {tokens : List Token} (last : Nat)
    (unmarked : ∀ token ∈ tokens, token.kind ≠ .endOfInput)
    (reached : state.steps? tokens = some final) :
    state.run last tokens = final.conclude (Token.stopOf last tokens) := by
  have through := run_append last [] unmarked reached
  rwa [List.append_nil] at through

/-- The final mark is met where the tokens before it lead, and what follows the mark is not read. -/
theorem run_of_steps? {state final : State} {tokens : List Token} {mark : Token} (last : Nat)
    (later : List Token) (marks : mark.kind = .endOfInput)
    (unmarked : ∀ token ∈ tokens, token.kind ≠ .endOfInput)
    (reached : state.steps? tokens = some final) :
    state.run last (tokens ++ mark :: later) = final.conclude mark.span.start := by
  rw [run_append last (mark :: later) unmarked reached, run, if_pos marks]

theorem run_of_step?_eq_none {state middle : State} {before : List Token} {token : Token}
    (last : Nat) (more : List Token) (unmarked : ∀ other ∈ before, other.kind ≠ .endOfInput)
    (ordinary : token.kind ≠ .endOfInput) (reached : state.steps? before = some middle)
    (stuck : middle.step? token = none) :
    state.run last (before ++ token :: more) =
      .error ⟨⟨middle.expects, token.kind⟩, token.span.start⟩ := by
  rw [run_append last (token :: more) unmarked reached, run, if_neg ordinary, stuck]

theorem steps?_eq_none {state middle : State} {before : List Token} {token : Token}
    (after : List Token) (reached : state.steps? before = some middle)
    (stuck : middle.step? token = none) : state.steps? (before ++ token :: after) = none := by
  rw [steps?_append_of_eq reached, steps?_cons, stuck, Option.bind_none]

theorem conclude_eq_ok_iff {state : State} {place : Nat} {filter : Filter} :
    state.conclude place = .ok filter ↔ state.result? = some filter := by
  unfold conclude
  cases state.result? <;> simp

/-- A list without the final mark is read exactly when the machine gets through it and may end
there. -/
theorem run_eq_ok_iff {state : State} {tokens : List Token} {filter : Filter} (last : Nat)
    (unmarked : ∀ token ∈ tokens, token.kind ≠ .endOfInput) :
    state.run last tokens = .ok filter ↔
      ∃ final, state.steps? tokens = some final ∧ final.result? = some filter := by
  rcases state.steps?_cases tokens with
    ⟨final, reached⟩ | ⟨before, token, after, middle, rfl, reached, stuck⟩
  · rw [run_eq_conclude last unmarked reached, conclude_eq_ok_iff, reached]
    simp
  · have nowhere := steps?_eq_none after reached stuck
    simp only [List.forall_mem_append, List.forall_mem_cons] at unmarked
    rw [run_of_step?_eq_none last after unmarked.1 unmarked.2.1 reached stuck, nowhere]
    simp

section Marked

variable {state : State} {tokens : List Token} {mark : Token} (last : Nat) (later : List Token)
  (marks : mark.kind = .endOfInput) (unmarked : ∀ token ∈ tokens, token.kind ≠ .endOfInput)

include marks unmarked

/-- A final mark matters only by its place, and only where the tokens may not end: there it is the
place of the error. -/
theorem run_append_mark_cases :
    state.run last (tokens ++ mark :: later) = state.run last tokens ∨
      ∃ final : State, final.result? = none ∧
        state.run last tokens = final.conclude (Token.stopOf last tokens) ∧
        state.run last (tokens ++ mark :: later) = final.conclude mark.span.start := by
  rcases state.steps?_cases tokens with
    ⟨final, reached⟩ | ⟨before, token, after, middle, rfl, reached, stuck⟩
  · have ended := run_eq_conclude last unmarked reached
    have met := run_of_steps? last later marks unmarked reached
    cases result : final.result? with
    | none => exact .inr ⟨final, result, ended, met⟩
    | some filter =>
        left
        rw [ended, met, conclude, conclude, result]
  · simp only [List.forall_mem_append, List.forall_mem_cons] at unmarked
    left
    rw [List.append_assoc, List.cons_append,
      run_of_step?_eq_none last _ unmarked.1 unmarked.2.1 reached stuck,
      run_of_step?_eq_none last _ unmarked.1 unmarked.2.1 reached stuck]

theorem run_append_final {filter : Filter} :
    state.run last (tokens ++ mark :: later) = .ok filter ↔ state.run last tokens = .ok filter := by
  rcases run_append_mark_cases last later marks unmarked with same | ⟨final, result, ended, met⟩
  · rw [same]
  · rw [met, ended, conclude_eq_ok_iff, conclude_eq_ok_iff]

/-- The end of the tokens is a final mark where the last of them stops. -/
theorem run_append_mark (place : mark.span.start = Token.stopOf last tokens) :
    state.run last (tokens ++ mark :: later) = state.run last tokens := by
  rcases run_append_mark_cases last later marks unmarked with same | ⟨final, _, ended, met⟩
  · exact same
  · rw [met, ended, place]

end Marked

end State

end Parser

end FilterBox
