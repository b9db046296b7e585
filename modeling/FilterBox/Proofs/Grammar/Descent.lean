import FilterBox.Proofs.Grammar.Run

/-!
The descent is the machine.

Wherever the machine waits for an expression, a product, a factor or an operand, it comes to the
outcome of the descent at that index, and goes on behind what the descent has read
(`State.runFrom_expression` and its companions). The one state stands for many: once an operand is
complete, the machine keeps apart what the descent has already put together, and that makes no
difference to what follows (`State.runFrom_collapse`). So a token list is read as the machine reads
it (`Filter.ofTokens_eq_outcome`), and its end is a final mark where the last token stops
(`Filter.ofTokens_append_mark`).
-/

namespace FilterBox

namespace Parser

section Bind

variable {ε α β : Type} {outcome : Except ε α} {first second : α → Except ε β}

theorem bind_eq_ok_iff {result : β} :
    outcome >>= first = .ok result ↔ ∃ value, outcome = .ok value ∧ first value = .ok result := by
  cases outcome with
  | error => simp [bind, Except.bind]
  | ok value => simp [bind, Except.bind]

theorem bind_congr_of_ok (same : ∀ value, outcome = .ok value → first value = second value) :
    outcome >>= first = outcome >>= second := by
  cases outcome with
  | error => rfl
  | ok value => exact same value rfl

end Bind

variable {tokens : Array Token} {index : Nat}

theorem peek_of_getElem? {token : Token} (found : tokens[index]? = some token) :
    peek tokens index = token.kind := by
  rw [peek, found]

theorem position_of_getElem? {token : Token} (found : tokens[index]? = some token) :
    position tokens index = token.span.start := by
  rw [position, found]

namespace State

def runFrom (state : State) (tokens : Array Token) (index : Nat) : Except SyntaxError Filter :=
  state.run (Token.stopOf 0 (tokens.toList.take index)) (tokens.toList.drop index)

theorem runFrom_of_getElem? {token : Token} (state : State) (found : tokens[index]? = some token) :
    state.runFrom tokens index =
      if token.kind = .endOfInput then
        state.conclude token.span.start
      else
        match state.step? token with
        | some next => next.runFrom tokens (index + 1)
        | none => .error ⟨⟨state.expects, token.kind⟩, token.span.start⟩ := by
  have listed : tokens.toList[index]? = some token := by simpa using found
  obtain ⟨inside, here⟩ := List.getElem?_eq_some_iff.mp listed
  have place : Token.stopOf 0 (tokens.toList.take (index + 1)) = token.span.stop := by
    rw [List.take_add_one, listed]
    simp [Token.stopOf]
  rw [runFrom, List.drop_eq_getElem_cons inside, here, run, ← place]
  rfl

theorem runFrom_of_peek (state : State) (ended : peek tokens index = .endOfInput) :
    state.runFrom tokens index = state.conclude (position tokens index) := by
  cases found : tokens[index]? with
  | none =>
      have beyond : tokens.toList.length ≤ index := by simpa using found
      rw [runFrom, List.take_of_length_le beyond, List.drop_of_length_le beyond, run]
      simp [position, found, Token.stopOf, Array.getLast?_toList]
  | some token =>
      have marks : token.kind = .endOfInput := (peek_of_getElem? found).symm.trans ended
      rw [runFrom_of_getElem? state found, if_pos marks, position_of_getElem? found]

/-- The machine stops where nothing that stands there may come, and it may not end either. -/
theorem runFrom_of_refused {state : State} (unfinished : state.result? = none)
    (refused : ∀ token, tokens[index]? = some token → state.step? token = none) :
    state.runFrom tokens index = .error (unexpected tokens index state.expects) := by
  by_cases ended : peek tokens index = .endOfInput
  · rw [runFrom_of_peek state ended, conclude, unfinished, unexpected, ended]
  · cases found : tokens[index]? with
    | none => simp [peek, found] at ended
    | some token =>
        rw [peek_of_getElem? found] at ended
        rw [runFrom_of_getElem? state found, if_neg ended, refused token found, unexpected,
          peek_of_getElem? found, position_of_getElem? found]

theorem runFrom_expect {state : State} (kind : Token.Kind) {next : Token → State}
    (ordinary : kind ≠ .endOfInput) (unfinished : state.result? = none)
    (waits : peek tokens index ≠ kind → state.expects = .token kind)
    (steps : ∀ token, tokens[index]? = some token →
      state.step? token = if token.kind = kind then some (next token) else none) :
    state.runFrom tokens index =
      expect tokens index kind >>= fun read => (next read.value).runFrom tokens read.next := by
  unfold expect
  split
  next token found =>
    by_cases same : token.kind = kind
    · rw [if_pos same, runFrom_of_getElem? state found, if_neg (same ▸ ordinary),
        steps token found, if_pos same]
      rfl
    · have stands : peek tokens index ≠ kind := by rwa [peek_of_getElem? found]
      have refused : ∀ other, tokens[index]? = some other → state.step? other = none := by
        intro other here
        obtain rfl := Option.some.inj (found.symm.trans here)
        rw [steps token found, if_neg same]
      rw [if_neg same, runFrom_of_refused unfinished refused, waits stands]
      rfl
  next found =>
    have stands : peek tokens index ≠ kind := by simpa [peek, found] using ordinary.symm
    have refused : ∀ other, tokens[index]? = some other → state.step? other = none := by
      intro other here
      simp [found] at here
    rw [runFrom_of_refused unfinished refused, waits stands]
    rfl

theorem runFrom_of_skip {state next : State} (stands : peek tokens index ≠ .endOfInput)
    (steps : ∀ token, tokens[index]? = some token → state.step? token = some next) :
    state.runFrom tokens index = next.runFrom tokens (skip tokens index stands).next := by
  cases found : tokens[index]? with
  | none => simp [peek, found] at stands
  | some token =>
      rw [peek_of_getElem? found] at stands
      rw [runFrom_of_getElem? state found, if_neg stands, steps token found]
      rfl

theorem runFrom_of_consume? {state next : State} {connective : Connective}
    {mark : Read tokens index Unit} (found : consume? tokens index connective = some mark)
    (steps : ∀ token, token.connective? = some connective → state.step? token = some next) :
    state.runFrom tokens index = next.runFrom tokens mark.next := by
  unfold consume? at found
  split at found
  next token here =>
    obtain ⟨spelled, same⟩ := Option.ite_none_right_eq_some.mp found
    obtain rfl := Option.some.inj same
    have ordinary : token.kind ≠ .endOfInput := by simp [Token.kind_of_connective? spelled]
    rw [runFrom_of_getElem? state here, if_neg ordinary, steps token spelled]
  next => simp at found

theorem connective?_ne_of_consume? {connective : Connective} {token : Token}
    (missing : consume? tokens index connective = none) (found : tokens[index]? = some token) :
    token.connective? ≠ some connective := by
  intro spelled
  unfold consume? at missing
  split at missing
  next other here =>
    obtain rfl := Option.some.inj (here.symm.trans found)
    simp [spelled] at missing
  next here => simp [here] at found

section Condition

variable {field : Token} {operator : Operator} {level : Level} {outer : List Level}

theorem runFrom_single :
    runFrom ⟨.value field operator, level, outer⟩ tokens index =
      single tokens index >>= fun read =>
        (finish ⟨.operand, level, outer⟩ (.condition ⟨field.text, operator, read.value.1,
          some (field.span.cover read.value.2)⟩)).runFrom tokens read.next := by
  rw [single, bind_assoc, runFrom_expect .value (by decide) rfl (fun _ => rfl) fun _ _ => rfl]
  rfl

theorem runFrom_items {start : Nat} (read : Read tokens start (List Value)) :
    runFrom ⟨.separator field operator read.value, level, outer⟩ tokens read.next =
      items tokens start read >>= fun all =>
        runFrom ⟨.separator field operator all.value, level, outer⟩ tokens all.next := by
  fun_induction items tokens start read with
  | case1 read stands comma inductionHypothesis =>
      have follows : ∀ token, tokens[read.next]? = some token →
          step? ⟨.separator field operator read.value, level, outer⟩ token =
            some ⟨.item field operator read.value, level, outer⟩ := by
        intro token found
        have isComma : token.kind = .comma := (peek_of_getElem? found).symm.trans stands
        simp [step?, isComma]
      rw [runFrom_of_skip (by simp [stands]) follows, bind_assoc,
        runFrom_expect .value (by decide) rfl (fun _ => rfl) fun _ _ => rfl]
      exact bind_congr fun item => inductionHypothesis item
  | case2 read => rfl

theorem peek_items {start : Nat} {read all : Read tokens start (List Value)}
    (found : items tokens start read = .ok all) : peek tokens all.next ≠ .comma := by
  fun_induction items tokens start read with
  | case1 read stands comma inductionHypothesis =>
      obtain ⟨item, _, found⟩ := bind_eq_ok_iff.mp found
      exact inductionHypothesis item found
  | case2 read other =>
      obtain rfl := Except.ok.inj found
      exact other

theorem runFrom_list :
    runFrom ⟨.list field operator, level, outer⟩ tokens index =
      list tokens index >>= fun read =>
        (finish ⟨.operand, level, outer⟩ (.condition ⟨field.text, operator, read.value.1,
          some (field.span.cover read.value.2)⟩)).runFrom tokens read.next := by
  simp only [list, bind_assoc, pure_bind]
  rw [runFrom_expect .leftParen (by decide) rfl (fun _ => rfl) fun _ _ => rfl]
  refine bind_congr fun opening => ?_
  rw [runFrom_expect .value (by decide) rfl (fun _ => rfl) fun _ _ => rfl]
  refine bind_congr fun first => ?_
  refine (runFrom_items (first.give [first.value.value])).trans
    (bind_congr_of_ok fun items found => ?_)
  have closes : ∀ token, tokens[items.next]? = some token →
      step? ⟨.separator field operator items.value, level, outer⟩ token =
        if token.kind = .rightParen then
          some (finish ⟨.operand, level, outer⟩ (.condition ⟨field.text, operator,
            .list items.value, some (field.span.cover token.span)⟩))
        else
          none := by
    intro token here
    have other : token.kind ≠ .comma := peek_of_getElem? here ▸ peek_items found
    cases kind : token.kind with
    | comma => exact absurd kind other
    | _ => simp [step?, kind, finish]
  rw [runFrom_expect .rightParen (by decide) rfl (fun _ => rfl) closes]
  rfl

theorem runFrom_condition (stands : peek tokens index = .field) :
    runFrom ⟨.operand, level, outer⟩ tokens index =
      condition tokens index >>= fun read =>
        (finish ⟨.operand, level, outer⟩ read.value).runFrom tokens read.next := by
  have begins : ∀ token, tokens[index]? = some token →
      step? ⟨.operand, level, outer⟩ token =
        if token.kind = .field then some ⟨.operator token, level, outer⟩ else none := by
    intro token found
    have isField : token.kind = .field := (peek_of_getElem? found).symm.trans stands
    simp [step?, isField]
  simp only [condition, bind_assoc]
  rw [runFrom_expect .field (by decide) rfl (fun other => absurd stands other) begins]
  refine bind_congr fun field => ?_
  rw [runFrom_expect .operator (by decide) rfl (fun _ => rfl) fun _ _ => rfl]
  refine bind_congr fun sign => ?_
  by_cases takesList : sign.value.operator.takesList = true
  · simp only [if_pos takesList, bind_assoc]
    exact runFrom_list
  · simp only [if_neg takesList, bind_assoc]
    exact runFrom_single

end Condition

section Complete

variable {outer : List Level}

theorem runFrom_congr {state state' : State} (expects : state.expects = state'.expects)
    (result : state.result? = state'.result?)
    (steps : ∀ token, tokens[index]? = some token → state.step? token = state'.step? token) :
    state.runFrom tokens index = state'.runFrom tokens index := by
  cases found : tokens[index]? with
  | none =>
      have ended : peek tokens index = .endOfInput := by simp [peek, found]
      rw [runFrom_of_peek state ended, runFrom_of_peek state' ended, conclude, conclude, result,
        expects]
  | some token =>
      rw [runFrom_of_getElem? state found, runFrom_of_getElem? state' found, steps token found,
        conclude, conclude, result, expects]

/-- The factors of a product that are behind count as one operand. -/
theorem runFrom_collapse (level : Level) (factor : Filter) :
    runFrom ⟨.complete factor, level, outer⟩ tokens index =
      runFrom ⟨.complete (level.product factor), ⟨level.alternatives, none, 0⟩, outer⟩
        tokens index := by
  refine runFrom_congr rfl ?_ fun token _ => ?_
  · cases outer <;> rfl
  · simp only [step?]
    split <;> rfl

theorem step?_complete {token : Token} (level : Level) (factor : Filter)
    (noAnd : token.connective? ≠ some .and) (noOr : token.connective? ≠ some .or) :
    step? ⟨.complete factor, level, outer⟩ token =
      match outer with
      | [] => none
      | around :: outer =>
          if token.kind = .rightParen then
            some (finish ⟨.operand, around, outer⟩ (level.expression factor))
          else
            none := by
  cases spelled : token.connective? with
  | none => cases outer <;> cases kind : token.kind <;> simp [step?, spelled, kind]
  | some connective =>
      have kind := Token.kind_of_connective? spelled
      cases connective with
      | and => exact absurd spelled noAnd
      | or => exact absurd spelled noOr
      | not => cases outer <;> simp [step?, spelled, kind]

/-- Where no further factor follows, all that has been read of an expression counts as one
operand. -/
theorem runFrom_collapse_expression (level : Level) (factor : Filter)
    (missing : consume? tokens index .and = none) :
    runFrom ⟨.complete factor, level, outer⟩ tokens index =
      runFrom ⟨.complete (level.expression factor), .empty, outer⟩ tokens index := by
  refine runFrom_congr rfl ?_ fun token found => ?_
  · cases outer <;> rfl
  · have noAnd := connective?_ne_of_consume? missing found
    simp only [step?]
    split
    next spelled => exact absurd spelled noAnd
    next => rfl
    next => rfl
    next => rfl

theorem consume?_and_conjuncts {start : Nat} {left all : Read tokens start Filter}
    (found : conjuncts tokens start left = .ok all) :
    consume? tokens all.next .and = none := by
  rw [conjuncts] at found
  cases mark : consume? tokens left.next .and with
  | some passed =>
      rw [mark] at found
      obtain ⟨right, _, found⟩ := bind_eq_ok_iff.mp found
      exact consume?_and_conjuncts found
  | none =>
      rw [mark] at found
      obtain rfl := Except.ok.inj found
      exact mark
termination_by tokens.size - left.next
decreasing_by exact (passed.extend right ()).shorter

theorem consume?_and_product {read : Read tokens index Filter}
    (found : product tokens index = .ok read) : consume? tokens read.next .and = none := by
  rw [product] at found
  obtain ⟨left, _, found⟩ := bind_eq_ok_iff.mp found
  exact consume?_and_conjuncts found

theorem consume?_disjuncts {start : Nat} {left all : Read tokens start Filter}
    (found : disjuncts tokens start left = .ok all)
    (missing : consume? tokens left.next .and = none) :
    consume? tokens all.next .and = none ∧ consume? tokens all.next .or = none := by
  rw [disjuncts] at found
  cases mark : consume? tokens left.next .or with
  | some passed =>
      rw [mark] at found
      obtain ⟨right, read, found⟩ := bind_eq_ok_iff.mp found
      have last := consume?_and_product read
      exact consume?_disjuncts found last
  | none =>
      rw [mark] at found
      obtain rfl := Except.ok.inj found
      exact ⟨missing, mark⟩
termination_by tokens.size - left.next
decreasing_by exact (passed.extend right ()).shorter

theorem consume?_expression {read : Read tokens index Filter}
    (found : expression tokens index = .ok read) :
    consume? tokens read.next .and = none ∧ consume? tokens read.next .or = none := by
  rw [expression] at found
  obtain ⟨left, first, found⟩ := bind_eq_ok_iff.mp found
  exact consume?_disjuncts found (consume?_and_product first)

theorem finish_negation (level : Level) (operand : Filter) :
    finish ⟨.operand, { level with negations := level.negations + 1 }, outer⟩ operand =
      finish ⟨.operand, level, outer⟩ (.negation operand) := by
  rw [finish, finish, Level.negate_negation, Level.negate_succ]

end Complete

-- One lemma for each reader, along the calls and with the measure of the readers themselves. Each
-- holds for every stack of open expressions, since a group is read above the one around it.
mutual

theorem runFrom_expression (index : Nat) (outer : List Level) :
    runFrom ⟨.operand, .empty, outer⟩ tokens index =
      expression tokens index >>= fun read =>
        runFrom ⟨.complete read.value, .empty, outer⟩ tokens read.next := by
  rw [expression, bind_assoc]
  exact (runFrom_product index none outer).trans
    (bind_congr fun left => runFrom_disjuncts left outer)
termination_by (tokens.size - index, 3)
decreasing_by
  · exact .right _ (by decide)
  · exact .left _ _ left.shorter

theorem runFrom_disjuncts {start : Nat} (left : Read tokens start Filter) (outer : List Level) :
    runFrom ⟨.complete left.value, .empty, outer⟩ tokens left.next =
      disjuncts tokens start left >>= fun all =>
        runFrom ⟨.complete all.value, .empty, outer⟩ tokens all.next := by
  rw [disjuncts]
  cases found : consume? tokens left.next .or with
  | some mark =>
      have steps : ∀ token : Token, token.connective? = some .or →
          step? ⟨.complete left.value, .empty, outer⟩ token =
            some ⟨.operand, ⟨some left.value, none, 0⟩, outer⟩ := by
        intro token spelled
        simp [step?, spelled, Level.expression, Level.product, Level.empty]
      rw [runFrom_of_consume? found steps, bind_assoc, runFrom_product mark.next _ outer]
      refine bind_congr_of_ok fun right found => ?_
      have more := runFrom_disjuncts (left.extend (mark.extend right ())
        (.disjunction left.value right.value)) outer
      exact (runFrom_collapse_expression _ _ (consume?_and_product found)).trans more
  | none => rfl
termination_by (tokens.size - left.next, 0)
decreasing_by
  · exact .left _ _ mark.shorter
  · exact .left _ _ (mark.extend right ()).shorter

theorem runFrom_product (index : Nat) (alternatives : Option Filter) (outer : List Level) :
    runFrom ⟨.operand, ⟨alternatives, none, 0⟩, outer⟩ tokens index =
      product tokens index >>= fun read =>
        runFrom ⟨.complete read.value, ⟨alternatives, none, 0⟩, outer⟩ tokens read.next := by
  rw [product, bind_assoc, runFrom_factor index ⟨alternatives, none, 0⟩ outer]
  exact bind_congr fun left => runFrom_conjuncts left alternatives outer
termination_by (tokens.size - index, 2)
decreasing_by
  · exact .right _ (by decide)
  · exact .left _ _ left.shorter

theorem runFrom_conjuncts {start : Nat} (left : Read tokens start Filter)
    (alternatives : Option Filter) (outer : List Level) :
    runFrom ⟨.complete left.value, ⟨alternatives, none, 0⟩, outer⟩ tokens left.next =
      conjuncts tokens start left >>= fun all =>
        runFrom ⟨.complete all.value, ⟨alternatives, none, 0⟩, outer⟩ tokens all.next := by
  rw [conjuncts]
  cases found : consume? tokens left.next .and with
  | some mark =>
      have steps : ∀ token : Token, token.connective? = some .and →
          step? ⟨.complete left.value, ⟨alternatives, none, 0⟩, outer⟩ token =
            some ⟨.operand, ⟨alternatives, some left.value, 0⟩, outer⟩ := by
        intro token spelled
        simp [step?, spelled, Level.product]
      rw [runFrom_of_consume? found steps, bind_assoc,
        runFrom_factor mark.next ⟨alternatives, some left.value, 0⟩ outer]
      refine bind_congr fun right => ?_
      have more := runFrom_conjuncts (left.extend (mark.extend right ())
        (.conjunction left.value right.value)) alternatives outer
      exact (runFrom_collapse _ _).trans more
  | none => rfl
termination_by (tokens.size - left.next, 0)
decreasing_by
  · exact .left _ _ mark.shorter
  · exact .left _ _ (mark.extend right ()).shorter

theorem runFrom_factor (index : Nat) (level : Level) (outer : List Level) :
    runFrom ⟨.operand, level, outer⟩ tokens index =
      factor tokens index >>= fun read =>
        (finish ⟨.operand, level, outer⟩ read.value).runFrom tokens read.next := by
  rw [factor]
  cases found : consume? tokens index .not with
  | none => exact runFrom_operand index level outer found
  | some mark =>
      have steps : ∀ token : Token, token.connective? = some .not →
          step? ⟨.operand, level, outer⟩ token =
            some ⟨.operand, { level with negations := level.negations + 1 }, outer⟩ := by
        intro token spelled
        simp [step?, spelled, Token.kind_of_connective? spelled]
      rw [runFrom_of_consume? found steps, bind_assoc,
        runFrom_factor mark.next { level with negations := level.negations + 1 } outer]
      refine bind_congr fun operand => ?_
      rw [finish_negation]
      rfl
termination_by (tokens.size - index, 1)
decreasing_by
  · exact .right _ (by decide)
  · exact .left _ _ mark.shorter

theorem runFrom_operand (index : Nat) (level : Level) (outer : List Level)
    (missing : consume? tokens index .not = none) :
    runFrom ⟨.operand, level, outer⟩ tokens index =
      operand tokens index >>= fun read =>
        (finish ⟨.operand, level, outer⟩ read.value).runFrom tokens read.next := by
  rw [operand]
  split
  next stands =>
    have opens : ∀ token, tokens[index]? = some token →
        step? ⟨.operand, level, outer⟩ token = some ⟨.operand, .empty, level :: outer⟩ := by
      intro token found
      have isOpening : token.kind = .leftParen := (peek_of_getElem? found).symm.trans stands
      simp [step?, isOpening]
    simp only [bind_assoc]
    rw [runFrom_of_skip (by simp [stands]) opens, runFrom_expression _ (level :: outer)]
    refine bind_congr_of_ok fun inner found => ?_
    have closes : ∀ token, tokens[inner.next]? = some token →
        step? ⟨.complete inner.value, .empty, level :: outer⟩ token =
          if token.kind = .rightParen then
            some (finish ⟨.operand, level, outer⟩ inner.value)
          else
            none := by
      intro token here
      obtain ⟨noAnd, noOr⟩ := consume?_expression found
      exact step?_complete .empty inner.value (connective?_ne_of_consume? noAnd here)
        (connective?_ne_of_consume? noOr here)
    rw [runFrom_expect .rightParen (by decide) rfl (fun _ => rfl) closes]
    rfl
  next stands => exact runFrom_condition stands
  next noOpening noField =>
    have refused : ∀ token, tokens[index]? = some token →
        step? ⟨.operand, level, outer⟩ token = none := by
      intro token found
      have other := connective?_ne_of_consume? missing found
      rw [peek_of_getElem? found] at noOpening noField
      cases kind : token.kind with
      | leftParen => exact absurd kind noOpening
      | field => exact absurd kind noField
      | _ => simp [step?, kind, other]
    rw [runFrom_of_refused rfl refused]
    rfl
termination_by (tokens.size - index, 0)
decreasing_by
  exact .left _ _ (skip tokens index _).shorter

end

theorem run_start (tokens : Array Token) :
    State.start.run 0 tokens.toList = expression tokens 0 >>= fun read =>
    if peek tokens read.next = .endOfInput then
      .ok read.value
    else
      .error (unexpected tokens read.next (.token .endOfInput)) := by
  have begun : State.start.run 0 tokens.toList = State.start.runFrom tokens 0 := rfl
  rw [begun]
  refine (runFrom_expression 0 []).trans (bind_congr_of_ok fun read found => ?_)
  split
  next ended =>
    rw [runFrom_of_peek _ ended]
    rfl
  next unended =>
    cases here : tokens[read.next]? with
    | none => simp [peek, here] at unended
    | some token =>
        rw [peek_of_getElem? here] at unended
        obtain ⟨noAnd, noOr⟩ := consume?_expression found
        rw [runFrom_of_getElem? _ here, if_neg unended,
          step?_complete .empty read.value (connective?_ne_of_consume? noAnd here)
            (connective?_ne_of_consume? noOr here), unexpected, peek_of_getElem? here,
          position_of_getElem? here]
        rfl

end State

end Parser

/-- What the machine makes of a token list; unlike the descent, it can be evaluated in proofs. -/
def Parser.outcome (tokens : List Token) : Except SyntaxError (Option Filter) :=
  if tokens.head?.all fun token => token.kind = .endOfInput then
    .ok none
  else
    (Parser.State.start.run 0 tokens).map some

/-- The descent and the machine agree on every token list. -/
theorem Filter.ofTokens_eq_outcome (tokens : List Token) :
    Filter.ofTokens tokens = Parser.outcome tokens := by
  have begins : Parser.peek tokens.toArray 0 = .endOfInput ↔
      tokens.head?.all (fun token => token.kind = .endOfInput) = true := by
    cases tokens <;> simp [Parser.peek]
  simp only [Filter.ofTokens, Parser.outcome, begins]
  split
  next => rfl
  next =>
    have run := Parser.State.run_start tokens.toArray
    rw [List.toList_toArray] at run
    rw [run]
    cases Parser.expression tokens.toArray 0 with
    | error => rfl
    | ok read =>
        simp only [bind, Except.bind, Except.map]
        split <;> rfl

theorem Query.parse_eq_outcome (query : String) :
    Query.parse query = Parser.outcome (Query.tokens query) :=
  Filter.ofTokens_eq_outcome (Query.tokens query)

/-- The machine decides what begins with a token. -/
theorem Filter.ofTokens_append {tokens : List Token} (nonempty : tokens ≠ [])
    (unmarked : ∀ token ∈ tokens, token.kind ≠ .endOfInput) (rest : List Token) :
    Filter.ofTokens (tokens ++ rest) = (Parser.State.start.run 0 (tokens ++ rest)).map some := by
  obtain ⟨first, later, rfl⟩ := List.exists_cons_of_ne_nil nonempty
  have ordinary : first.kind ≠ .endOfInput := unmarked first List.mem_cons_self
  rw [Filter.ofTokens_eq_outcome, Parser.outcome, List.cons_append,
    if_neg (by simpa using ordinary)]

theorem Filter.ofTokens_of_ne_nil {tokens : List Token} (nonempty : tokens ≠ [])
    (unmarked : ∀ token ∈ tokens, token.kind ≠ .endOfInput) :
    Filter.ofTokens tokens = (Parser.State.start.run 0 tokens).map some := by
  have whole := Filter.ofTokens_append nonempty unmarked []
  rwa [List.append_nil] at whole

/-- A missing final mark reads as one where the last token stops, and what follows a mark is not
read. The outcome is the same filter with the same spans, or the same error at the same place. -/
theorem Filter.ofTokens_append_mark {tokens : List Token}
    (unmarked : ∀ token ∈ tokens, token.kind ≠ .endOfInput) {mark : Token}
    (marks : mark.kind = .endOfInput) (place : mark.span.start = Token.stopOf 0 tokens)
    (later : List Token) :
    Filter.ofTokens (tokens ++ mark :: later) = Filter.ofTokens tokens := by
  by_cases empty : tokens = []
  · subst empty
    simp [Filter.ofTokens_eq_outcome, Parser.outcome, marks]
  · rw [Filter.ofTokens_append empty unmarked, Filter.ofTokens_of_ne_nil empty unmarked,
      Parser.State.run_append_mark 0 later marks unmarked place]

/-- Tokens of `a:in (x`. -/
def unclosedList : List Token :=
  [⟨.field, "a", none, ⟨0, 1⟩⟩, ⟨.operator, ":in", none, ⟨1, 4⟩⟩, ⟨.leftParen, "(", none, ⟨5, 6⟩⟩,
    ⟨.value, "x", some .string, ⟨6, 7⟩⟩]

/-- The parenthesis behind the mark does not close the list. -/
theorem Filter.ofTokens_append_mark_unclosedList :
    (∀ token ∈ unclosedList, token.kind ≠ .endOfInput) ∧ Token.stopOf 0 unclosedList = 7 ∧
      Filter.ofTokens unclosedList = .error ⟨⟨.token .rightParen, .endOfInput⟩, 7⟩ ∧
      Filter.ofTokens (unclosedList ++ Token.final 7 :: [⟨.rightParen, ")", none, ⟨7, 8⟩⟩]) =
        Filter.ofTokens unclosedList :=
  have unmarked : ∀ token ∈ unclosedList, token.kind ≠ .endOfInput := by decide
  have read := Filter.ofTokens_eq_outcome unclosedList
  ⟨unmarked, rfl, read, Filter.ofTokens_append_mark unmarked rfl rfl _⟩

end FilterBox
