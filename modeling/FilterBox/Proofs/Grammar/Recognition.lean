import FilterBox.Proofs.Grammar.Completeness
import FilterBox.Proofs.Grammar.Descent
import FilterBox.Proofs.Grammar.Soundness

/-!
The reader accepts the grammar, and gives each token list of the grammar its only tree.
-/

namespace FilterBox.Grammar

open FilterBox.Parser

theorem Items.kind_ne {tokens : List Token} {items : List Value} {kind : Token.Kind}
    (derived : Items tokens items) (noValue : kind ≠ .value) (noComma : kind ≠ .comma) :
    ∀ token ∈ tokens, token.kind ≠ kind := by
  induction derived with
  | one isValue => simp [isValue, noValue.symm]
  | more _ isComma isValue inductionHypothesis =>
      simpa [or_imp, forall_and, isComma, isValue, noValue.symm, noComma.symm]
        using inductionHypothesis

theorem Derives.kinds {category : Category} {tokens : List Token} {filter : Filter}
    (derived : Derives category tokens filter) :
    ∀ token ∈ tokens, token.kind ≠ .endOfInput := by
  induction derived with
  | disjunction _ isOr _ left right =>
      simpa [or_imp, forall_and, Token.kind_of_connective? isOr] using ⟨left, right⟩
  | product _ inductionHypothesis => exact inductionHypothesis
  | conjunction _ isAnd _ left right =>
      simpa [or_imp, forall_and, Token.kind_of_connective? isAnd] using ⟨left, right⟩
  | factor _ inductionHypothesis => exact inductionHypothesis
  | negation isNot _ inductionHypothesis =>
      simpa [Token.kind_of_connective? isNot] using inductionHypothesis
  | operand _ inductionHypothesis => exact inductionHypothesis
  | group opens _ closes inductionHypothesis =>
      simpa [or_imp, forall_and, opens, closes] using inductionHypothesis
  | comparison isField isOperator _ isValue => simp [isField, isOperator, isValue]
  | @membership _ _ _ _ tokens _ isField isOperator _ opens items closes =>
      have inside : ∀ token ∈ tokens, token.kind ≠ .endOfInput :=
        items.kind_ne (by decide) (by decide)
      simpa [or_imp, forall_and, isField, isOperator, opens, closes] using inside

theorem Derives.ne_nil {category : Category} {tokens : List Token} {filter : Filter}
    (derived : Derives category tokens filter) : tokens ≠ [] := by
  induction derived with
  | product _ inductionHypothesis => exact inductionHypothesis
  | factor _ inductionHypothesis => exact inductionHypothesis
  | operand _ inductionHypothesis => exact inductionHypothesis
  | _ => simp

/-- The machine gets through the tokens of an expression, and no others, to a state in which it may
end. -/
theorem derives_iff_steps? {tokens : List Token} {filter : Filter} :
    Derives .expression tokens filter ↔
      ∃ final, State.start.steps? tokens = some final ∧ final.result? = some filter := by
  constructor
  · intro derived
    obtain ⟨level, factor, reached, whole⟩ := derived.follows []
    exact ⟨_, reached, by simp [State.result?, whole]⟩
  · rintro ⟨final, reached, result⟩
    exact (consumed_start.steps reached).result result

theorem Derives.unique {tokens : List Token} {filter filter' : Filter}
    (derived : Derives .expression tokens filter) (derived' : Derives .expression tokens filter') :
    filter = filter' := by
  obtain ⟨final, reached, result⟩ := derives_iff_steps?.mp derived
  obtain ⟨final', reached', result'⟩ := derives_iff_steps?.mp derived'
  obtain rfl : final = final' := Option.some.inj (reached.symm.trans reached')
  exact Option.some.inj (result.symm.trans result')

theorem map_some_eq_ok_iff {result : Except SyntaxError Filter} {filter : Filter} :
    result.map some = .ok (some filter) ↔ result = .ok filter := by
  cases result <;> simp [Except.map]

theorem ofTokens_eq_ok_some_iff_derives {tokens : List Token} {filter : Filter}
    (unmarked : ∀ token ∈ tokens, token.kind ≠ .endOfInput) :
    Filter.ofTokens tokens = .ok (some filter) ↔ Derives .expression tokens filter := by
  by_cases empty : tokens = []
  · subst empty
    simpa [Filter.ofTokens_eq_outcome, outcome] using fun derived => Derives.ne_nil derived rfl
  · rw [Filter.ofTokens_of_ne_nil empty unmarked, map_some_eq_ok_iff, derives_iff_steps?,
      State.run_eq_ok_iff 0 unmarked]

theorem ofTokens_append_final_iff_derives {tokens : List Token} {filter : Filter} {offset : Nat}
    (unmarked : ∀ token ∈ tokens, token.kind ≠ .endOfInput) :
    Filter.ofTokens (tokens ++ [Token.final offset]) = .ok (some filter) ↔
      Derives .expression tokens filter := by
  by_cases empty : tokens = []
  · subst empty
    simpa [Filter.ofTokens_eq_outcome, outcome, Token.final] using fun derived =>
      Derives.ne_nil derived rfl
  · rw [Filter.ofTokens_append empty unmarked, map_some_eq_ok_iff, derives_iff_steps?,
      State.run_append_final 0 [] rfl unmarked, State.run_eq_ok_iff 0 unmarked]

/-- Exactly the token lists of the grammar are read, each as the only tree that it derives. -/
theorem ofTokens_recognizes {tokens : List Token}
    (unmarked : ∀ token ∈ tokens, token.kind ≠ .endOfInput) :
    (∀ filter : Filter,
      Filter.ofTokens tokens = .ok (some filter) ↔ Derives .expression tokens filter) ∧
    ∀ filter filter' : Filter,
      Derives .expression tokens filter → Derives .expression tokens filter' → filter = filter' :=
  ⟨fun _ => ofTokens_eq_ok_some_iff_derives unmarked, fun _ _ => Derives.unique⟩

/-- Tokens of `not (a:~5 Or b:in(x, y)) and c:z`, out of place, with an unknown operator, a number
that is none and a value without a kind. -/
def mixture : List Token :=
  [⟨.connective, "not", none, ⟨9, 4⟩⟩, ⟨.leftParen, "", none, ⟨0, 0⟩⟩,
    ⟨.field, "a", none, ⟨7, 8⟩⟩, ⟨.operator, ":~", none, ⟨0, 0⟩⟩,
    ⟨.value, "five", some .number, ⟨2, 3⟩⟩, ⟨.connective, "Or", none, ⟨0, 0⟩⟩,
    ⟨.field, "b", none, ⟨1, 2⟩⟩, ⟨.operator, " :IN ", none, ⟨0, 0⟩⟩, ⟨.leftParen, "", none, ⟨0, 0⟩⟩,
    ⟨.value, "x", none, ⟨0, 0⟩⟩, ⟨.comma, "", none, ⟨0, 0⟩⟩,
    ⟨.value, "True", some .boolean, ⟨0, 0⟩⟩, ⟨.rightParen, "", none, ⟨0, 1⟩⟩,
    ⟨.rightParen, "", none, ⟨0, 0⟩⟩,
    ⟨.connective, "and", none, ⟨0, 0⟩⟩, ⟨.field, "c", none, ⟨5, 6⟩⟩,
    ⟨.operator, "=", none, ⟨0, 0⟩⟩, ⟨.value, "z", some .string, ⟨6, 9⟩⟩]

/-- The negation takes the group alone, and the conjunction takes both. -/
theorem ofTokens_recognizes_mixture :
    (∀ token ∈ mixture, token.kind ≠ .endOfInput) ∧
      Derives .expression mixture
        (.conjunction
          (.negation (.disjunction
            (.condition ⟨"a", .equals, .string "five", some ⟨2, 8⟩⟩)
            (.condition ⟨"b", .inList, .list [.string "x", .boolean true], some ⟨0, 2⟩⟩)))
          (.condition ⟨"c", .equals, .string "z", some ⟨5, 9⟩⟩)) :=
  have unmarked : ∀ token ∈ mixture, token.kind ≠ .endOfInput := by decide
  have read := Filter.ofTokens_eq_outcome mixture
  ⟨unmarked, ((ofTokens_recognizes unmarked).1 _).mp read⟩

end FilterBox.Grammar
