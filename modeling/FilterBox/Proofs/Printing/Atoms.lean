import FilterBox.Filter.Leaves
import FilterBox.Proofs.Grammar.Derivation
import FilterBox.Proofs.Grammar.Run
import FilterBox.Proofs.Printing.Readable
import Mathlib.Data.List.Forall2

/-!
What a token list says, read without the grammar.

The fields, operators and values among the tokens of a derivation are those of its tree, in order.
So a tree of tokens that clash with another tree somewhere is not equal to it, however the tokens
are grouped.
-/

namespace FilterBox

/-- What a token contributes to a condition. -/
inductive Atom
  | field (name : String)
  | operator (operator : Operator)
  | value (value : Value)

namespace Atom

def equal : Atom → Atom → Bool
  | .field name, .field name' => name = name'
  | .operator sign, .operator sign' => sign = sign'
  | .value scalar, .value scalar' => scalar.equal scalar'
  | _, _ => false

/-- Two lists differ at a place that both of them have. -/
inductive Clash : List Atom → List Atom → Prop where
  | here {atom atom' : Atom} {rest rest' : List Atom} :
      atom.equal atom' = false →
      Clash (atom :: rest) (atom' :: rest')
  | later {atom atom' : Atom} {rest rest' : List Atom} :
      Clash rest rest' →
      Clash (atom :: rest) (atom' :: rest')

theorem Clash.not_forall₂ {read expected : List Atom} (clash : Clash read expected) :
    ¬ List.Forall₂ (fun atom atom' => atom.equal atom' = true) read expected := by
  induction clash with
  | here differs =>
      rintro (_ | ⟨same, _⟩)
      simp [same] at differs
  | later _ inductionHypothesis =>
      rintro (_ | ⟨_, same⟩)
      exact inductionHypothesis same

theorem Clash.append_left {before before' read expected : List Atom}
    (length : before.length = before'.length) (clash : Clash read expected) :
    Clash (before ++ read) (before' ++ expected) := by
  induction before generalizing before' with
  | nil =>
      obtain rfl := List.eq_nil_of_length_eq_zero length.symm
      exact clash
  | cons atom before inductionHypothesis =>
      cases before' with
      | nil => simp at length
      | cons atom' before' => exact .later (inductionHypothesis (by simpa using length))

theorem Clash.append_right {read expected : List Atom} (clash : Clash read expected)
    (more : List Atom) : Clash read (expected ++ more) := by
  induction clash with
  | here differs => exact .here differs
  | later _ inductionHypothesis => exact .later inductionHypothesis

end Atom

/-- The field, operator or value that the token is. -/
def Token.atom? (token : Token) : Option Atom :=
  match token.kind with
  | .field => some (.field token.text)
  | .operator => some (.operator token.operator)
  | .value => some (.value token.value)
  | _ => none

def Condition.atoms (condition : Condition) : List Atom :=
  .field condition.field :: .operator condition.operator :: condition.value.scalars.map .value

def Filter.atoms (filter : Filter) : List Atom :=
  filter.leaves.flatMap Condition.atoms

namespace Token

theorem isList_value (token : Token) : token.value.isList = false := by
  unfold value
  split
  next => split <;> rfl
  next => rfl
  next => rfl
  next => rfl

theorem atom?_of_connective? {token : Token} {connective : Connective}
    (spelled : token.connective? = some connective) : token.atom? = none := by
  simp [atom?, kind_of_connective? spelled]

end Token

namespace Value

theorem forall₂_equalItems {items items' : List Value} (same : equalItems items items' = true) :
    List.Forall₂ (fun item item' => item.equal item' = true) items items' := by
  induction items generalizing items' with
  | nil =>
      cases items' with
      | nil => exact .nil
      | cons item' items' => simp [equalItems] at same
  | cons item items inductionHypothesis =>
      cases items' with
      | nil => simp [equalItems] at same
      | cons item' items' =>
          simp only [equalItems, Bool.and_eq_true] at same
          exact .cons same.1 (inductionHypothesis same.2)

theorem forall₂_scalars {value value' : Value} (same : value.equal value' = true) :
    List.Forall₂ (fun item item' => item.equal item' = true) value.scalars value'.scalars := by
  cases value <;> cases value' <;> first
    | exact .cons same .nil
    | exact forall₂_equalItems same
    | simp [equal] at same

end Value

theorem Condition.forall₂_atoms {condition condition' : Condition}
    (same : condition.equal condition' = true) :
    List.Forall₂ (fun atom atom' => atom.equal atom' = true) condition.atoms condition'.atoms := by
  simp only [equal, Bool.and_eq_true, decide_eq_true_eq] at same
  obtain ⟨⟨field, operator⟩, value⟩ := same
  refine .cons (by simp [Atom.equal, field]) (.cons (by simp [Atom.equal, operator]) ?_)
  rw [List.forall₂_map_left_iff, List.forall₂_map_right_iff]
  exact Value.forall₂_scalars value

namespace Filter

theorem atoms_condition (leaf : Condition) : atoms (.condition leaf) = leaf.atoms := by
  simp [atoms, leaves]

theorem atoms_conjunction (left right : Filter) :
    atoms (.conjunction left right) = left.atoms ++ right.atoms := by
  simp [atoms, leaves]

theorem atoms_disjunction (left right : Filter) :
    atoms (.disjunction left right) = left.atoms ++ right.atoms := by
  simp [atoms, leaves]

theorem atoms_negation (operand : Filter) : atoms (.negation operand) = operand.atoms := rfl

theorem forall₂_atoms {filter filter' : Filter} (same : filter.equal filter' = true) :
    List.Forall₂ (fun atom atom' => atom.equal atom' = true) filter.atoms filter'.atoms := by
  fun_induction equal filter filter' with
  | case1 leaf leaf' =>
      rw [atoms_condition, atoms_condition]
      exact Condition.forall₂_atoms same
  | case2 left right left' right' leftHypothesis rightHypothesis =>
      rw [Bool.and_eq_true] at same
      rw [atoms_conjunction, atoms_conjunction]
      exact List.rel_append (leftHypothesis same.1) (rightHypothesis same.2)
  | case3 left right left' right' leftHypothesis rightHypothesis =>
      rw [Bool.and_eq_true] at same
      rw [atoms_disjunction, atoms_disjunction]
      exact List.rel_append (leftHypothesis same.1) (rightHypothesis same.2)
  | case4 operand operand' inductionHypothesis => exact inductionHypothesis same
  | case5 => simp at same

end Filter

namespace Grammar

theorem Items.atoms {tokens : List Token} {items : List Value} (derived : Items tokens items) :
    tokens.filterMap Token.atom? = items.map .value := by
  induction derived with
  | one isValue => simp [Token.atom?, isValue]
  | more _ isComma isValue inductionHypothesis =>
      simp [Token.atom?, isComma, isValue, inductionHypothesis]

theorem Derives.atoms {category : Category} {tokens : List Token} {filter : Filter}
    (derived : Derives category tokens filter) : tokens.filterMap Token.atom? = filter.atoms := by
  induction derived with
  | disjunction _ isOr _ left right =>
      simp [Token.atom?_of_connective? isOr, left, right, Filter.atoms_disjunction]
  | product _ inductionHypothesis => exact inductionHypothesis
  | conjunction _ isAnd _ left right =>
      simp [Token.atom?_of_connective? isAnd, left, right, Filter.atoms_conjunction]
  | factor _ inductionHypothesis => exact inductionHypothesis
  | negation isNot _ inductionHypothesis =>
      simp [Token.atom?_of_connective? isNot, inductionHypothesis, Filter.atoms_negation]
  | operand _ inductionHypothesis => exact inductionHypothesis
  | group opens _ closes inductionHypothesis =>
      simp [Token.atom?, opens, closes, inductionHypothesis]
  | @comparison field operator value isField isOperator _ isValue =>
      simp [Token.atom?, isField, isOperator, isValue, Filter.atoms_condition, Condition.atoms,
        Value.scalars_of_scalar value.isList_value]
  | membership isField isOperator _ opens items closes =>
      simp [Token.atom?, isField, isOperator, opens, closes, items.atoms, Filter.atoms_condition,
        Condition.atoms, Value.scalars]

end Grammar

end FilterBox
