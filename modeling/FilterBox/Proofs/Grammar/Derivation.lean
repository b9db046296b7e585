import FilterBox.Filter.Parser

/-!
The grammar of filters, as a relation between token lists and trees.

    expression  :=  expression OR product  |  product
    product     :=  product AND factor  |  factor
    factor      :=  NOT factor  |  operand
    operand     :=  '(' expression ')'  |  condition
    condition   :=  field operator value  |  field operator '(' items ')'
    items       :=  items ',' value  |  value

The rules that begin with their own left-hand side make `OR` and `AND` group to the left.
Parentheses leave no trace in the tree. Whether a condition takes a list is settled by its operator.
-/

namespace FilterBox

namespace Grammar

/-- What a stretch of tokens is read as, the most loosely bound first. -/
inductive Category
  | expression
  | product
  | factor
  | operand

/-- Values with commas between them, at least one. -/
inductive Items : List Token → List Value → Prop where
  | one {token : Token} :
      token.kind = .value →
      Items [token] [token.value]
  | more {tokens : List Token} {items : List Value} {comma token : Token} :
      Items tokens items →
      comma.kind = .comma →
      token.kind = .value →
      Items (tokens ++ [comma, token]) (items ++ [token.value])

/-- The trees that the grammar gives to a stretch of tokens. -/
inductive Derives : Category → List Token → Filter → Prop where
  | disjunction {left right : List Token} {mark : Token} {first second : Filter} :
      Derives .expression left first →
      mark.connective? = some .or →
      Derives .product right second →
      Derives .expression (left ++ mark :: right) (.disjunction first second)
  | product {tokens : List Token} {filter : Filter} :
      Derives .product tokens filter →
      Derives .expression tokens filter
  | conjunction {left right : List Token} {mark : Token} {first second : Filter} :
      Derives .product left first →
      mark.connective? = some .and →
      Derives .factor right second →
      Derives .product (left ++ mark :: right) (.conjunction first second)
  | factor {tokens : List Token} {filter : Filter} :
      Derives .factor tokens filter →
      Derives .product tokens filter
  | negation {mark : Token} {tokens : List Token} {filter : Filter} :
      mark.connective? = some .not →
      Derives .factor tokens filter →
      Derives .factor (mark :: tokens) (.negation filter)
  | operand {tokens : List Token} {filter : Filter} :
      Derives .operand tokens filter →
      Derives .factor tokens filter
  | group {opening closing : Token} {tokens : List Token} {filter : Filter} :
      opening.kind = .leftParen →
      Derives .expression tokens filter →
      closing.kind = .rightParen →
      Derives .operand (opening :: tokens ++ [closing]) filter
  | comparison {field operator value : Token} :
      field.kind = .field →
      operator.kind = .operator →
      operator.operator.takesList = false →
      value.kind = .value →
      Derives .operand [field, operator, value] (.condition
        ⟨field.text, operator.operator, value.value, some (field.span.cover value.span)⟩)
  | membership {field operator opening closing : Token} {tokens : List Token}
      {items : List Value} :
      field.kind = .field →
      operator.kind = .operator →
      operator.operator.takesList = true →
      opening.kind = .leftParen →
      Items tokens items →
      closing.kind = .rightParen →
      Derives .operand (field :: operator :: opening :: tokens ++ [closing]) (.condition
        ⟨field.text, operator.operator, .list items, some (field.span.cover closing.span)⟩)

theorem Items.relocate {tokens : List Token} {items : List Value} (derived : Items tokens items)
    (move : Span → Span) :
    Items (tokens.map fun token => { token with span := move token.span }) items := by
  induction derived with
  | one isValue => exact .one isValue
  | more _ isComma isValue inductionHypothesis =>
      rw [List.map_append]
      exact .more inductionHypothesis isComma isValue

theorem Derives.expression_of_operand {tokens : List Token} {filter : Filter}
    (derived : Derives .operand tokens filter) : Derives .expression tokens filter :=
  .product (.factor (.operand derived))

end Grammar

end FilterBox
