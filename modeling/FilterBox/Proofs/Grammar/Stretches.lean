import FilterBox.Filter.Leaves
import FilterBox.Proofs.Grammar.Derivation
import FilterBox.Proofs.Grammar.Run

/-!
Where the conditions of a tree stand among its tokens.

`Stretches tokens leaves` cuts the tokens into one stretch for each condition, with connectives and
parentheses around them. Every derivation over tokens in the order of a text gives its leaves in
this way.
-/

namespace FilterBox

theorem Span.cover_of_le {span other : Span} (begins : span.start ≤ other.start)
    (ends : span.stop ≤ other.stop) : span.cover other = ⟨span.start, other.stop⟩ := by
  rw [cover, Nat.min_eq_left begins, Nat.max_eq_right ends]

/-- Whether each condition stands before the later one. -/
def Condition.Precedes (leaf leaf' : Condition) : Prop :=
  ∃ span span', leaf.span = some span ∧ leaf'.span = some span' ∧
    span.start < span'.start ∧ span.stop ≤ span'.start

namespace Grammar

/-- Whether the tokens cover stretches of a text that are not empty, one behind the other. -/
structure InOrder (tokens : List Token) : Prop where
  nonempty : ∀ token ∈ tokens, token.span.start < token.span.stop
  apart : tokens.Pairwise fun token token' => token.span.stop ≤ token'.span.start

theorem InOrder.sublist {tokens tokens' : List Token} (ordered : InOrder tokens)
    (part : tokens'.Sublist tokens) : InOrder tokens' :=
  ⟨fun token member => ordered.nonempty token (part.subset member), ordered.apart.sublist part⟩

theorem InOrder.cover_eq {first last : Token} {rest : List Token}
    (ordered : InOrder (first :: rest))
    (behind : last ∈ rest) : first.span.cover last.span = ⟨first.span.start, last.span.stop⟩ := by
  have nonempty := ordered.nonempty first List.mem_cons_self
  have nonemptyLast := ordered.nonempty last (List.mem_cons_of_mem _ behind)
  have apart := List.rel_of_pairwise_cons ordered.apart behind
  exact Span.cover_of_le (by omega) (by omega)

/-- The tokens of one condition, which reaches from its field to its value or the end of its
list. -/
inductive IsStretch : List Token → Condition → Prop where
  | comparison {field operator value : Token} :
      field.kind = .field →
      operator.kind = .operator →
      operator.operator.takesList = false →
      value.kind = .value →
      IsStretch [field, operator, value]
        ⟨field.text, operator.operator, value.value, some ⟨field.span.start, value.span.stop⟩⟩
  | membership {field operator opening closing : Token} {tokens : List Token}
      {items : List Value} :
      field.kind = .field →
      operator.kind = .operator →
      operator.operator.takesList = true →
      opening.kind = .leftParen →
      Items tokens items →
      closing.kind = .rightParen →
      IsStretch (field :: operator :: opening :: tokens ++ [closing])
        ⟨field.text, operator.operator, .list items, some ⟨field.span.start, closing.span.stop⟩⟩

/-- The tokens are those of the conditions, with connectives and parentheses around them. -/
inductive Stretches : List Token → List Condition → Prop where
  | nil :
      Stretches [] []
  | mark {token : Token} {tokens : List Token} {leaves : List Condition} :
      token.kind ∈ [.connective, .leftParen, .rightParen] →
      Stretches tokens leaves →
      Stretches (token :: tokens) leaves
  | condition {stretch tokens : List Token} {leaf : Condition} {leaves : List Condition} :
      IsStretch stretch leaf →
      Stretches tokens leaves →
      Stretches (stretch ++ tokens) (leaf :: leaves)

namespace Stretches

theorem one {tokens : List Token} {leaf : Condition} (stretch : IsStretch tokens leaf) :
    Stretches tokens [leaf] := by
  have whole := condition stretch .nil
  rwa [List.append_nil] at whole

theorem append {tokens tokens' : List Token} {leaves leaves' : List Condition}
    (front : Stretches tokens leaves) (back : Stretches tokens' leaves') :
    Stretches (tokens ++ tokens') (leaves ++ leaves') := by
  induction front with
  | nil => exact back
  | mark structural _ inductionHypothesis => exact .mark structural inductionHypothesis
  | condition stretch _ inductionHypothesis =>
      rw [List.append_assoc]
      exact .condition stretch inductionHypothesis

end Stretches

theorem connective_mem {mark : Token} {connective : Connective}
    (spelled : mark.connective? = some connective) :
    mark.kind ∈ [.connective, .leftParen, .rightParen] := by
  simp [Token.kind_of_connective? spelled]

/-- Every derivation over tokens in order cuts them into the stretches of its leaves. -/
theorem Derives.stretches {category : Category} {tokens : List Token} {filter : Filter}
    (derived : Derives category tokens filter) (ordered : InOrder tokens) :
    Stretches tokens filter.leaves := by
  induction derived with
  | disjunction _ isOr _ left right =>
      exact (left (ordered.sublist (List.sublist_append_left ..))).append
        (.mark (connective_mem isOr)
          (right (ordered.sublist ((List.sublist_cons_self ..).trans
            (List.sublist_append_right ..)))))
  | product _ inductionHypothesis => exact inductionHypothesis ordered
  | conjunction _ isAnd _ left right =>
      exact (left (ordered.sublist (List.sublist_append_left ..))).append
        (.mark (connective_mem isAnd)
          (right (ordered.sublist ((List.sublist_cons_self ..).trans
            (List.sublist_append_right ..)))))
  | factor _ inductionHypothesis => exact inductionHypothesis ordered
  | negation isNot _ inductionHypothesis =>
      exact .mark (connective_mem isNot)
        (inductionHypothesis (ordered.sublist (List.sublist_cons_self ..)))
  | operand _ inductionHypothesis => exact inductionHypothesis ordered
  | @group opening closing tokens filter opens _ closes inductionHypothesis =>
      have inside : tokens.Sublist (opening :: tokens ++ [closing]) :=
        (List.sublist_cons_self ..).trans (List.sublist_append_left ..)
      have tail : Stretches [closing] [] := .mark (by simp [closes]) .nil
      have parts := (inductionHypothesis (ordered.sublist inside)).append tail
      rw [List.append_nil] at parts
      exact .mark (by simp [opens]) parts
  | @comparison field operator value isField isOperator takesOne isValue =>
      have place := ordered.cover_eq (by simp : value ∈ [operator, value])
      rw [Filter.leaves, place]
      exact .one (.comparison isField isOperator takesOne isValue)
  | membership isField isOperator takesList opens items closes =>
      rw [Filter.leaves, InOrder.cover_eq ordered (by simp)]
      exact .one (.membership isField isOperator takesList opens items closes)

theorem IsStretch.derives {stretch : List Token} {leaf : Condition}
    (isStretch : IsStretch stretch leaf) (ordered : InOrder stretch) :
    Derives .expression stretch (.condition leaf) := by
  apply Derives.expression_of_operand
  cases isStretch with
  | @comparison field operator value isField isOperator takesOne isValue =>
      rw [← ordered.cover_eq (by simp : value ∈ [operator, value])]
      exact .comparison isField isOperator takesOne isValue
  | membership isField isOperator takesList opens items closes =>
      rw [← InOrder.cover_eq ordered (by simp)]
      exact .membership isField isOperator takesList opens items closes

theorem Stretches.exists_isStretch {tokens : List Token} {leaves : List Condition}
    (parts : Stretches tokens leaves) :
    ∀ leaf ∈ leaves, ∃ front stretch back, tokens = front ++ (stretch ++ back) ∧
      IsStretch stretch leaf := by
  induction parts with
  | nil => simp
  | @mark token tokens leaves _ _ inductionHypothesis =>
      intro leaf member
      obtain ⟨front, stretch, back, rfl, isStretch⟩ := inductionHypothesis leaf member
      exact ⟨token :: front, stretch, back, rfl, isStretch⟩
  | @condition stretch tokens leaf leaves isStretch _ inductionHypothesis =>
      rw [List.forall_mem_cons]
      refine ⟨⟨[], stretch, tokens, rfl, isStretch⟩, fun leaf' member => ?_⟩
      obtain ⟨front, stretch', back, rfl, isStretch'⟩ := inductionHypothesis leaf' member
      exact ⟨stretch ++ front, stretch', back, by simp, isStretch'⟩

theorem IsStretch.ends {stretch : List Token} {leaf : Condition}
    (isStretch : IsStretch stretch leaf) :
    ∃ first inner last, stretch = first :: (inner ++ [last]) ∧ first.kind = .field ∧
      leaf.span = some ⟨first.span.start, last.span.stop⟩ := by
  cases isStretch with
  | @comparison field operator value isField =>
      exact ⟨field, [operator], value, rfl, isField, rfl⟩
  | @membership field operator opening closing tokens _ isField =>
      exact ⟨field, operator :: opening :: tokens, closing, rfl, isField, rfl⟩

/-- Every condition has a span that begins with one of the tokens and ends with a later one. -/
theorem Stretches.span_eq {tokens : List Token} {leaves : List Condition}
    (parts : Stretches tokens leaves) (ordered : InOrder tokens) :
    ∀ leaf ∈ leaves, ∃ first ∈ tokens, ∃ last ∈ tokens,
      leaf.span = some ⟨first.span.start, last.span.stop⟩ ∧ first.span.stop ≤ last.span.start := by
  induction parts with
  | nil => simp
  | mark _ _ inductionHypothesis =>
      intro leaf member
      obtain ⟨first, isFirst, last, isLast, place⟩ :=
        inductionHypothesis (ordered.sublist (List.sublist_cons_self ..)) leaf member
      exact ⟨first, List.mem_cons_of_mem _ isFirst, last, List.mem_cons_of_mem _ isLast, place⟩
  | @condition stretch tokens leaf leaves isStretch _ inductionHypothesis =>
      rw [List.forall_mem_cons]
      constructor
      · obtain ⟨first, inner, last, rfl, _, place⟩ := isStretch.ends
        exact ⟨first, by simp, last, by simp, place,
          List.rel_of_pairwise_cons ordered.apart (by simp)⟩
      · intro leaf member
        obtain ⟨first, isFirst, last, isLast, place⟩ :=
          inductionHypothesis (ordered.sublist (List.sublist_append_right ..)) leaf member
        exact ⟨first, List.mem_append_right _ isFirst, last, List.mem_append_right _ isLast, place⟩

theorem Stretches.precedes {tokens : List Token} {leaves : List Condition}
    (parts : Stretches tokens leaves) (ordered : InOrder tokens) :
    leaves.Pairwise Condition.Precedes := by
  induction parts with
  | nil => exact .nil
  | mark _ _ inductionHypothesis =>
      exact inductionHypothesis (ordered.sublist (List.sublist_cons_self ..))
  | @condition stretch tokens leaf leaves isStretch parts inductionHypothesis =>
      have behind := ordered.sublist (List.sublist_append_right stretch tokens)
      refine List.pairwise_cons.mpr ⟨fun leaf' member => ?_, inductionHypothesis behind⟩
      obtain ⟨first, inner, last, rfl, _, place⟩ := isStretch.ends
      obtain ⟨first', isFirst', last', _, place', _⟩ := parts.span_eq behind leaf' member
      refine ⟨_, _, place, place', ?_⟩
      have begins : first.span.stop ≤ first'.span.start :=
        List.rel_of_pairwise_cons ordered.apart (by simp [isFirst'])
      have ends : last.span.stop ≤ first'.span.start :=
        (List.pairwise_append.mp ordered.apart).2.2 last (by simp) first' isFirst'
      have nonempty := ordered.nonempty first (by simp)
      exact ⟨Nat.lt_of_lt_of_le nonempty begins, ends⟩

end Grammar

end FilterBox
