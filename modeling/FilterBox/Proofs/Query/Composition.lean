import FilterBox.Proofs.Chip.Placement
import FilterBox.Proofs.Printing.Stretches
import FilterBox.Proofs.Token.Embedding

/-!
Queries put together from queries.

A query in parentheses is read as it is read alone, wherever it stands: no word in it goes on beyond
the parenthesis, and the tree of a group is the tree of what it encloses. Its conditions are as far
behind as the query is (`parse_composed`).
-/

namespace FilterBox

open Text Lexeme

/-- The same condition, so many bytes further behind. -/
def Condition.forward (size : Nat) (condition : Condition) : Condition :=
  { condition with span := condition.span.map (Span.forward size) }

/-- The same tree over conditions so many bytes further behind. -/
def Filter.forward (size : Nat) : Filter → Filter
  | .condition leaf => .condition (leaf.forward size)
  | .conjunction left right => .conjunction (left.forward size) (right.forward size)
  | .disjunction left right => .disjunction (left.forward size) (right.forward size)
  | .negation operand => .negation (operand.forward size)

theorem Span.cover_forward (size : Nat) (span other : Span) :
    (span.forward size).cover (other.forward size) = (span.cover other).forward size := by
  simp only [cover, forward, Nat.add_min_add_left, Nat.add_max_add_left]

namespace Grammar

/-- The grammar does not see where the tokens stand; only the places of the conditions change. -/
theorem Derives.forward {category : Category} {tokens : List Token} {filter : Filter}
    (derived : Derives category tokens filter) (size : Nat) :
    Derives category (tokens.map (Token.forward size)) (filter.forward size) := by
  induction derived with
  | disjunction _ isOr _ left right =>
      rw [List.map_append, List.map_cons]
      exact .disjunction left isOr right
  | product _ inductionHypothesis => exact .product inductionHypothesis
  | conjunction _ isAnd _ left right =>
      rw [List.map_append, List.map_cons]
      exact .conjunction left isAnd right
  | factor _ inductionHypothesis => exact .factor inductionHypothesis
  | negation isNot _ inductionHypothesis => exact .negation isNot inductionHypothesis
  | operand _ inductionHypothesis => exact .operand inductionHypothesis
  | group opens _ closes inductionHypothesis =>
      rw [List.map_append, List.map_cons]
      exact .group opens inductionHypothesis closes
  | @comparison field operator value isField isOperator takesOne isValue =>
      have covered := Span.cover_forward size field.span value.span
      simp only [Filter.forward, Condition.forward, Option.map_some, ← covered]
      exact @Derives.comparison (field.forward size) (operator.forward size) (value.forward size)
        isField isOperator takesOne isValue
  | @membership field operator opening closing tokens items isField isOperator takesList opens
      derived closes =>
      have covered := Span.cover_forward size field.span closing.span
      simp only [Filter.forward, Condition.forward, Option.map_some, ← covered]
      rw [List.map_append, List.map_cons, List.map_cons, List.map_cons]
      exact @Derives.membership (field.forward size) (operator.forward size) (opening.forward size)
        (closing.forward size) _ _ isField isOperator takesList opens
        (derived.relocate (Span.forward size)) closes

theorem Derives.endWhole {category : Category} {tokens : List Token} {filter : Filter}
    (derived : Derives category tokens filter) : Token.EndWhole tokens := by
  induction derived with
  | disjunction _ _ second _ whole => exact whole.behind second.ne_nil _ _
  | product _ inductionHypothesis => exact inductionHypothesis
  | conjunction _ _ second _ whole => exact whole.behind second.ne_nil _ _
  | factor _ inductionHypothesis => exact inductionHypothesis
  | negation _ operand whole => exact whole.behind operand.ne_nil [] _
  | operand _ inductionHypothesis => exact inductionHypothesis
  | group _ _ closes => exact Token.endWhole_concat _ (.inr closes)
  | @comparison field operator _ _ _ _ isValue =>
      exact Token.endWhole_concat [field, operator] (.inl isValue)
  | membership _ _ _ _ _ closes => exact Token.endWhole_concat _ (.inr closes)

end Grammar

/-- A text that is read whole is read in the same way in front of a closing parenthesis, at any
offset. -/
theorem Scan.Layout.reads_enclosed {text : List Char} {tokens : List Token}
    {diagnostics : List Diagnostic} (layout : Layout .field 0 text tokens diagnostics)
    (closed : AreClosed diagnostics) {offset : Nat}
    (whole : Token.EndWhole (tokens.map (Token.forward offset))) (rest : List Char) :
    Reads .field offset (text ++ [')'])
      (tokens.map (Token.forward offset) ++ [Token.closing (offset + byteLength text)]) .field
      rest := by
  obtain ⟨tokens', diagnostics', behind, scanned⟩ :=
    layout_go .field (offset + byteLength text + 1) rest
  have framed := ((layout.forward offset).enclosed (closed.forward offset) whole behind).go_eq
  have size : offset + byteLength (text ++ [')']) = offset + byteLength text + 1 := by
    rw [byteLength_append, ← Nat.add_assoc]
    rfl
  have wholeSize : offset + byteLength (text ++ ')' :: rest) =
      offset + byteLength text + 1 + byteLength rest := by
    rw [List.append_cons, byteLength_append, ← Nat.add_assoc, size]
  rw [Nat.add_zero, wholeSize] at framed
  unfold Reads
  rw [size, scanned, List.append_assoc, List.singleton_append, framed]
  simp only [List.append_assoc, List.cons_append, List.nil_append]

namespace Query

theorem parse_of_reads {query : String} {text : List Char} {tokens : List Token} {next : Mode}
    {filter : Filter} (written : query.toList = text)
    (read : Scan.Reads .field 0 text tokens next [])
    (derived : Grammar.Derives .expression tokens filter) :
    parse query = .ok (some filter) := by
  subst written
  exact (parse_eq_ok_some_iff read.tokens_eq derived.kinds).mpr derived

def groupText (query : String) : List Char :=
  ['('] ++ (query.toList ++ [')'])

theorem reads_group {query : String} {filter : Filter} (read : parse query = .ok (some filter))
    (closed : Scan.AreClosed (scan query).diagnostics) (rest : List Char) (offset : Nat) :
    ∃ tokens, Scan.Reads .field offset (groupText query) tokens .field rest ∧
      Grammar.Derives .operand tokens (filter.forward (offset + 1)) := by
  obtain ⟨tokens, diagnostics, layout, scanned⟩ := Scan.layout_go .field 0 query.toList
  rw [scan, scanned] at closed
  have marked : Query.tokens query = tokens ++ [Token.final (0 + byteLength query.toList)] := by
    rw [Query.tokens, scan, scanned]
  have derived := (parse_eq_ok_some_iff marked layout.ordinary).mp read
  have moved := derived.forward (offset + 1)
  have inside := layout.reads_enclosed closed moved.endWhole rest
  obtain ⟨opening, readOpening, opens⟩ :=
    Scan.Reads.opening .field (query.toList ++ [')'] ++ rest) offset
  exact ⟨_, readOpening.append inside, .group opens moved rfl⟩

theorem reads_joined {query query' : String} {filter filter' : Filter} (connective : Connective)
    (read : parse query = .ok (some filter)) (read' : parse query' = .ok (some filter'))
    (closed : Scan.AreClosed (scan query).diagnostics)
    (closed' : Scan.AreClosed (scan query').diagnostics) :
    ∃ left mark right, Scan.Reads .field 0
        (groupText query ++ ([' '] ++ (connective.keyword.toList ++ [' '])) ++ groupText query')
        (left ++ mark :: right) .field [] ∧
      Grammar.Derives .operand left (filter.forward 1) ∧
      mark.connective? = some connective ∧
      Grammar.Derives .operand right (filter'.forward (byteLength
        (groupText query ++ ([' '] ++ (connective.keyword.toList ++ [' '])) ++ ['(']))) := by
  obtain ⟨right, readRight, derivedRight⟩ := reads_group read' closed' []
    (0 + byteLength (groupText query ++ ([' '] ++ (connective.keyword.toList ++ [' ']))))
  obtain ⟨left, readLeft, derivedLeft⟩ := reads_group read closed
    ([' '] ++ (connective.keyword.toList ++ [' ']) ++ (groupText query' ++ [])) 0
  obtain ⟨mark, readMark, spelled⟩ := Scan.Reads.keyword connective (groupText query' ++ [])
    (0 + byteLength (groupText query) + byteLength [' '])
  have whole := (readLeft.append ((Scan.Reads.space ..).append readMark)).append readRight
  rw [List.append_assoc left, List.nil_append, List.singleton_append] at whole
  have front :
      0 + byteLength (groupText query ++ ([' '] ++ (connective.keyword.toList ++ [' ']))) + 1 =
      byteLength (groupText query ++ ([' '] ++ (connective.keyword.toList ++ [' '])) ++ ['(']) := by
    rw [byteLength_append _ ['('], Nat.zero_add]
    rfl
  rw [front] at derivedRight
  exact ⟨left, mark, right, whole, derivedLeft, spelled, derivedRight⟩

/-- Queries are put together by their text: each of them keeps its tree, and its conditions move by
the bytes that are put in front of it. -/
theorem parse_composed {query query' : String} {filter filter' : Filter}
    (read : parse query = .ok (some filter)) (read' : parse query' = .ok (some filter'))
    (closed : ∀ place, .unterminated place ∉ (scan query).diagnostics)
    (closed' : ∀ place, .unterminated place ∉ (scan query').diagnostics) :
    parse ("(" ++ query ++ ")") = .ok (some (filter.forward (byteLength "(".toList))) ∧
    parse ("NOT (" ++ query ++ ")") =
      .ok (some (.negation (filter.forward (byteLength "NOT (".toList)))) ∧
    parse ("(" ++ query ++ ") AND (" ++ query' ++ ")") =
      .ok (some (.conjunction (filter.forward (byteLength "(".toList))
        (filter'.forward (byteLength ("(" ++ query ++ ") AND (").toList)))) ∧
    parse ("(" ++ query ++ ") OR (" ++ query' ++ ")") =
      .ok (some (.disjunction (filter.forward (byteLength "(".toList))
        (filter'.forward (byteLength ("(" ++ query ++ ") OR (").toList)))) := by
  refine ⟨?_, ?_, ?_, ?_⟩
  · obtain ⟨tokens, readGroup, derived⟩ := reads_group read closed [] 0
    exact parse_of_reads (by simp [groupText]) readGroup derived.expression_of_operand
  · obtain ⟨mark, readMark, isNot⟩ := Scan.Reads.keyword .not (groupText query ++ []) 0
    obtain ⟨tokens, readGroup, derived⟩ := reads_group read closed []
      (0 + byteLength (Connective.not.keyword.toList ++ [' ']))
    have whole := readMark.append readGroup
    have written : ("NOT (" ++ query ++ ")").toList =
        Connective.not.keyword.toList ++ [' '] ++ groupText query := by
      simp [groupText, Connective.keyword]
    exact parse_of_reads written whole (.product (.factor (.negation isNot (.operand derived))))
  · obtain ⟨left, mark, right, whole, derived, isAnd, derived'⟩ :=
      reads_joined .and read read' closed closed'
    have written : ("(" ++ query ++ ") AND (" ++ query' ++ ")").toList =
        groupText query ++ ([' '] ++ (Connective.and.keyword.toList ++ [' '])) ++
          groupText query' := by
      simp [groupText, Connective.keyword]
    have front : ("(" ++ query ++ ") AND (").toList =
        groupText query ++ ([' '] ++ (Connective.and.keyword.toList ++ [' '])) ++ ['('] := by
      simp [groupText, Connective.keyword]
    rw [front]
    exact parse_of_reads written whole
      (.product (.conjunction (.factor (.operand derived)) isAnd (.operand derived')))
  · obtain ⟨left, mark, right, whole, derived, isOr, derived'⟩ :=
      reads_joined .or read read' closed closed'
    have written : ("(" ++ query ++ ") OR (" ++ query' ++ ")").toList =
        groupText query ++ ([' '] ++ (Connective.or.keyword.toList ++ [' '])) ++
          groupText query' := by
      simp [groupText, Connective.keyword]
    have front : ("(" ++ query ++ ") OR (").toList =
        groupText query ++ ([' '] ++ (Connective.or.keyword.toList ++ [' '])) ++ ['('] := by
      simp [groupText, Connective.keyword]
    rw [front]
    exact parse_of_reads written whole
      (.disjunction (.product (.factor (.operand derived))) isOr (.factor (.operand derived')))

/-- The first query ends with a word that in front of `IN` or `LIKE` would belong to the operator,
and holds a parenthesis in quotes. -/
theorem parse_composed_negation_word :
    ∃ filter filter', parse "a:\"ü)\" OR b:NOT" = .ok (some filter) ∧
      parse "c:NOT IN (1, x)" = .ok (some filter') ∧
      (scan "a:\"ü)\" OR b:NOT").diagnostics = [] ∧ (scan "c:NOT IN (1, x)").diagnostics = [] ∧
      parse ("(" ++ "a:\"ü)\" OR b:NOT" ++ ") AND (" ++ "c:NOT IN (1, x)" ++ ")") =
        .ok (some (.conjunction (filter.forward 1) (filter'.forward 24))) := by
  obtain ⟨filter, read⟩ := hasFilter_iff.mp
    (by decide +kernel : hasFilter "a:\"ü)\" OR b:NOT" = true)
  obtain ⟨filter', read'⟩ := hasFilter_iff.mp
    (by decide +kernel : hasFilter "c:NOT IN (1, x)" = true)
  have kept : (scan "a:\"ü)\" OR b:NOT").diagnostics = [] := by decide +kernel
  have kept' : (scan "c:NOT IN (1, x)").diagnostics = [] := by decide +kernel
  have composed := parse_composed read read' (by simp [kept]) (by simp [kept'])
  exact ⟨filter, filter', read, read', kept, kept', composed.2.2.1⟩

end Query

end FilterBox
