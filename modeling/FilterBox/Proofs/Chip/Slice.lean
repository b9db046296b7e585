import FilterBox.Proofs.Chip.Placement
import FilterBox.Proofs.Token.Comparison

/-!
The slice of a query that a chip covers, read as a query of its own.

It is read as the condition of the chip, with two exceptions (`Condition.IsMisread`), both due to
what stands behind the condition in the query. There a parenthesis can keep an operator word from
being drawn into the colon in front of it, and a control character can keep a word from being a
number or a truth value.
-/

namespace FilterBox

open Text Lexeme

/-- The same condition, so many bytes further in front. -/
def Condition.back (size : Nat) (condition : Condition) : Condition :=
  { condition with span := condition.span.map (Span.back size) }

namespace Grammar

theorem IsStretch.back {stretch : List Token} {leaf : Condition}
    (isStretch : IsStretch stretch leaf) (size : Nat) :
    IsStretch (stretch.map (Token.back size)) (leaf.back size) := by
  cases isStretch with
  | comparison isField isOperator takesOne isValue =>
      exact .comparison isField isOperator takesOne isValue
  | membership isField isOperator takesList opens items closes =>
      rw [List.cons_append, List.cons_append, List.cons_append, List.map_cons, List.map_cons,
        List.map_cons, List.map_append]
      exact .membership isField isOperator takesList opens (items.relocate (Span.back size)) closes

end Grammar

namespace Query

theorem exists_layout_of_spaced {query : String} {tokens : List Token}
    (spaced : Scan.Spaced .field 0 query.toList tokens) :
    ∃ diagnostics, Scan.Layout .field 0 query.toList tokens diagnostics ∧
      Query.tokens query = tokens ++ [Token.final (byteLength query.toList)] := by
  obtain ⟨tokens', diagnostics, layout, marked⟩ := exists_layout query
  have scanned := spaced.tokens_go
  rw [Nat.zero_add] at scanned
  obtain rfl : tokens' = tokens := List.append_cancel_right (marked.symm.trans scanned)
  exact ⟨diagnostics, layout, marked⟩

theorem parse_of_isStretch {query : String} {stretch : List Token} {leaf : Condition}
    (spaced : Scan.Spaced .field 0 query.toList stretch)
    (isStretch : Grammar.IsStretch stretch leaf) :
    parse query = .ok (some (.condition leaf)) := by
  obtain ⟨diagnostics, layout, marked⟩ := exists_layout_of_spaced spaced
  exact (parse_eq_ok_some_iff marked layout.ordinary).mpr (isStretch.derives layout.inOrder)

theorem exists_stretch {query : String} {filter : Filter} (read : parse query = .ok (some filter))
    {leaf : Condition} (member : leaf ∈ filter.conditions) :
    ∃ before rest stretch later, query.toList = before ++ rest ∧
      Grammar.IsStretch stretch leaf ∧
      (∃ stop, leaf.span = some ⟨byteLength before, stop⟩) ∧
      Scan.Spaced .field (byteLength before) rest (stretch ++ later) := by
  obtain ⟨tokens, presents⟩ := exists_presents read
  obtain ⟨tokens', diagnostics, layout, marked⟩ := exists_layout query
  obtain rfl : tokens' = tokens := List.append_cancel_right (marked.symm.trans presents.marked)
  obtain ⟨front, stretch, later, rfl, isStretch⟩ := presents.stretches.exists_isStretch leaf member
  obtain ⟨first, inner, last, rfl, isField, place⟩ := isStretch.ends
  obtain ⟨before, rest, mode, whole, begins, spaced⟩ :=
    (Scan.Spaced.of_layout layout).exists_behind
  rw [Nat.zero_add] at begins spaced
  obtain rfl := spaced.mode_eq_field isField
  exact ⟨before, rest, _, later, whole, isStretch, ⟨last.span.stop, by rw [place, begins]⟩, spaced⟩

end Query

/-- Whether a text that ends with the value of the condition is read otherwise where nothing follows
it. -/
inductive Condition.IsMisread (leaf : Condition) (source : List Char) : Prop where
  /-- The value is drawn into the colon in front of it. -/
  | operatorWord {before word : List Char} :
      leaf.operator = .equals →
      leaf.value = .string (String.ofList word) →
      Value.isOperatorWord word = true →
      source = before ++ ':' :: word →
      IsMisread leaf source
  /-- The value is a number or a truth value, and not in quotes. -/
  | literal {before word : List Char} :
      leaf.value = .string (String.ofList word) →
      isLiteral word = true →
      (∀ quote, quote = '"' ∨ quote = '\'' → before.getLast? ≠ some quote) →
      source = before ++ word →
      IsMisread leaf source

theorem Condition.IsMisread.back {leaf : Condition} {source : List Char}
    (misread : leaf.IsMisread source) (size : Nat) : (leaf.back size).IsMisread source := by
  cases misread with
  | operatorWord equals string word ends => exact .operatorWord equals string word ends
  | literal string literal unquoted ends => exact .literal string literal unquoted ends

theorem Token.operator_of_colon {token : Token} (colon : token.text = ":") :
    token.operator = .equals := by
  rw [operator, colon]
  rfl

theorem Lexeme.IsComparison.unquoted {front symbol gap word rest : List Char} {sign lexeme : Lexeme}
    (comparison : IsComparison symbol gap word rest sign lexeme) :
    ∀ quote, quote = '"' ∨ quote = '\'' → (front ++ (symbol ++ gap)).getLast? ≠ some quote := by
  intro quote isQuote final
  have written : symbol ++ gap ≠ [] := by simp [comparison.operator.ne_nil]
  rw [List.getLast?_append, List.getLast?_eq_some_getLast written, Option.some_or] at final
  exact comparison.not_mem_of_quote isQuote (Option.some.inj final ▸ List.getLast_mem written)

namespace Query

theorem exists_source {size : Nat} {rest : List Char} {stretch later : List Token}
    {leaf : Condition} (isStretch : Grammar.IsStretch stretch leaf)
    (spaced : Scan.Spaced .field size rest (stretch ++ later)) :
    ∃ source after, rest = source ++ after ∧
      (∃ start, leaf.span = some ⟨start, size + byteLength source⟩) ∧
      (Scan.Spaced .field size source stretch ∨ leaf.IsMisread source) := by
  cases isStretch with
  | @membership field operator opening closing tokens items isField isOperator takesList opens
      derived closes =>
      have unmixed : ∀ token ∈ field :: operator :: opening :: tokens,
          token.kind = .operator → token.text ≠ ":" := by
        have inside : ∀ token ∈ tokens, token.kind ≠ .operator :=
          derived.kind_ne (by decide) (by decide)
        simp only [List.forall_mem_cons, isField, opens, reduceCtorEq, false_implies, true_and]
        refine ⟨fun _ colon => ?_, fun token member kind => absurd kind (inside token member)⟩
        rw [Token.operator_of_colon colon] at takesList
        cases takesList
      rw [List.append_assoc, List.singleton_append] at spaced
      obtain ⟨front, word, after, mode, lexeme, rfl, rfl, first, whole⟩ := spaced.cut unmixed
      refine ⟨front ++ word, after, by simp, ⟨field.span.start, ?_⟩,
        .inl (whole (first.closing_alone closes))⟩
      rw [placed, byteLength_append, Nat.add_assoc]
  | @comparison field operator value isField isOperator takesOne isValue =>
      obtain ⟨front, symbol, gap, word, after, sign, lexeme, rfl, comparison, text, rfl, whole⟩ :=
        exists_isComparison isField isOperator isValue spaced
      refine ⟨front ++ (symbol ++ (gap ++ word)), after, by simp, ⟨field.span.start, ?_⟩, ?_⟩
      · simp only [placed, byteLength_append, Nat.add_assoc]
      · rcases comparison.cut with comparison | ⟨string, same, misread⟩
        · exact .inl (whole comparison)
        · right
          have value : (lexeme.placed (size + byteLength (front ++ (symbol ++ gap))) word).value =
              .string (String.ofList word) := by
            simp [Token.value, placed, string, same]
          rcases misread with literal | ⟨colon, rfl, operatorWord⟩
          · have parts : front ++ (symbol ++ (gap ++ word)) = front ++ (symbol ++ gap) ++ word := by
              simp only [List.append_assoc]
            exact .literal value literal comparison.unquoted parts
          · obtain ⟨written, _⟩ := comparison.operator.operator_cases comparison.isOperator
            obtain rfl : symbol = [':'] := written.symm.trans colon
            refine .operatorWord ?_ value operatorWord rfl
            exact Token.operator_of_colon (by rw [text, colon])

theorem not_isMisread_of_parse {query : String} {leaf : Condition}
    (read : parse query = .ok (some (.condition leaf)))
    (whole : leaf.span = some ⟨0, byteLength query.toList⟩) : ¬ leaf.IsMisread query.toList := by
  have member : leaf ∈ (Filter.condition leaf).conditions := by
    simp [Filter.conditions_eq_leaves, Filter.leaves]
  obtain ⟨before, rest, stretch, later, parts, isStretch, ⟨stop, place⟩, spaced⟩ :=
    exists_stretch read member
  -- The condition begins and ends with the text.
  obtain ⟨begins, rfl⟩ : 0 = byteLength before ∧ byteLength query.toList = stop := by
    simpa using whole.symm.trans place
  obtain rfl : before = [] := eq_nil_of_byteLength begins.symm
  rw [List.nil_append] at parts
  intro misread
  rw [parts] at misread whole
  cases isStretch with
  | membership => rcases misread with ⟨_, string, _, _⟩ | ⟨string, _, _, _⟩ <;> simp at string
  | @comparison field operator value isField isOperator takesOne isValue =>
      obtain ⟨front, symbol, gap, word, after, sign, lexeme, rfl, comparison, _, rfl, _⟩ :=
        exists_isComparison isField isOperator isValue spaced
      obtain rfl : after = [] := by
        apply eq_nil_of_byteLength
        simp only [placed, byteLength_append, Option.some.injEq, Span.mk.injEq] at whole
        simp only [byteLength_nil] at whole
        omega
      rw [List.append_nil] at misread
      cases misread with
      | @operatorWord before text _ string operatorWord ends =>
          rw [List.append_cons] at ends
          have unquoted : ∀ quote, quote = '"' ∨ quote = '\'' →
              (before ++ [':']).getLast? ≠ some quote := by
            rintro quote (rfl | rfl) <;> simp
          obtain ⟨rfl, colon, _⟩ := comparison.eq_of_append_eq string
            (ne_nil_of_isOperatorWord operatorWord)
            (fun quote => not_mem_of_isOperatorWord operatorWord) ends unquoted
          simp [comparison.isOperatorWord_eq_false colon] at operatorWord
      | literal string literal unquoted ends =>
          obtain ⟨rfl, _, noLiteral⟩ := comparison.eq_of_append_eq string
            (ne_nil_of_isLiteral literal) (fun quote => not_mem_of_isLiteral literal) ends unquoted
          simp [noLiteral] at literal

/-- The slice of a chip is read as its condition, over the whole slice, exactly when it is not
misread. -/
theorem slice_iff_not_isMisread {query : String} {chip : Chip} (shown : chip ∈ chips query) :
    ∃ source, chip.text? query = some source ∧
      (parse source = .ok (some (.condition
          ⟨chip.field, chip.operator, chip.value, some ⟨0, byteLength source.toList⟩⟩)) ↔
        ¬ chip.condition.IsMisread source.toList) := by
  obtain ⟨filter, read⟩ := exists_filter_of_mem_chips shown
  obtain ⟨tokens, presents⟩ := exists_presents read
  obtain ⟨before, rest, stretch, later, parts, isStretch, ⟨stop, place⟩, spaced⟩ :=
    exists_stretch read (presents.condition_mem shown)
  obtain ⟨source, after, rfl, ⟨start, place'⟩, cut⟩ := exists_source isStretch spaced
  obtain ⟨rfl, rfl⟩ : start = byteLength before ∧ byteLength before + byteLength source = stop := by
    simpa using place'.symm.trans place
  have covers : chip.span = ⟨byteLength before, byteLength before + byteLength source⟩ :=
    Option.some.inj place
  refine ⟨String.ofList source, ?_, ?_⟩
  · rw [Chip.text?, covers, slice?_eq_some_iff.mpr ⟨before, after, parts, rfl, rfl⟩]
    rfl
  · have moved : chip.condition.back (byteLength before) =
        ⟨chip.field, chip.operator, chip.value, some ⟨0, byteLength source⟩⟩ := by
      simp [Condition.back, Chip.condition, covers, Span.back]
    rw [String.toList_ofList, ← moved]
    constructor
    · intro read misread
      have whole : (chip.condition.back (byteLength before)).span =
          some ⟨0, byteLength (String.ofList source).toList⟩ := by
        rw [moved, String.toList_ofList]
      have faithful := not_isMisread_of_parse read whole
      rw [String.toList_ofList] at faithful
      exact faithful (misread.back _)
    · intro faithful
      have alone : Scan.Spaced .field 0 (String.ofList source).toList
          (stretch.map (Token.back (byteLength before))) := by
        rw [String.toList_ofList]
        exact Scan.Spaced.back (cut.resolve_right faithful)
      exact parse_of_isStretch alone (isStretch.back _)

/-- A list can be cut out of the group around it. -/
theorem slice_iff_not_isMisread_list :
    ∃ chip ∈ chips "NOT ((b:NOT  IN ('x)', 5)))",
      parse "b:NOT  IN ('x)', 5)" =
        .ok (some (.condition ⟨chip.field, chip.operator, chip.value, some ⟨0, 19⟩⟩)) := by
  have found : ((chips "NOT ((b:NOT  IN ('x)', 5)))").any fun chip => chip.value.isList &&
      chip.text? "NOT ((b:NOT  IN ('x)', 5)))" = some "b:NOT  IN ('x)', 5)") = true := by
    rw [chips, parse_eq_outcome]
    decide +kernel
  obtain ⟨chip, shown, isTheList⟩ := List.any_eq_true.mp found
  obtain ⟨isList, text⟩ := Bool.and_eq_true_iff.mp isTheList
  obtain ⟨source, text', faithful⟩ := slice_iff_not_isMisread shown
  obtain rfl : source = "b:NOT  IN ('x)', 5)" :=
    Option.some.inj (text'.symm.trans (of_decide_eq_true text))
  refine ⟨chip, shown, faithful.mpr fun misread => ?_⟩
  have noString : ∀ text, chip.value ≠ .string text := by
    intro text isString
    rw [isString] at isList
    cases isList
  cases misread with
  | operatorWord _ string _ _ => exact noString _ string
  | literal string _ _ _ => exact noString _ string

/-- In the group the word is a value, and alone it is an operator without a list. -/
theorem slice_of_operatorWord_fails :
    ∃ chip ∈ chips "(a:IN)", chip.text? "(a:IN)" = some "a:IN" ∧
      ∀ filter, parse "a:IN" ≠ .ok (some filter) := by
  have found : ((chips "(a:IN)").any fun chip => chip.text? "(a:IN)" = some "a:IN") = true := by
    rw [chips, parse_eq_outcome]
    decide +kernel
  obtain ⟨chip, shown, text⟩ := List.any_eq_true.mp found
  exact ⟨chip, shown, of_decide_eq_true text, fun filter read =>
    absurd (hasFilter_iff.mpr ⟨filter, read⟩) (by decide +kernel)⟩

end Query

end FilterBox
