import FilterBox.Proofs.Query.Exactness
import FilterBox.Proofs.Token.Blanks
import Mathlib.Data.List.TakeWhile

/-!
Blanks in a query and around it.

Other blanks in place of those between the tokens, in front of a query or behind it make no
difference but for places (`blanks_are_alike`). A query whose last value has no closing quote takes
the blanks behind it into the value; the verdict on such a query stays what it is as well.
-/

namespace FilterBox

open Text

namespace Text

variable {text gap : List Char}

theorem trim_blanks_append (blank : IsBlank gap) : trim (gap ++ text) = trim text := by
  rw [trim, List.dropWhile_append_of_pos blank, trim]

theorem trim_append_blanks (blank : IsBlank gap) : trim (text ++ gap) = trim text := by
  have nothing : gap.dropWhile isSpace = [] := List.dropWhile_eq_nil_iff.mpr blank
  rw [trim, List.dropWhile_append, trim, nothing]
  split
  next empty => rw [List.isEmpty_iff.mp empty]
  next => exact trimEnd_append_blanks blank _

theorem trimEnd_blanks_append (kept : trimEnd text ≠ []) (gap : List Char) :
    trimEnd (gap ++ text) = gap ++ trimEnd text := by
  induction gap with
  | nil => rfl
  | cons character gap inductionHypothesis =>
      have keptRest : trimEnd (gap ++ text) ≠ [] := by
        rw [inductionHypothesis]
        exact List.append_ne_nil_of_right_ne_nil gap kept
      rw [List.cons_append, trimEnd_cons keptRest, inductionHypothesis, List.cons_append]

end Text

namespace Unfinished

variable {text gap : List Char}

theorem endsInOperator_blanks_append (blank : IsBlank gap) :
    endsInOperator (gap ++ text) = endsInOperator text := by
  induction gap with
  | nil => rfl
  | cons character gap inductionHypothesis =>
      obtain ⟨space, blankRest⟩ := List.forall_mem_cons.mp blank
      rw [← inductionHypothesis blankRest, List.cons_append, endsInOperator.eq_def]
      split
      next begins => simp at begins
      next begins =>
        obtain ⟨rfl, _⟩ := List.cons.inj begins
        simp [isSpace] at space
      next begins =>
        obtain ⟨rfl, _⟩ := List.cons.inj begins
        simp [isSpace] at space
      next begins => rw [(List.cons.inj begins).2]

theorem endsInConnective_blanks_append (blank : IsBlank gap) :
    endsInConnective true (gap ++ text) = endsInConnective true text := by
  induction gap with
  | nil => rfl
  | cons character gap inductionHypothesis =>
      obtain ⟨space, blankRest⟩ := List.forall_mem_cons.mp blank
      have noConnective : ∀ connective ∈ Connective.all,
          ¬ resembles connective.keyword (character :: (gap ++ text)) = true := by
        intro connective _ resembled
        have visible := visible_of_resembles (by cases connective <;> decide) resembled character
          List.mem_cons_self
        simp [space] at visible
      rw [List.cons_append, endsInConnective, List.any_eq_false.mpr noConnective, space,
        Bool.and_false, Bool.false_or, Bool.true_or, inductionHypothesis blankRest]

end Unfinished

theorem Parser.State.isSome_step?_of_value {token token' : Token} (isValue : token.kind = .value)
    (isValue' : token'.kind = .value) (state : State) :
    (state.step? token).isSome = (state.step? token').isSome := by
  have noConnective := Token.connective?_eq_none (by simp [isValue] : token.kind ≠ .connective)
  have noConnective' := Token.connective?_eq_none (by simp [isValue'] : token'.kind ≠ .connective)
  obtain ⟨stage, level, outer⟩ := state
  cases stage <;> simp [step?, isValue, isValue', noConnective, noConnective']

namespace Query

open Unfinished

theorem looksUnfinished_blanks_append {gap : String} (blank : IsBlank gap.toList) (query : String) :
    looksUnfinished (gap ++ query) = looksUnfinished query := by
  unfold looksUnfinished
  simp only [String.toList_append, trim_blanks_append blank]
  by_cases kept : trimEnd query.toList = []
  · have nothing : trimEnd (gap.toList ++ query.toList) = [] := by
      rw [trimEnd_eq_nil_iff] at kept ⊢
      exact List.forall_mem_append.mpr ⟨blank, kept⟩
    rw [kept, nothing]
  · rw [trimEnd_blanks_append kept, endsInOperator_blanks_append blank,
      endsInConnective_blanks_append blank]

theorem looksUnfinished_append_blanks {gap : String} (blank : IsBlank gap.toList) (query : String) :
    looksUnfinished (query ++ gap) = looksUnfinished query := by
  unfold looksUnfinished
  simp only [String.toList_append, trim_append_blanks blank, trimEnd_append_blanks blank]

theorem verdict_congr {query query' : String} (trimmed : trim query.toList = trim query'.toList)
    (looks : looksUnfinished query = looksUnfinished query')
    (alike : reading query = reading query') :
    verdict query = verdict query' := by
  by_cases blank : trim query.toList = []
  · rw [verdict_of_isBlank blank, verdict_of_isBlank (trimmed ▸ blank)]
  by_cases unfinished : looksUnfinished query = true
  · rw [verdict_of_looksUnfinished unfinished, verdict_of_looksUnfinished (looks ▸ unfinished)]
  rw [Bool.not_eq_true] at unfinished
  rw [verdict_eq blank unfinished, verdict_eq (trimmed ▸ blank) (looks ▸ unfinished)]
  unfold reading at alike
  cases read : parse query with
  | ok filter =>
      cases read' : parse query' with
      | ok filter' => rfl
      | error error' => simp [read, read', Except.map, Except.mapError] at alike
  | error error =>
      cases read' : parse query' with
      | ok filter' => simp [read, read', Except.map, Except.mapError] at alike
      | error error' =>
          have same : error.toMismatch = error'.toMismatch := by
            simpa [read, read', Except.map, Except.mapError] using alike
          simp only [same]

theorem reading_of_step?_eq_none {query : String} {before after : List Token} {token : Token}
    {middle : Parser.State} (scanned : tokens query = before ++ token :: after)
    (unmarked : ∀ other ∈ before, other.kind ≠ .endOfInput) (ordinary : token.kind ≠ .endOfInput)
    (reached : Parser.State.start.steps? before = some middle) (stuck : middle.step? token = none) :
    reading query = .error ⟨middle.expects, token.kind⟩ := by
  unfold reading parse
  rw [scanned, Grammar.ofTokens_error_of_step?_eq_none after unmarked ordinary reached stuck]
  rfl

theorem verdict_of_values {query query' : String} {earlier : List Token} {last last' : Token}
    {place place' : Nat} (trimmed : trim query.toList = trim query'.toList)
    (looks : looksUnfinished query = looksUnfinished query')
    (unmarked : ∀ token ∈ earlier, token.kind ≠ .endOfInput)
    (scanned : tokens query = (earlier ++ [last]) ++ [Token.final place])
    (scanned' : tokens query' = (earlier ++ [last']) ++ [Token.final place'])
    (isValue : last.kind = .value) (isValue' : last'.kind = .value) :
    verdict query = verdict query' := by
  have ordinary : ∀ {value : Token}, value.kind = .value → value.kind ≠ .endOfInput := by
    intro value isValue
    simp [isValue]
  rcases Parser.State.start.steps?_cases earlier with
    ⟨middle, reached⟩ | ⟨before, token, after, middle, rfl, reached, stuck⟩
  · have onward := middle.isSome_step?_of_value isValue isValue'
    cases stepped : middle.step? last with
    | some next =>
        -- The machine gets through the tokens of either query.
        rw [stepped, Option.isSome_some, eq_comm, Option.isSome_iff_exists] at onward
        obtain ⟨next', stepped'⟩ := onward
        have accepted : ∀ {query place last next}, last.kind = .value →
            tokens query = (earlier ++ [last]) ++ [Token.final place] →
            middle.step? last = some next → verdict query = .accepted := by
          intro query place last next isValue scanned stepped
          have through : Parser.State.start.steps? (earlier ++ [last]) = some next := by
            rw [Parser.State.steps?_append_of_eq reached, Parser.State.steps?_cons, stepped]
            rfl
          apply verdict_of_steps? scanned _ through
          exact List.forall_mem_append.mpr ⟨unmarked,
            List.forall_mem_singleton.mpr (ordinary isValue)⟩
        rw [accepted isValue scanned stepped, accepted isValue' scanned' stepped']
    | none =>
        rw [stepped, Option.isSome_none, eq_comm, Option.isSome_eq_false_iff,
          Option.isNone_iff_eq_none] at onward
        rw [List.append_assoc] at scanned scanned'
        apply verdict_congr trimmed looks
        rw [reading_of_step?_eq_none scanned unmarked (ordinary isValue) reached stepped,
          reading_of_step?_eq_none scanned' unmarked (ordinary isValue') reached onward, isValue,
          isValue']
  · simp only [List.forall_mem_append, List.forall_mem_cons] at unmarked
    simp only [List.append_assoc, List.cons_append] at scanned scanned'
    apply verdict_congr trimmed looks
    rw [reading_of_step?_eq_none scanned unmarked.1 unmarked.2.1 reached stuck,
      reading_of_step?_eq_none scanned' unmarked.1 unmarked.2.1 reached stuck]

/-- Whether the queries are read alike: their tokens and what comes of reading them differ in places
only. -/
structure ReadsAlike (query query' : String) : Prop where
  tokens : (Query.tokens query).map Token.unplaced = (Query.tokens query').map Token.unplaced
  reading : Query.reading query = Query.reading query'

theorem ReadsAlike.of_tokens {query query' : String}
    (alike : (Query.tokens query).map Token.unplaced = (Query.tokens query').map Token.unplaced) :
    ReadsAlike query query' :=
  ⟨alike, reading_congr alike⟩

theorem readsAlike_of_layouts {query query' : String} {written written' : List Token}
    {place place' : Nat} (scanned : Query.tokens query = written ++ [Token.final place])
    (scanned' : Query.tokens query' = written' ++ [Token.final place'])
    (alike : written.map Token.unplaced = written'.map Token.unplaced) :
    ReadsAlike query query' := by
  apply ReadsAlike.of_tokens
  rw [scanned, scanned', List.map_append, List.map_append, alike]
  rfl

section Around

variable {gap : String} (blank : IsBlank gap.toList) (query : String)
include blank

theorem readsAlike_blanks_append : ReadsAlike query (gap ++ query) := by
  obtain ⟨written, _, layout, scanned⟩ := exists_layout query
  obtain ⟨written', _, layout', scanned'⟩ := exists_layout (gap ++ query)
  rw [String.toList_append] at layout'
  apply readsAlike_of_layouts scanned scanned'
  have nothing : IsBlank [] := by simp [IsBlank]
  exact Scan.Layout.blanks_before nothing blank layout layout'

theorem readsAlike_append_blanks
    (noneOpen : ∀ place, .unterminated place ∉ (scan query).diagnostics) :
    ReadsAlike query (query ++ gap) := by
  obtain ⟨written, diagnostics, layout, scanned⟩ := exists_layout query
  obtain ⟨written', _, layout', scanned'⟩ := exists_layout (query ++ gap)
  rw [scan, layout.go_eq] at noneOpen
  rw [String.toList_append] at layout'
  apply readsAlike_of_layouts scanned scanned'
  rw [(layout'.unique (layout.blanks_behind blank noneOpen)).1]

/-- Behind a quotation that is left open there may be blanks as well, for all that the verdict
says. -/
theorem verdict_append_blanks : verdict query = verdict (query ++ gap) := by
  have trimmed : trim query.toList = trim (query ++ gap).toList := by
    rw [String.toList_append, trim_append_blanks blank]
  have looks := (looksUnfinished_append_blanks blank query).symm
  by_cases isOpen : ∃ place, .unterminated place ∈ (scan query).diagnostics
  · obtain ⟨place, isOpen⟩ := isOpen
    obtain ⟨written, diagnostics, layout, scanned⟩ := exists_layout query
    obtain ⟨written', _, layout', scanned'⟩ := exists_layout (query ++ gap)
    rw [scan, layout.go_eq] at isOpen
    obtain ⟨earlier, last, last', _, rfl, behind, isValue, isValue'⟩ :=
      layout.blanks_behind_open blank isOpen
    rw [String.toList_append] at layout'
    obtain ⟨rfl, _⟩ := layout'.unique behind
    exact verdict_of_values trimmed looks (List.forall_mem_append.mp layout.ordinary).1
      scanned scanned' isValue isValue'
  · exact verdict_congr trimmed looks
      (readsAlike_append_blanks blank query fun place member => isOpen ⟨place, member⟩).reading

end Around

/-- All blanks are alike: in place of those between the tokens there may be others, and there may be
some in front of a query, and behind it if no quotation is left open there. Around a query they
never matter for the verdict. -/
theorem blanks_are_alike :
    (∀ before gap gap' after : String, IsBlank gap.toList → IsBlank gap'.toList →
      gap ≠ "" → gap' ≠ "" →
      (∀ token ∈ tokens (before ++ gap ++ after), ¬ token.span.Covers (byteLength before.toList)) →
      ReadsAlike (before ++ gap ++ after) (before ++ gap' ++ after)) ∧
    (∀ gap query : String, IsBlank gap.toList → ReadsAlike query (gap ++ query)) ∧
    (∀ query gap : String, IsBlank gap.toList →
      (∀ place, .unterminated place ∉ (scan query).diagnostics) → ReadsAlike query (query ++ gap)) ∧
    (∀ query gap : String, IsBlank gap.toList →
      verdict (gap ++ query) = verdict query ∧ verdict (query ++ gap) = verdict query) := by
  refine ⟨?_, fun gap query blank => readsAlike_blanks_append blank query,
    fun query gap blank => readsAlike_append_blanks blank query, ?_⟩
  · intro before gap gap' after blank blank' nonempty nonempty' outside
    obtain ⟨written, _, layout, scanned⟩ := exists_layout (before ++ gap ++ after)
    obtain ⟨written', _, layout', scanned'⟩ := exists_layout (before ++ gap' ++ after)
    rw [String.append_assoc, String.toList_append, String.toList_append] at layout layout'
    apply readsAlike_of_layouts scanned scanned'
    apply Scan.Layout.blanks_between blank blank' _ _ layout _ layout'
    · simpa using nonempty
    · simpa using nonempty'
    · intro token member
      rw [Nat.zero_add]
      apply outside
      rw [scanned]
      exact List.mem_append_left _ member
  · intro query gap blank
    have trimmed : trim query.toList = trim (gap ++ query).toList := by
      rw [String.toList_append, trim_blanks_append blank]
    have before := verdict_congr trimmed (looksUnfinished_blanks_append blank query).symm
      (readsAlike_blanks_append blank query).reading
    exact ⟨before.symm, (verdict_append_blanks blank query).symm⟩

/-- A blank that is a control character as well ends an operator word and a connective. Behind an
open quote it goes into the value. -/
theorem blanks_are_alike_control :
    ReadsAlike ("a:not in" ++ " " ++ "(x) or b:y") ("a:not in" ++ "\u0085\u3000" ++ "(x) or b:y") ∧
      ReadsAlike "a:x and" ("a:x and" ++ "\u0085") ∧
      (tokens ("b 'y" ++ "\u0085")).map Token.text = ["b", "y\u0085", ""] ∧
      verdict ("b 'y" ++ "\u0085") = verdict "b 'y" := by
  obtain ⟨between, _, behind, judged⟩ := blanks_are_alike
  have noneOpen : (scan "a:x and").diagnostics = [] := by decide +kernel
  refine ⟨?_, ?_, by decide +kernel, (judged "b 'y" "\u0085" (List.all_eq_true.mp (by decide))).2⟩
  · exact between "a:not in" " " "\u0085\u3000" "(x) or b:y" (List.all_eq_true.mp (by decide))
      (List.all_eq_true.mp (by decide)) (by decide) (by decide) (by decide +kernel)
  · exact behind "a:x and" "\u0085" (List.all_eq_true.mp (by decide)) (by simp [noneOpen])

end Query

end FilterBox
