import FilterBox.Proofs.Grammar.Places
import FilterBox.Proofs.Token.Accounting
import FilterBox.Proofs.Token.Embedding
import FilterBox.Proofs.Token.Passage

/-!
Blanks between the tokens of a text and around it.

All blanks are alike: where there are some, there may be others, more or fewer, and only the places
of the tokens behind them change (`Layout.blanks_between`, `Layout.blanks_before`,
`Layout.blanks_behind`).
-/

namespace FilterBox

open Text Lexeme

/-- Whether there is nothing but blanks in the text. -/
def Text.IsBlank (text : List Char) : Prop :=
  ∀ character ∈ text, isSpace character = true

instance (text : List Char) : Decidable (Text.IsBlank text) :=
  inferInstanceAs (Decidable (∀ character ∈ text, isSpace character = true))

theorem Lexeme.exchangeable_blanks {gap : List Char} (blank : IsBlank gap) (rest : List Char) :
    ∀ later, Exchangeable (later ++ rest) (later ++ (rest ++ gap)) := by
  intro later
  have same : Exchangeable ((later ++ rest) ++ ([] ++ [])) ((later ++ rest) ++ (gap ++ [])) :=
    exchangeable_gap (by simp) blank (fun _ => rfl) (later ++ rest)
  simpa using same

theorem Lexeme.IsFirst.append_of_open {mode : Mode} {word gap : List Char} {lexeme : Lexeme}
    (first : IsFirst mode word [] lexeme) (isOpen : lexeme.closed = false) (blank : IsBlank gap) :
    ∃ lexeme', IsFirst mode (word ++ gap) [] lexeme' ∧ lexeme'.closed = false := by
  cases first with
  | value unequal unnamed first =>
      cases first with
      | @unclosed quote inner content isQuote read =>
          have plain : quote ∉ gap := by
            intro member
            have space := blank quote member
            rcases isQuote with rfl | rfl <;> simp [isSpace] at space
          have leftOpen := Quotation.closed_append_of_open (ne_backslash_of_isQuote isQuote)
            (by rw [read]) plain
          have size := Quotation.size_read_of_open leftOpen
          have whole : Quotation.read quote (inner ++ gap) =
              ⟨(Quotation.read quote (inner ++ gap)).content, (inner ++ gap).length, false⟩ := by
            rw [← size, ← leftOpen]
          exact ⟨_, .value unequal unnamed (.unclosed isQuote whole), rfl⟩
      | _ => simp at isOpen
  | _ => simp at isOpen

namespace Scan

theorem Passage.noneOpen {rest text : List Char} {mode next : Mode} {offset : Nat}
    {tokens : List Token} {diagnostics : List Diagnostic}
    (passage : Passage rest mode offset text tokens diagnostics next) (place : Nat) :
    .unterminated place ∉ diagnostics := by
  induction passage with
  | nil => simp
  | blank _ _ inductionHypothesis => exact inductionHypothesis
  | dropped _ _ _ inductionHypothesis => simpa using inductionHypothesis
  | token _ _ _ inductionHypothesis => exact inductionHypothesis

namespace Layout

variable {mode : Mode} {offset : Nat} {text gap gap' : List Char} {tokens tokens' : List Token}
  {diagnostics diagnostics' : List Diagnostic}

theorem blanks (blank : IsBlank gap)
    (layout : Layout mode (offset + byteLength gap) text tokens diagnostics) :
    Layout mode offset (gap ++ text) tokens diagnostics := by
  induction gap generalizing offset with
  | nil => exact layout
  | cons character gap inductionHypothesis =>
      obtain ⟨space, blankRest⟩ := List.forall_mem_cons.mp blank
      rw [byteLength_cons, ← Nat.add_assoc] at layout
      exact .blank space (inductionHypothesis blankRest layout)

theorem of_isBlank (blank : IsBlank gap) (mode : Mode) (offset : Nat) :
    Layout mode offset gap [] [] := by
  have layout := blanks blank (.nil mode (offset + byteLength gap))
  rwa [List.append_nil] at layout

theorem unplaced_congr {offset' : Nat} (layout : Layout mode offset text tokens diagnostics)
    (layout' : Layout mode offset' text tokens' diagnostics') :
    tokens.map Token.unplaced = tokens'.map Token.unplaced := by
  obtain ⟨base, _, start, _⟩ := layout_go mode 0 text
  have moved : ∀ {offset tokens diagnostics}, Layout mode offset text tokens diagnostics →
      tokens.map Token.unplaced = base.map Token.unplaced := by
    intro offset tokens diagnostics layout
    obtain ⟨rfl, _⟩ := layout.unique (start.forward offset)
    rw [List.map_map]
    rfl
  rw [moved layout, moved layout']

theorem blanks_before {offset' : Nat} (blank : IsBlank gap) (blank' : IsBlank gap')
    (layout : Layout mode offset (gap ++ text) tokens diagnostics)
    (layout' : Layout mode offset' (gap' ++ text) tokens' diagnostics') :
    tokens.map Token.unplaced = tokens'.map Token.unplaced := by
  obtain ⟨behind, _, rest, _⟩ := layout_go mode (offset + byteLength gap) text
  obtain ⟨behind', _, rest', _⟩ := layout_go mode (offset' + byteLength gap') text
  obtain ⟨rfl, _⟩ := layout.unique (blanks blank rest)
  obtain ⟨rfl, _⟩ := layout'.unique (blanks blank' rest')
  exact rest.unplaced_congr rest'

theorem blanks_between {before after : List Char} (blank : IsBlank gap) (blank' : IsBlank gap')
    (nonempty : gap ≠ []) (nonempty' : gap' ≠ [])
    (layout : Layout mode offset (before ++ (gap ++ after)) tokens diagnostics)
    (outside : ∀ token ∈ tokens, ¬ token.span.Covers (offset + byteLength before))
    (layout' : Layout mode offset (before ++ (gap' ++ after)) tokens' diagnostics') :
    tokens.map Token.unplaced = tokens'.map Token.unplaced := by
  have between : ∀ token ∈ tokens, ¬ (token.span.start < offset + byteLength before ∧
      offset + byteLength before < token.span.stop) := fun token member within =>
    outside token member ⟨Nat.le_of_lt within.1, within.2⟩
  obtain ⟨next, tokens₁, tokens₂, _, _, rfl, _, passage, behind⟩ :=
    layout.exists_passage_of_between (by simp [nonempty]) between
  obtain ⟨tokens₂', _, behind', _⟩ := layout_go next (offset + byteLength before) (gap' ++ after)
  have same : ∀ later, Exchangeable (later ++ (gap ++ after)) (later ++ (gap' ++ after)) :=
    exchangeable_gap blank blank' (by simp [nonempty, nonempty'])
  obtain ⟨rfl, _⟩ := layout'.unique ((passage.exchange same).followed behind')
  rw [List.map_append, List.map_append, behind.blanks_before blank blank' behind']

theorem blanks_behind (blank : IsBlank gap)
    (layout : Layout mode offset text tokens diagnostics)
    (noneOpen : ∀ place, .unterminated place ∉ diagnostics) :
    Layout mode offset (text ++ gap) tokens diagnostics := by
  rcases layout.passage_or_open with ⟨next, passage⟩ |
    ⟨before, _, _, _, diagnostics₁, _, _, _, rfl, _⟩
  · have behind := of_isBlank blank next (offset + byteLength text)
    simpa using (passage.exchange (exchangeable_blanks blank [])).followed behind
  · exact absurd (by simp) (noneOpen (offset + byteLength before))

theorem blanks_behind_open (blank : IsBlank gap)
    (layout : Layout mode offset text tokens diagnostics) {place : Nat}
    (isOpen : .unterminated place ∈ diagnostics) :
    ∃ earlier last last' diagnostics', tokens = earlier ++ [last] ∧
      Layout mode offset (text ++ gap) (earlier ++ [last']) diagnostics' ∧
      last.kind = .value ∧ last'.kind = .value := by
  rcases layout.passage_or_open with ⟨_, passage⟩ |
    ⟨before, word, earlier, lexeme, _, next, rfl, rfl, _, passage, first, leftOpen⟩
  · exact absurd isOpen (passage.noneOpen place)
  · obtain ⟨lexeme', first', leftOpen'⟩ := first.append_of_open leftOpen blank
    have same := exchangeable_blanks blank word
    have whole := (passage.exchange same).followed (.unclosed first' leftOpen')
    rw [← List.append_assoc] at whole
    exact ⟨earlier, _, _, _, rfl, whole, (first.rest_of_open leftOpen).1,
      (first'.rest_of_open leftOpen').1⟩

end Layout

end Scan

end FilterBox
