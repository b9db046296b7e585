import FilterBox.Proofs.Lexeme.First
import FilterBox.Proofs.Text.Place
import FilterBox.Proofs.Token.Reading

/-!
The scan of a text as a relation.

`Layout mode offset text tokens diagnostics` lays out a text that begins at an offset: blanks,
control characters that are dropped, and the words of tokens. The scan finds just that (`layout_go`,
`Layout.go_eq`), so what holds of all tokens and diagnostics is proved by induction over the layout.
-/

namespace FilterBox

open Text Lexeme

/-- The token that a lexeme becomes where its word stands. -/
def Lexeme.placed (lexeme : Lexeme) (offset : Nat) (word : List Char) : Token :=
  ⟨lexeme.kind, String.ofList lexeme.text, lexeme.valueKind, ⟨offset, offset + byteLength word⟩⟩

namespace Scan

inductive Layout : Mode → Nat → List Char → List Token → List Diagnostic → Prop where
  | nil (mode : Mode) (offset : Nat) :
      Layout mode offset [] [] []
  | blank {mode : Mode} {offset : Nat} {character : Char} {rest : List Char} {tokens : List Token}
      {diagnostics : List Diagnostic} :
      isSpace character = true →
      Layout mode (offset + character.utf8Size) rest tokens diagnostics →
      Layout mode offset (character :: rest) tokens diagnostics
  | dropped {mode : Mode} {offset : Nat} {character : Char} {rest : List Char} {tokens : List Token}
      {diagnostics : List Diagnostic} :
      isSpace character = false →
      isControl character = true →
      Layout mode (offset + character.utf8Size) rest tokens diagnostics →
      Layout mode offset (character :: rest) tokens (.dropped character offset :: diagnostics)
  | token {mode : Mode} {offset : Nat} {word rest : List Char} {lexeme : Lexeme}
      {tokens : List Token} {diagnostics : List Diagnostic} :
      IsFirst mode word rest lexeme →
      lexeme.closed = true →
      Layout (lexeme.nextMode mode) (offset + byteLength word) rest tokens diagnostics →
      Layout mode offset (word ++ rest) (lexeme.placed offset word :: tokens) diagnostics
  | unclosed {mode : Mode} {offset : Nat} {word : List Char} {lexeme : Lexeme} :
      IsFirst mode word [] lexeme →
      lexeme.closed = false →
      Layout mode offset word [lexeme.placed offset word] [.unterminated offset]

theorem go_dropped {character : Char} (visible : isSpace character = false)
    (control : isControl character = true) (mode : Mode) (offset : Nat) (rest : List Char) :
    go mode offset (character :: rest) =
      ⟨(go mode (offset + character.utf8Size) rest).tokens,
        .dropped character offset :: (go mode (offset + character.utf8Size) rest).diagnostics⟩ := by
  have nothing : first? mode (character :: rest) = none := (first?_eq_none_iff visible).mpr control
  rw [go.eq_def]
  simp only [visible, Bool.false_eq_true, if_false, nothing]

theorem go_of_isFirst {mode : Mode} {word rest : List Char} {lexeme : Lexeme}
    (first : IsFirst mode word rest lexeme) (offset : Nat) :
    go mode offset (word ++ rest) =
      ⟨lexeme.placed offset word ::
          (go (lexeme.nextMode mode) (offset + byteLength word) rest).tokens,
        if lexeme.closed then
          (go (lexeme.nextMode mode) (offset + byteLength word) rest).diagnostics
        else
          .unterminated offset ::
            (go (lexeme.nextMode mode) (offset + byteLength word) rest).diagnostics⟩ := by
  have found := first.first?_append
  obtain ⟨character, later, rfl, visible⟩ := first.visible
  have taken : (character :: (later ++ rest)).take lexeme.size = character :: later := by
    rw [first.size, ← List.cons_append, List.take_left]
  have behind : (later ++ rest).drop (lexeme.size - 1) = rest := by
    rw [first.size, List.length_cons, Nat.add_sub_cancel, List.drop_left]
  rw [List.cons_append] at found ⊢
  rw [go.eq_def]
  simp only [visible, Bool.false_eq_true, if_false, found, taken, behind]
  rfl

theorem front_cases (mode : Mode) (text : List Char) :
    text = [] ∨
    (∃ character rest, text = character :: rest ∧ isSpace character = true) ∨
    (∃ character rest, text = character :: rest ∧ isSpace character = false ∧
      isControl character = true) ∨
    ∃ word rest lexeme, text = word ++ rest ∧ IsFirst mode word rest lexeme := by
  cases text with
  | nil => exact .inl rfl
  | cons character rest =>
      right
      cases space : isSpace character with
      | true => exact .inl ⟨character, rest, rfl, space⟩
      | false =>
          right
          cases found : first? mode (character :: rest) with
          | none => exact .inl ⟨character, rest, rfl, space, (first?_eq_none_iff space).mp found⟩
          | some lexeme =>
              obtain ⟨word, behind, parts, first⟩ := first?_eq_some_iff.mp found
              exact .inr ⟨word, behind, lexeme, parts, first⟩

theorem layout_go (mode : Mode) (offset : Nat) (text : List Char) :
    ∃ tokens diagnostics, Layout mode offset text tokens diagnostics ∧
      go mode offset text = ⟨tokens ++ [Token.final (offset + byteLength text)], diagnostics⟩ := by
  rcases front_cases mode text with rfl | ⟨character, rest, whole, space⟩ |
    ⟨character, rest, whole, visible, control⟩ | ⟨word, rest, lexeme, whole, first⟩
  · exact ⟨[], [], .nil mode offset, go_nil mode offset⟩
  · obtain ⟨tokens, diagnostics, layout, scanned⟩ :=
      layout_go mode (offset + character.utf8Size) rest
    subst whole
    refine ⟨tokens, diagnostics, .blank space layout, ?_⟩
    rw [go_blank space, scanned, byteLength_cons, Nat.add_assoc]
  · obtain ⟨tokens, diagnostics, layout, scanned⟩ :=
      layout_go mode (offset + character.utf8Size) rest
    subst whole
    refine ⟨tokens, _, .dropped visible control layout, ?_⟩
    rw [go_dropped visible control, scanned, byteLength_cons, Nat.add_assoc]
  · have nonempty := List.length_pos_iff.mpr first.ne_nil
    cases closed : lexeme.closed with
    | true =>
        obtain ⟨tokens, diagnostics, layout, scanned⟩ :=
          layout_go (lexeme.nextMode mode) (offset + byteLength word) rest
        subst whole
        refine ⟨_, diagnostics, .token first closed layout, ?_⟩
        rw [go_of_isFirst first, scanned, closed, byteLength_append, ← Nat.add_assoc]
        rfl
    | false =>
        obtain ⟨_, _, rfl⟩ := first.rest_of_open closed
        rw [List.append_nil] at whole
        subst whole
        refine ⟨_, _, .unclosed first closed, ?_⟩
        have scanned := go_of_isFirst first offset
        rwa [List.append_nil, closed, go_nil] at scanned
termination_by text.length
decreasing_by
  all_goals
    simp only [whole, List.length_cons, List.length_append]
    omega

/-- What is laid out is what the scan finds. -/
theorem Layout.go_eq {mode : Mode} {offset : Nat} {text : List Char} {tokens : List Token}
    {diagnostics : List Diagnostic} (layout : Layout mode offset text tokens diagnostics) :
    go mode offset text = ⟨tokens ++ [Token.final (offset + byteLength text)], diagnostics⟩ := by
  induction layout with
  | nil mode offset => exact go_nil mode offset
  | blank space _ inductionHypothesis =>
      rw [go_blank space, inductionHypothesis, byteLength_cons, Nat.add_assoc]
  | dropped visible control _ inductionHypothesis =>
      rw [go_dropped visible control, inductionHypothesis, byteLength_cons, Nat.add_assoc]
  | token first closed _ inductionHypothesis =>
      rw [go_of_isFirst first, inductionHypothesis, closed, byteLength_append, ← Nat.add_assoc]
      rfl
  | @unclosed mode offset word lexeme first isOpen =>
      have scanned := go_of_isFirst first offset
      rw [List.append_nil, isOpen, go_nil] at scanned
      exact scanned

namespace Layout

variable {mode : Mode} {offset : Nat} {text : List Char} {tokens : List Token}
  {diagnostics : List Diagnostic}

theorem exists_word (layout : Layout mode offset text tokens diagnostics) :
    ∀ token ∈ tokens, ∃ before word after mode' lexeme, text = before ++ (word ++ after) ∧
      IsFirst mode' word after lexeme ∧
        token = lexeme.placed (offset + byteLength before) word := by
  induction layout with
  | nil => simp
  | @blank mode offset character rest _ _ _ _ inductionHypothesis =>
      intro token member
      obtain ⟨before, word, after, mode', lexeme, rfl, first, rfl⟩ :=
        inductionHypothesis token member
      refine ⟨character :: before, word, after, mode', lexeme, rfl, first, ?_⟩
      rw [byteLength_cons, Nat.add_assoc]
  | @dropped mode offset character rest _ _ _ _ _ inductionHypothesis =>
      intro token member
      obtain ⟨before, word, after, mode', lexeme, rfl, first, rfl⟩ :=
        inductionHypothesis token member
      refine ⟨character :: before, word, after, mode', lexeme, rfl, first, ?_⟩
      rw [byteLength_cons, Nat.add_assoc]
  | @token mode offset word rest lexeme _ _ first _ _ inductionHypothesis =>
      intro token member
      rcases List.mem_cons.mp member with rfl | member
      · exact ⟨[], word, rest, mode, lexeme, rfl, first, rfl⟩
      · obtain ⟨before, word', after, mode', lexeme', rfl, first', rfl⟩ :=
          inductionHypothesis token member
        refine ⟨word ++ before, word', after, mode', lexeme', by simp, first', ?_⟩
        rw [byteLength_append, Nat.add_assoc]
  | @unclosed mode offset word lexeme first _ =>
      intro token member
      obtain rfl := List.mem_singleton.mp member
      exact ⟨[], word, [], mode, lexeme, by simp, first, rfl⟩

theorem ordinary (layout : Layout mode offset text tokens diagnostics) :
    ∀ token ∈ tokens, token.kind ≠ .endOfInput := by
  intro token member
  obtain ⟨_, _, _, _, _, _, first, rfl⟩ := layout.exists_word token member
  exact first.ordinary

theorem bounds (layout : Layout mode offset text tokens diagnostics) :
    ∀ token ∈ tokens, offset ≤ token.span.start ∧ token.span.start < token.span.stop ∧
      token.span.stop ≤ offset + byteLength text := by
  intro token member
  obtain ⟨before, word, after, mode', lexeme, rfl, first, rfl⟩ := layout.exists_word token member
  have positive := byteLength_pos first.ne_nil
  simp only [placed, byteLength_append]
  omega

theorem ordered (layout : Layout mode offset text tokens diagnostics) :
    tokens.Pairwise fun token token' => token.span.stop ≤ token'.span.start := by
  induction layout with
  | nil => exact .nil
  | blank _ _ inductionHypothesis => exact inductionHypothesis
  | dropped _ _ _ inductionHypothesis => exact inductionHypothesis
  | token _ _ layout inductionHypothesis =>
      exact List.pairwise_cons.mpr ⟨fun token member => (layout.bounds token member).1,
        inductionHypothesis⟩
  | unclosed => exact List.pairwise_singleton ..

end Layout

end Scan

end FilterBox
