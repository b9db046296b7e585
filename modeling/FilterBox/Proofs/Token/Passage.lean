import FilterBox.Proofs.Lexeme.Exchange
import FilterBox.Proofs.Token.Layout

/-!
The front of a text as it is scanned in front of a rest.

`Passage rest mode offset front tokens diagnostics next` lays out the front and leaves the rest to
be read in the next mode. A layout can be parted in front of any of its tokens and at any place
between them, and goes on behind a passage (`Passage.followed`). The rest may be another one that no
token in front of it can tell from the first (`Passage.exchange`).
-/

namespace FilterBox.Scan

open Text Lexeme

inductive Passage (rest : List Char) :
    Mode → Nat → List Char → List Token → List Diagnostic → Mode → Prop where
  | nil (mode : Mode) (offset : Nat) :
      Passage rest mode offset [] [] [] mode
  | blank {mode next : Mode} {offset : Nat} {character : Char} {front : List Char}
      {tokens : List Token} {diagnostics : List Diagnostic} :
      isSpace character = true →
      Passage rest mode (offset + character.utf8Size) front tokens diagnostics next →
      Passage rest mode offset (character :: front) tokens diagnostics next
  | dropped {mode next : Mode} {offset : Nat} {character : Char} {front : List Char}
      {tokens : List Token} {diagnostics : List Diagnostic} :
      isSpace character = false →
      isControl character = true →
      Passage rest mode (offset + character.utf8Size) front tokens diagnostics next →
      Passage rest mode offset (character :: front) tokens
        (.dropped character offset :: diagnostics) next
  | token {mode next : Mode} {offset : Nat} {word front : List Char} {lexeme : Lexeme}
      {tokens : List Token} {diagnostics : List Diagnostic} :
      IsFirst mode word (front ++ rest) lexeme →
      lexeme.closed = true →
      Passage rest (lexeme.nextMode mode) (offset + byteLength word) front tokens diagnostics next →
      Passage rest mode offset (word ++ front) (lexeme.placed offset word :: tokens)
        diagnostics next

namespace Passage

variable {mode next : Mode} {offset : Nat} {front rest : List Char} {tokens : List Token}
  {diagnostics : List Diagnostic}

/-- What is scanned in front of a rest does not change with the rest, if no token can tell the one
rest from the other. -/
theorem exchange (passage : Passage rest mode offset front tokens diagnostics next)
    {rest' : List Char} (same : ∀ later, Exchangeable (later ++ rest) (later ++ rest')) :
    Passage rest' mode offset front tokens diagnostics next := by
  induction passage with
  | nil mode offset => exact .nil mode offset
  | blank space _ inductionHypothesis => exact .blank space inductionHypothesis
  | dropped visible control _ inductionHypothesis =>
      exact .dropped visible control inductionHypothesis
  | token first closed _ inductionHypothesis =>
      exact .token (first.exchange closed (same _)) closed inductionHypothesis

theorem followed (passage : Passage rest mode offset front tokens diagnostics next)
    {tokens' : List Token} {diagnostics' : List Diagnostic}
    (layout : Layout next (offset + byteLength front) rest tokens' diagnostics') :
    Layout mode offset (front ++ rest) (tokens ++ tokens') (diagnostics ++ diagnostics') := by
  induction passage with
  | nil => exact layout
  | blank space _ inductionHypothesis =>
      rw [byteLength_cons, ← Nat.add_assoc] at layout
      exact .blank space (inductionHypothesis layout)
  | dropped visible control _ inductionHypothesis =>
      rw [byteLength_cons, ← Nat.add_assoc] at layout
      exact .dropped visible control (inductionHypothesis layout)
  | token first closed _ inductionHypothesis =>
      rw [byteLength_append, ← Nat.add_assoc] at layout
      rw [List.append_assoc]
      exact .token first closed (inductionHypothesis layout)

end Passage

namespace Layout

variable {mode : Mode} {offset : Nat} {text : List Char} {tokens tokens' : List Token}
  {diagnostics diagnostics' : List Diagnostic}

/-- There is only one layout of a text. -/
theorem unique (layout : Layout mode offset text tokens diagnostics)
    (layout' : Layout mode offset text tokens' diagnostics') :
    tokens = tokens' ∧ diagnostics = diagnostics' := by
  have same := layout.go_eq.symm.trans layout'.go_eq
  rw [Scan.mk.injEq] at same
  exact ⟨List.append_cancel_right same.1, same.2⟩

theorem exists_passage {earlier later : List Token} {token : Token}
    (layout : Layout mode offset text (earlier ++ token :: later) diagnostics) :
    ∃ before word after next lexeme diagnostics₁ diagnostics₂,
      text = before ++ (word ++ after) ∧ diagnostics = diagnostics₁ ++ diagnostics₂ ∧
      Passage (word ++ after) mode offset before earlier diagnostics₁ next ∧
      IsFirst next word after lexeme ∧ token = lexeme.placed (offset + byteLength before) word ∧
      Layout next (offset + byteLength before) (word ++ after) (token :: later) diagnostics₂ := by
  generalize whole : earlier ++ token :: later = tokens at layout
  induction layout generalizing earlier with
  | nil => simp at whole
  | @blank mode offset character rest tokens diagnostics space layout inductionHypothesis =>
      obtain ⟨before, word, after, next, lexeme, diagnostics₁, diagnostics₂, rfl, rfl, passage,
        first, placed, behind⟩ := inductionHypothesis whole
      refine ⟨character :: before, word, after, next, lexeme, diagnostics₁, diagnostics₂, rfl, rfl,
        .blank space passage, first, ?_, ?_⟩
      · rw [placed, byteLength_cons, Nat.add_assoc]
      · rwa [byteLength_cons, ← Nat.add_assoc]
  | @dropped mode offset character rest tokens diagnostics visible control layout
      inductionHypothesis =>
      obtain ⟨before, word, after, next, lexeme, diagnostics₁, diagnostics₂, rfl, rfl, passage,
        first, placed, behind⟩ := inductionHypothesis whole
      refine ⟨character :: before, word, after, next, lexeme,
        .dropped character offset :: diagnostics₁, diagnostics₂, rfl, rfl,
        .dropped visible control passage, first, ?_, ?_⟩
      · rw [placed, byteLength_cons, Nat.add_assoc]
      · rwa [byteLength_cons, ← Nat.add_assoc]
  | @token mode offset word rest lexeme tokens diagnostics first closed layout
      inductionHypothesis =>
      cases earlier with
      | nil =>
          obtain ⟨rfl, rfl⟩ := List.cons.inj whole
          exact ⟨[], word, rest, mode, lexeme, [], diagnostics, rfl, rfl, .nil mode offset, first,
            rfl, .token first closed layout⟩
      | cons token' earlier =>
          obtain ⟨rfl, wholeLater⟩ := List.cons.inj whole
          obtain ⟨before, word', after, next, lexeme', diagnostics₁, diagnostics₂, rfl, rfl,
            passage, first', placed, behind⟩ := inductionHypothesis wholeLater
          refine ⟨word ++ before, word', after, next, lexeme', diagnostics₁, diagnostics₂, by simp,
            rfl, .token first closed passage, first', ?_, ?_⟩
          · rw [placed, byteLength_append, Nat.add_assoc]
          · rwa [byteLength_append, ← Nat.add_assoc]
  | @unclosed mode offset word lexeme first isOpen =>
      have single : earlier = [] ∧ token = lexeme.placed offset word ∧ later = [] := by
        simpa [List.append_eq_singleton_iff] using whole
      obtain ⟨rfl, rfl, rfl⟩ := single
      refine ⟨[], word, [], mode, lexeme, [], _, by simp, rfl, .nil mode offset, first, rfl, ?_⟩
      rw [List.append_nil]
      exact .unclosed first isOpen

/-- A layout is parted in front of the token at a place, and the word at this place is that of the
token. -/
theorem exists_passage_at {before word after : List Char} {earlier later : List Token}
    {token : Token}
    (layout : Layout mode offset (before ++ (word ++ after))
      (earlier ++ token :: later) diagnostics)
    (place : token.span =
      ⟨offset + byteLength before, offset + byteLength before + byteLength word⟩) :
    ∃ next lexeme diagnostics₁ diagnostics₂,
      diagnostics = diagnostics₁ ++ diagnostics₂ ∧
      Passage (word ++ after) mode offset before earlier diagnostics₁ next ∧
      IsFirst next word after lexeme ∧ token = lexeme.placed (offset + byteLength before) word ∧
      Layout next (offset + byteLength before) (word ++ after) (token :: later) diagnostics₂ := by
  obtain ⟨before', word', after', next, lexeme, diagnostics₁, diagnostics₂, parts, rfl, passage,
    first, rfl, behind⟩ := layout.exists_passage
  simp only [placed, Span.mk.injEq] at place
  obtain ⟨rfl, partsBehind⟩ := append_inj_of_byteLength parts (by omega)
  obtain ⟨rfl, rfl⟩ := append_inj_of_byteLength partsBehind (by omega)
  exact ⟨next, lexeme, diagnostics₁, diagnostics₂, rfl, passage, first, rfl, behind⟩

theorem eq_nil_or_exists_append_of_between {front rest word behind : List Char}
    (whole : front ++ rest = word ++ behind)
    (outside : ¬ (offset < offset + byteLength front ∧
      offset + byteLength front < offset + byteLength word)) :
    front = [] ∨ ∃ later, front = word ++ later ∧ behind = later ++ rest := by
  rcases List.append_eq_append_iff.mp whole with ⟨excess, rfl, rfl⟩ | ⟨later, rfl, rfl⟩
  · by_cases start : front = []
    · exact .inl start
    · have positive := byteLength_pos start
      rw [byteLength_append] at outside
      obtain rfl : excess = [] := eq_nil_of_byteLength (by omega)
      exact .inr ⟨[], by simp, rfl⟩
  · exact .inr ⟨later, rfl, rfl⟩

theorem exists_passage_of_between {front rest : List Char} (nonempty : rest ≠ [])
    (layout : Layout mode offset (front ++ rest) tokens diagnostics)
    (between : ∀ token ∈ tokens, ¬ (token.span.start < offset + byteLength front ∧
      offset + byteLength front < token.span.stop)) :
    ∃ next tokens₁ tokens₂ diagnostics₁ diagnostics₂,
      tokens = tokens₁ ++ tokens₂ ∧ diagnostics = diagnostics₁ ++ diagnostics₂ ∧
      Passage rest mode offset front tokens₁ diagnostics₁ next ∧
      Layout next (offset + byteLength front) rest tokens₂ diagnostics₂ := by
  generalize whole : front ++ rest = text at layout
  induction layout generalizing front with
  | nil => simp [nonempty] at whole
  | @blank mode offset character text tokens diagnostics space layout inductionHypothesis =>
      cases front with
      | nil =>
          subst whole
          exact ⟨mode, [], tokens, [], diagnostics, rfl, rfl, .nil mode offset, .blank space layout⟩
      | cons first front =>
          obtain ⟨rfl, later⟩ := List.cons.inj whole
          rw [byteLength_cons, ← Nat.add_assoc] at between ⊢
          obtain ⟨next, tokens₁, tokens₂, diagnostics₁, diagnostics₂, rfl, rfl, passage, behind⟩ :=
            inductionHypothesis between later
          exact ⟨next, tokens₁, tokens₂, diagnostics₁, diagnostics₂, rfl, rfl, .blank space passage,
            behind⟩
  | @dropped mode offset character text tokens diagnostics visible control layout
      inductionHypothesis =>
      cases front with
      | nil =>
          subst whole
          exact ⟨mode, [], tokens, [], _, rfl, rfl, .nil mode offset,
            .dropped visible control layout⟩
      | cons first front =>
          obtain ⟨rfl, later⟩ := List.cons.inj whole
          rw [byteLength_cons, ← Nat.add_assoc] at between ⊢
          obtain ⟨next, tokens₁, tokens₂, diagnostics₁, diagnostics₂, rfl, rfl, passage, behind⟩ :=
            inductionHypothesis between later
          exact ⟨next, tokens₁, tokens₂, _, diagnostics₂, rfl, rfl,
            .dropped visible control passage, behind⟩
  | @token mode offset word text lexeme tokens diagnostics first closed layout
      inductionHypothesis =>
      rw [List.forall_mem_cons] at between
      obtain ⟨outside, between⟩ := between
      rcases eq_nil_or_exists_append_of_between whole outside with rfl | ⟨front, rfl, rfl⟩
      · subst whole
        exact ⟨mode, [], _, [], diagnostics, rfl, rfl, .nil mode offset, .token first closed layout⟩
      · rw [byteLength_append, ← Nat.add_assoc] at between ⊢
        obtain ⟨next, tokens₁, tokens₂, diagnostics₁, diagnostics₂, rfl, rfl, passage, behind⟩ :=
          inductionHypothesis between rfl
        exact ⟨next, _, tokens₂, diagnostics₁, diagnostics₂, rfl, rfl, .token first closed passage,
          behind⟩
  | @unclosed mode offset word lexeme first isOpen =>
      rw [List.forall_mem_singleton] at between
      rcases eq_nil_or_exists_append_of_between (whole.trans (List.append_nil word).symm)
        between with rfl | ⟨front, rfl, ends⟩
      · subst whole
        exact ⟨mode, [], _, [], _, rfl, rfl, .nil mode offset, .unclosed first isOpen⟩
      · simp [nonempty] at ends

theorem passage_or_open (layout : Layout mode offset text tokens diagnostics) :
    (∃ next, Passage [] mode offset text tokens diagnostics next) ∨
    ∃ before word earlier lexeme diagnostics₁ next,
      text = before ++ word ∧
      tokens = earlier ++ [lexeme.placed (offset + byteLength before) word] ∧
      diagnostics = diagnostics₁ ++ [.unterminated (offset + byteLength before)] ∧
      Passage word mode offset before earlier diagnostics₁ next ∧ IsFirst next word [] lexeme ∧
      lexeme.closed = false := by
  induction layout with
  | nil mode offset => exact .inl ⟨mode, .nil mode offset⟩
  | blank space _ inductionHypothesis =>
      rcases inductionHypothesis with ⟨next, passage⟩ |
        ⟨before, word, earlier, lexeme, diagnostics₁, next, rfl, rfl, rfl, passage, isOpen⟩
      · exact .inl ⟨next, .blank space passage⟩
      · right
        rw [Nat.add_assoc, ← byteLength_cons]
        exact ⟨_, word, earlier, lexeme, diagnostics₁, next, rfl, rfl, rfl, .blank space passage,
          isOpen⟩
  | dropped visible control _ inductionHypothesis =>
      rcases inductionHypothesis with ⟨next, passage⟩ |
        ⟨before, word, earlier, lexeme, diagnostics₁, next, rfl, rfl, rfl, passage, isOpen⟩
      · exact .inl ⟨next, .dropped visible control passage⟩
      · right
        rw [Nat.add_assoc, ← byteLength_cons]
        exact ⟨_, word, earlier, lexeme, _, next, rfl, rfl, rfl, .dropped visible control passage,
          isOpen⟩
  | @token mode offset word rest lexeme tokens diagnostics first closed _ inductionHypothesis =>
      rcases inductionHypothesis with ⟨next, passage⟩ |
        ⟨before, word', earlier, lexeme', diagnostics₁, next, rfl, rfl, rfl, passage, isOpen⟩
      · rw [← List.append_nil rest] at first
        exact .inl ⟨next, .token first closed passage⟩
      · right
        rw [Nat.add_assoc, ← byteLength_append]
        exact ⟨word ++ before, word', _, lexeme', diagnostics₁, next, by simp, rfl, rfl,
          .token first closed passage, isOpen⟩
  | @unclosed mode offset word lexeme first isOpen =>
      exact .inr ⟨[], word, [], lexeme, [], mode, rfl, rfl, rfl, .nil mode offset, first, isOpen⟩

end Layout

end FilterBox.Scan
