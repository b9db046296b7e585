import FilterBox.Proofs.Token.Layout

/-!
The tokens of a text and the gaps between them.

`Spaced mode offset text tokens` takes a text apart into the words of its tokens, with blanks and
dropped characters around them; what was dropped is not told. A text can be cut off behind any of
its words, as long as the words before it are read as they were (`Spaced.cut`).
-/

namespace FilterBox

open Text Lexeme

/-- The same stretch, so many bytes further in front. -/
def Span.back (size : Nat) (span : Span) : Span :=
  ⟨span.start - size, span.stop - size⟩

def Token.back (size : Nat) (token : Token) : Token :=
  { token with span := token.span.back size }

theorem Lexeme.back_placed (lexeme : Lexeme) (size offset : Nat) (word : List Char) :
    (lexeme.placed (size + offset) word).back size = lexeme.placed offset word := by
  simp only [placed, Token.back, Span.back, Nat.add_assoc, Nat.add_sub_cancel_left]

namespace Scan

/-- Whether there are no tokens in the text, whatever stands around it. -/
def IsGap (text : List Char) : Prop :=
  ∀ character ∈ text, isSpace character = true ∨ isControl character = true

inductive Spaced : Mode → Nat → List Char → List Token → Prop where
  | gap {mode : Mode} {offset : Nat} {gap : List Char} :
      IsGap gap →
      Spaced mode offset gap []
  | token {mode : Mode} {offset : Nat} {gap word rest : List Char} {lexeme : Lexeme}
      {tokens : List Token} :
      IsGap gap →
      IsFirst mode word rest lexeme →
      Spaced (lexeme.nextMode mode) (offset + byteLength gap + byteLength word) rest tokens →
      Spaced mode offset (gap ++ (word ++ rest))
        (lexeme.placed (offset + byteLength gap) word :: tokens)

theorem IsGap.nil : IsGap [] := by
  simp [IsGap]

theorem IsGap.cons {character : Char} {rest : List Char}
    (passed : isSpace character = true ∨ isControl character = true) (isGap : IsGap rest) :
    IsGap (character :: rest) :=
  List.forall_mem_cons.mpr ⟨passed, isGap⟩

namespace Spaced

variable {mode : Mode} {offset : Nat} {text : List Char} {tokens : List Token}

theorem cons {character : Char} {rest : List Char}
    (passed : isSpace character = true ∨ isControl character = true)
    (spaced : Spaced mode (offset + character.utf8Size) rest tokens) :
    Spaced mode offset (character :: rest) tokens := by
  cases spaced with
  | gap isGap => exact .gap (.cons passed isGap)
  | @token _ _ gap word behind lexeme later isGap first spaced =>
      have place : offset + character.utf8Size + byteLength gap =
          offset + byteLength (character :: gap) := by
        rw [byteLength_cons, Nat.add_assoc]
      rw [place] at spaced ⊢
      exact .token (.cons passed isGap) first spaced

theorem last {gap word : List Char} {lexeme : Lexeme} (isGap : IsGap gap)
    (alone : IsFirst mode word [] lexeme) :
    Spaced mode offset (gap ++ word) [lexeme.placed (offset + byteLength gap) word] := by
  have whole : Spaced mode offset (gap ++ (word ++ []))
      [lexeme.placed (offset + byteLength gap) word] := .token isGap alone (.gap .nil)
  rwa [List.append_nil] at whole

theorem of_layout {diagnostics : List Diagnostic}
    (layout : Layout mode offset text tokens diagnostics) : Spaced mode offset text tokens := by
  induction layout with
  | nil => exact .gap .nil
  | blank space _ inductionHypothesis => exact .cons (.inl space) inductionHypothesis
  | dropped _ control _ inductionHypothesis => exact .cons (.inr control) inductionHypothesis
  | token first _ _ inductionHypothesis => exact .token .nil first inductionHypothesis
  | unclosed first _ => exact .last .nil first

theorem tokens_go_gap {gap : List Char} (isGap : IsGap gap) (mode : Mode) (offset : Nat)
    (rest : List Char) :
    (go mode offset (gap ++ rest)).tokens = (go mode (offset + byteLength gap) rest).tokens := by
  induction gap generalizing offset with
  | nil => rfl
  | cons character gap inductionHypothesis =>
      obtain ⟨passed, isGapRest⟩ := List.forall_mem_cons.mp isGap
      rw [byteLength_cons, ← Nat.add_assoc, ← inductionHypothesis isGapRest, List.cons_append]
      cases space : isSpace character with
      | true => rw [go_blank space]
      | false => rw [go_dropped space (passed.resolve_left (by simp [space]))]

theorem tokens_go (spaced : Spaced mode offset text tokens) :
    (go mode offset text).tokens = tokens ++ [Token.final (offset + byteLength text)] := by
  induction spaced with
  | @gap mode offset gap isGap =>
      have passed := tokens_go_gap isGap mode offset []
      rwa [List.append_nil, go_nil] at passed
  | token isGap first _ inductionHypothesis =>
      rw [tokens_go_gap isGap, go_of_isFirst first, byteLength_append, byteLength_append,
        ← Nat.add_assoc, ← Nat.add_assoc, inductionHypothesis]
      rfl

theorem exists_behind {front : List Token} {token : Token}
    (spaced : Spaced mode offset text (front ++ token :: tokens)) :
    ∃ before rest mode', text = before ++ rest ∧ token.span.start = offset + byteLength before ∧
      Spaced mode' (offset + byteLength before) rest (token :: tokens) := by
  induction front generalizing mode offset text with
  | nil =>
      cases spaced with
      | @token _ _ gap word rest lexeme _ isGap first spaced =>
          refine ⟨gap, word ++ rest, mode, rfl, rfl, ?_⟩
          exact .token .nil first spaced
  | cons earlier front inductionHypothesis =>
      cases spaced with
      | @token _ _ gap word rest lexeme _ _ _ spaced =>
          obtain ⟨before, behind, mode', rfl, place, spaced'⟩ := inductionHypothesis spaced
          have joined : offset + byteLength gap + byteLength word + byteLength before =
              offset + byteLength (gap ++ (word ++ before)) := by
            simp only [byteLength_append, Nat.add_assoc]
          rw [joined] at place spaced'
          exact ⟨gap ++ (word ++ before), behind, mode', by simp, place, spaced'⟩

theorem mode_eq_field {token : Token} (spaced : Spaced mode offset text (token :: tokens))
    (isField : token.kind = .field) : mode = .field := by
  cases spaced with
  | token _ first _ => exact first.mode_eq_field isField

/-- A text can be cut off behind a token that does not need what stands behind it, if no mere colon
stands before it. -/
theorem cut {inner later : List Token} {last : Token}
    (spaced : Spaced mode offset text (inner ++ last :: later))
    (unmixed : ∀ token ∈ inner, token.kind = .operator → token.text ≠ ":") :
    ∃ front word rest mode' lexeme, text = front ++ (word ++ rest) ∧
      last = lexeme.placed (offset + byteLength front) word ∧ IsFirst mode' word rest lexeme ∧
        (IsFirst mode' word [] lexeme → Spaced mode offset (front ++ word) (inner ++ [last])) := by
  induction inner generalizing mode offset text with
  | nil =>
      cases spaced with
      | @token _ _ gap word rest lexeme _ isGap first spaced =>
          exact ⟨gap, word, rest, mode, lexeme, rfl, rfl, first, .last isGap⟩
  | cons token inner inductionHypothesis =>
      rw [List.forall_mem_cons] at unmixed
      cases spaced with
      | @token _ _ gap word rest lexeme _ isGap first spaced =>
          obtain ⟨front, word', rest', mode', lexeme', rfl, place, first', whole⟩ :=
            inductionHypothesis spaced unmixed.2
          have joined : offset + byteLength gap + byteLength word + byteLength front =
              offset + byteLength (gap ++ (word ++ front)) := by
            simp only [byteLength_append, Nat.add_assoc]
          rw [joined] at place
          refine ⟨gap ++ (word ++ front), word', rest', mode', lexeme', by simp, place, first',
            fun alone => ?_⟩
          have begins : front ++ word' <+: front ++ (word' ++ rest') :=
            ⟨rest', List.append_assoc ..⟩
          have nonempty : front ++ word' ≠ [] := by simp [first'.ne_nil]
          rw [List.append_assoc, List.append_assoc]
          rcases first.cut_of_prefix begins nonempty with first | ⟨isOperator, colon, _⟩
          · exact .token isGap first (whole alone)
          · exact absurd (by rw [placed, colon]) (unmixed.1 isOperator)

theorem back {size : Nat} (spaced : Spaced mode (size + offset) text tokens) :
    Spaced mode offset text (tokens.map (Token.back size)) := by
  generalize place : size + offset = offset' at spaced
  induction spaced generalizing offset with
  | gap isGap => exact .gap isGap
  | token isGap first _ inductionHypothesis =>
      subst place
      rw [List.map_cons, Nat.add_assoc, back_placed]
      exact .token isGap first (inductionHypothesis (by simp only [Nat.add_assoc]))

end Spaced

end Scan

end FilterBox
