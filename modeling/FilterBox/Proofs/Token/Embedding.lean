import FilterBox.Proofs.Token.Layout

/-!
A text inside another one.

A layout may begin at a later offset (`Layout.forward`). If it ends with a value or a closing
parenthesis and leaves no quotation open, it stays as it is in front of one more closing parenthesis
(`Layout.enclosed`): nothing that looks beyond the end of its word takes that parenthesis for the
end of the text, or the end of the text for that parenthesis.
-/

namespace FilterBox

open Text Lexeme

/-- The same stretch, so many bytes further behind. -/
def Span.forward (size : Nat) (span : Span) : Span :=
  ⟨size + span.start, size + span.stop⟩

def Token.forward (size : Nat) (token : Token) : Token :=
  { token with span := token.span.forward size }

def Diagnostic.forward (size : Nat) : Diagnostic → Diagnostic
  | dropped character position => dropped character (size + position)
  | unterminated position => unterminated (size + position)

namespace Lexeme

theorem forward_placed (lexeme : Lexeme) (size offset : Nat) (word : List Char) :
    (lexeme.placed offset word).forward size = lexeme.placed (size + offset) word := by
  simp only [placed, Token.forward, Span.forward, Nat.add_assoc]

theorem IsNegatable.not_mem {word : List Char} (negatable : IsNegatable word) : ')' ∉ word := by
  intro member
  have drawn : FollowsColon word [] := .word negatable (endsAt_nil maySucceedOperator)
  have known := drawn.characters ')' member
  simp [isSpace] at known

theorem not_mem_of_comparisonSign {sign : String} (known : sign ∈ [">=", "<=", "!=", ">", "<"]) :
    ')' ∉ sign.toList := by
  simp only [List.mem_cons, List.not_mem_nil, or_false] at known
  rcases known with rfl | rfl | rfl | rfl | rfl <;> decide

/-- An operator draws nothing more into itself when a parenthesis is put behind what follows it. -/
theorem FollowsColon.enclosed {word rest : List Char} (follows : FollowsColon word rest)
    (nonempty : rest ≠ []) (more : List Char) : FollowsColon word (rest ++ ')' :: more) := by
  have same : (rest ++ ')' :: more).head? = rest.head? :=
    Eq.symm <| head?_of_prefix (List.prefix_append ..) nonempty
  cases follows with
  | word negatable ends => exact .word negatable (endsAt_congr same _ ▸ ends)
  | sign isSign =>
      cases isSign with
      | long known => exact .sign (.long known)
      | short known alone => exact .sign (.short known (same ▸ alone))
  | nothing noWord noSign =>
      refine .nothing ?_ ?_
      · rw [Option.eq_none_iff_forall_ne_some]
        intro size found
        obtain ⟨word, later, parts, _, negatable, ends⟩ := isNegatable_of_negatableWordSize? found
        obtain ⟨between, rfl⟩ :=
          prefix_of_not_mem ⟨later, parts.symm⟩ negatable.not_mem
        rw [List.append_assoc] at parts
        obtain rfl := List.append_cancel_left parts
        -- A parenthesis is no boundary, so the word would have been found without it.
        have drawn : endsAt maySucceedOperator between = true := by
          cases between with
          | nil => simp [maySucceedOperator, isSpace] at ends
          | cons next between => exact ends
        simp [negatableWordSize?_append negatable drawn] at noWord
      · rw [comparisonSize?, Option.map_eq_none_iff, List.find?_eq_none] at noSign ⊢
        intro sign known begins
        apply noSign sign known
        rw [List.isPrefixOf_iff_prefix] at begins ⊢
        exact prefix_of_not_mem begins (not_mem_of_comparisonSign known)

theorem IsFirstValue.enclosed {word : List Char} {lexeme : Lexeme}
    (first : IsFirstValue word [] lexeme) (closed : lexeme.closed = true) (more : List Char) :
    IsFirstValue word (')' :: more) lexeme := by
  cases first with
  | closed isQuote read => exact .closed isQuote read
  | unclosed => simp at closed
  | numeral isNumeral _ => exact .numeral isNumeral rfl
  | boolean spelled _ => exact .boolean spelled rfl
  | bare nonempty unquoted inside _ plain =>
      exact .bare nonempty unquoted inside rfl fun literal => absurd (plain literal) (by simp)

/-- Only what ends with a value or a parenthesis may stand in front of a closing parenthesis: an
operator word or a connective would be read otherwise there. -/
theorem IsFirst.enclosed {mode : Mode} {word rest : List Char} {lexeme : Lexeme}
    (first : IsFirst mode word rest lexeme) (closed : lexeme.closed = true)
    (final : rest = [] → lexeme.kind = .value ∨ lexeme.kind = .rightParen) (more : List Char) :
    IsFirst mode word (rest ++ ')' :: more) lexeme := by
  by_cases nonempty : rest = []
  · subst nonempty
    rcases final rfl with isValue | closes
    · cases first with
      | value unequal unnamed first => exact .value unequal unnamed (first.enclosed closed more)
      | _ => simp at isValue
    · cases first with
      | closing => exact .closing
      | value _ _ first => simp [first.kind.1] at closes
      | _ => simp at closes
  · by_cases isOperator : lexeme.kind = .operator
    · cases first with
      | equals => exact .equals
      | colon follows => exact .colon (follows.enclosed nonempty more)
      | value _ _ first => simp [first.kind.1] at isOperator
      | _ => simp at isOperator
    · have same : rest.head? = (rest ++ ')' :: more).head? :=
        head?_of_prefix (List.prefix_append ..) nonempty
      exact first.cut same.symm isOperator

end Lexeme

namespace Token

def closing (offset : Nat) : Token :=
  ⟨.rightParen, ")", none, ⟨offset, offset + 1⟩⟩

/-- Whether the tokens may end in front of a closing parenthesis. -/
def EndWhole (tokens : List Token) : Prop :=
  ∀ token ∈ tokens.getLast?, token.kind = .value ∨ token.kind = .rightParen

theorem EndWhole.tail {token : Token} {tokens : List Token} (whole : EndWhole (token :: tokens)) :
    EndWhole tokens := by
  cases tokens with
  | nil => simp [EndWhole]
  | cons next tokens => simpa [EndWhole, List.getLast?_cons_cons] using whole

theorem EndWhole.behind {tokens' : List Token} (whole : EndWhole tokens') (nonempty : tokens' ≠ [])
    (tokens : List Token) (mark : Token) : EndWhole (tokens ++ mark :: tokens') := by
  obtain ⟨first, later, rfl⟩ := List.exists_cons_of_ne_nil nonempty
  intro token last
  apply whole token
  simpa [List.getLast?_append, List.getLast?_cons] using last

theorem endWhole_concat (tokens : List Token) {last : Token}
    (kind : last.kind = .value ∨ last.kind = .rightParen) : EndWhole (tokens ++ [last]) := by
  intro token isLast
  rw [List.getLast?_concat, Option.mem_some_iff] at isLast
  exact isLast ▸ kind

end Token

namespace Scan

/-- Whether no quotation is left open. -/
def AreClosed (diagnostics : List Diagnostic) : Prop :=
  ∀ place, .unterminated place ∉ diagnostics

theorem AreClosed.forward {diagnostics : List Diagnostic} (closed : AreClosed diagnostics)
    (size : Nat) : AreClosed (diagnostics.map (Diagnostic.forward size)) := by
  intro place member
  obtain ⟨diagnostic, reported, moved⟩ := List.mem_map.mp member
  cases diagnostic with
  | dropped => simp [Diagnostic.forward] at moved
  | unterminated before => exact closed before reported

namespace Layout

variable {mode : Mode} {offset : Nat} {text : List Char} {tokens : List Token}
  {diagnostics : List Diagnostic}

theorem tokens_eq_nil (layout : Layout mode offset [] tokens diagnostics) : tokens = [] := by
  generalize empty : ([] : List Char) = text at layout
  cases layout with
  | nil => rfl
  | blank => simp at empty
  | dropped => simp at empty
  | token first => simp [first.ne_nil] at empty
  | unclosed first => exact absurd empty.symm first.ne_nil

theorem forward (layout : Layout mode offset text tokens diagnostics) (size : Nat) :
    Layout mode (size + offset) text (tokens.map (Token.forward size))
      (diagnostics.map (Diagnostic.forward size)) := by
  induction layout with
  | nil mode offset => exact .nil mode (size + offset)
  | blank space _ inductionHypothesis =>
      rw [← Nat.add_assoc] at inductionHypothesis
      exact .blank space inductionHypothesis
  | dropped visible control _ inductionHypothesis =>
      rw [← Nat.add_assoc] at inductionHypothesis
      exact .dropped visible control inductionHypothesis
  | token first closed _ inductionHypothesis =>
      rw [← Nat.add_assoc] at inductionHypothesis
      rw [List.map_cons, forward_placed]
      exact .token first closed inductionHypothesis
  | unclosed first isOpen =>
      rw [List.map_cons, forward_placed]
      exact .unclosed first isOpen

/-- A text that is read whole stays as it is in front of a closing parenthesis, and behind that a
condition may begin. -/
theorem enclosed (layout : Layout mode offset text tokens diagnostics)
    (closed : AreClosed diagnostics) (whole : Token.EndWhole tokens) {more : List Char}
    {tokens' : List Token} {diagnostics' : List Diagnostic}
    (behind : Layout .field (offset + byteLength text + 1) more tokens' diagnostics') :
    Layout mode offset (text ++ ')' :: more)
      (tokens ++ Token.closing (offset + byteLength text) :: tokens')
      (diagnostics ++ diagnostics') := by
  induction layout with
  | nil mode offset => exact @Layout.token mode offset [')'] more _ _ _ .closing rfl behind
  | blank space _ inductionHypothesis =>
      rw [byteLength_cons, ← Nat.add_assoc] at behind ⊢
      exact .blank space (inductionHypothesis closed whole behind)
  | dropped visible control _ inductionHypothesis =>
      rw [byteLength_cons, ← Nat.add_assoc] at behind ⊢
      apply Layout.dropped visible control
      apply inductionHypothesis _ whole behind
      intro place reported
      exact closed place (List.mem_cons_of_mem _ reported)
  | @token mode offset word rest lexeme tokens diagnostics first isClosed layout
      inductionHypothesis =>
      rw [byteLength_append, ← Nat.add_assoc] at behind ⊢
      rw [List.append_assoc]
      refine .token (first.enclosed isClosed ?_ more) isClosed
        (inductionHypothesis closed whole.tail behind)
      intro ended
      subst ended
      rw [layout.tokens_eq_nil] at whole
      exact whole _ rfl
  | unclosed => exact absurd List.mem_cons_self (closed _)

end Layout

end Scan

end FilterBox
