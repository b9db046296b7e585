import FilterBox.Proofs.Grammar.Descent
import FilterBox.Proofs.Lexeme.Casing
import FilterBox.Proofs.Lexeme.Exchange
import FilterBox.Proofs.Token.Context

/-!
Keywords of a query in another case.

The words of the language may be written in any case. The token of such a word has another text, and
nothing else in the scan changes (`tokens_recased`). The filter reads no more of such a token than
what it stands for (`Token.ReadsLike`), so the query has the same filter with the same places, or
the same error.
-/

namespace FilterBox

open Text Lexeme

/-- Whether the tokens stand for the same at the same place, and are no fields. -/
structure Token.ReadsLike (token token' : Token) : Prop where
  unnamed : token.kind ≠ .field
  kind : token'.kind = token.kind
  span : token'.span = token.span
  connective : token'.connective? = token.connective?
  operator : token'.operator = token.operator
  value : token.kind = .value → token'.value = token.value

/-- Whether a token is a word of the language: a connective, an operator or a truth value. -/
def Token.IsKeyword (token : Token) : Prop :=
  token.kind = .connective ∨ token.kind = .operator ∨
    (token.kind = .value ∧ token.valueKind = some .boolean)

theorem Token.IsKeyword.readsLike {token : Token} (keyword : token.IsKeyword) {text : String}
    (same : SameLetters token.text.toList text.toList) :
    token.ReadsLike { token with text := text } where
  unnamed := by
    rcases keyword with kind | kind | ⟨kind, _⟩ <;> simp [kind]
  kind := rfl
  span := rfl
  connective := by
    simp only [Token.connective?, Connective.ofKeyword?_of_sameLetters same]
  operator := by
    simp only [Token.operator, Operator.ofSymbol?_of_sameLetters same]
  value isValue := by
    have truth : token.valueKind = some .boolean := by
      rcases keyword with kind | kind | ⟨_, truth⟩
      · simp [isValue] at kind
      · simp [isValue] at kind
      · exact truth
    simp only [Token.value, truth, same.spells]

namespace Parser.State

variable {token token' : Token}

theorem step?_of_readsLike (alike : token.ReadsLike token') (state : State) :
    state.step? token' = state.step? token := by
  obtain ⟨stage, level, outer⟩ := state
  have unnamed := alike.unnamed
  have value := alike.value
  simp only [step?, alike.kind, alike.span, alike.connective, alike.operator]
  cases stage with
  | operand => cases kind : token.kind <;> simp [kind] at unnamed ⊢
  | value field operator => cases kind : token.kind <;> simp [kind] at value ⊢; simp [value]
  | item field operator items => cases kind : token.kind <;> simp [kind] at value ⊢; simp [value]
  | _ => rfl

theorem run_of_readsLike (alike : token.ReadsLike token') (front back : List Token)
    (state : State) (last : Nat) :
    state.run last (front ++ token' :: back) = state.run last (front ++ token :: back) := by
  induction front generalizing state last with
  | nil =>
      simp only [List.nil_append, run, alike.kind, alike.span, step?_of_readsLike alike]
  | cons first front inductionHypothesis =>
      simp only [List.cons_append, run, inductionHypothesis]

end Parser.State

theorem Filter.ofTokens_of_readsLike {token token' : Token} (alike : token.ReadsLike token')
    (front back : List Token) :
    Filter.ofTokens (front ++ token' :: back) = Filter.ofTokens (front ++ token :: back) := by
  have head : (front ++ token' :: back).head?.all (fun token => token.kind = .endOfInput) =
      (front ++ token :: back).head?.all fun token => token.kind = .endOfInput := by
    cases front <;> simp [alike.kind]
  rw [Filter.ofTokens_eq_outcome, Filter.ofTokens_eq_outcome, Parser.outcome, Parser.outcome, head,
    Parser.State.run_of_readsLike alike]

namespace Scan

theorem Layout.recase {mode : Mode} {offset : Nat} {before word word' after : List Char}
    {front back : List Token} {token : Token} {diagnostics : List Diagnostic}
    (layout : Layout mode offset (before ++ (word ++ after)) (front ++ token :: back) diagnostics)
    (place : token.span =
      ⟨offset + byteLength before, offset + byteLength before + byteLength word⟩)
    (keyword : token.IsKeyword) (same : SameLetters word word') :
    token.text = String.ofList word ∧
      Layout mode offset (before ++ (word' ++ after))
        (front ++ { token with text := String.ofList word' } :: back) diagnostics := by
  obtain ⟨next, lexeme, diagnostics₁, diagnostics₂, rfl, passage, first, rfl, behind⟩ :=
    layout.exists_passage_at place
  obtain ⟨text, closed⟩ := first.text_of_keyword keyword
  refine ⟨congrArg String.ofList text, ?_⟩
  -- Behind the word the scan goes on as before.
  obtain ⟨later, diagnostics', rest, _⟩ := layout_go (lexeme.nextMode next)
    (offset + byteLength before + byteLength word) after
  obtain ⟨sameTokens, rfl⟩ := behind.unique (.token first closed rest)
  obtain ⟨_, rfl⟩ := List.cons.inj sameTokens
  rw [same.byteLength, ← nextMode_recase (text ▸ same)] at rest
  have recased := Layout.token (first.recase keyword same) closed rest
  have respelled :
      ({ lexeme with text := word' } : Lexeme).placed (offset + byteLength before) word' =
        { lexeme.placed (offset + byteLength before) word with text := String.ofList word' } := by
    simp only [placed, same.byteLength]
  rw [respelled] at recased
  have alike : ∀ later, Exchangeable (later ++ (word ++ after)) (later ++ (word' ++ after)) :=
    fun later => exchangeable_of_sameLetters
      ((SameLetters.refl later).append (same.append (.refl after)))
  exact (passage.exchange alike).followed recased

end Scan

namespace Query

/-- A connective, an operator or a truth value may be put in another case. Its token has the text of
the new word; all other tokens, all places and all diagnostics stay as they are, and so does what is
read from the query. -/
theorem tokens_recased (before word word' after : String) (token : Token)
    (member : token ∈ tokens (before ++ word ++ after))
    (place : token.span =
      ⟨byteLength before.toList, byteLength before.toList + byteLength word.toList⟩)
    (keyword : token.IsKeyword) (same : SameLetters word.toList word'.toList) :
    (∃ front back, tokens (before ++ word ++ after) = front ++ token :: back ∧
      tokens (before ++ word' ++ after) = front ++ { token with text := word' } :: back) ∧
    (scan (before ++ word' ++ after)).diagnostics = (scan (before ++ word ++ after)).diagnostics ∧
    parse (before ++ word' ++ after) = parse (before ++ word ++ after) := by
  obtain ⟨front, back, scanned⟩ := List.append_of_mem member
  have ordinary : token ≠ Token.final (byteLength (before ++ word ++ after).toList) := by
    rintro rfl
    rcases keyword with kind | kind | ⟨kind, _⟩ <;> simp [Token.final] at kind
  obtain ⟨later, rfl, layout⟩ := exists_layout_of_ne_final scanned ordinary
  have whole : ∀ middle : String, (before ++ middle ++ after).toList =
      before.toList ++ (middle.toList ++ after.toList) := by simp
  rw [whole] at layout
  rw [← Nat.zero_add (byteLength before.toList)] at place
  obtain ⟨text, recased⟩ := layout.recase place keyword same
  rw [String.ofList_toList] at text recased
  have rescanned := recased.go_eq
  have size : byteLength (before ++ word' ++ after).toList =
      byteLength (before ++ word ++ after).toList := by
    simp only [whole, byteLength_append, same.byteLength]
  rw [← whole, size, Nat.zero_add] at rescanned
  have recasedTokens : tokens (before ++ word' ++ after) = front ++ { token with text := word' } ::
      (later ++ [Token.final (byteLength (before ++ word ++ after).toList)]) := by
    rw [tokens, scan, rescanned, List.append_assoc, List.cons_append]
  refine ⟨⟨front, _, scanned, recasedTokens⟩, ?_, ?_⟩
  · rw [scan, rescanned]
  · rw [parse, parse, scanned, recasedTokens]
    apply Filter.ofTokens_of_readsLike
    apply keyword.readsLike
    rwa [text]

/-- The negation of an operator word, between a connective and a truth value in mixed case. -/
theorem tokens_recased_mixed :
    let token : Token := ⟨.operator, ":NOT IN", none, ⟨5, 12⟩⟩
    token ∈ tokens ("Not a" ++ ":NOT IN" ++ " (tRue)") ∧
      tokens ("Not a" ++ ":nOt iN" ++ " (tRue)") =
        (tokens ("Not a" ++ ":NOT IN" ++ " (tRue)")).set 2 { token with text := ":nOt iN" } ∧
      parse ("Not a" ++ ":nOt iN" ++ " (tRue)") = parse ("Not a" ++ ":NOT IN" ++ " (tRue)") := by
  intro token
  have member : token ∈ tokens ("Not a" ++ ":NOT IN" ++ " (tRue)") := by decide +kernel
  have recased := tokens_recased "Not a" ":NOT IN" ":nOt iN" " (tRue)" token member (by decide)
    (.inr (.inl rfl)) (by decide)
  exact ⟨member, by decide +kernel, recased.2.2⟩

end Query

end FilterBox
