import FilterBox.Token.Scan

/-!
Scanning stretch by stretch.

`Scan.Reads` says which tokens a stretch of text gives in front of a certain rest. Stretches are put
together by `Scan.Reads.append`.
-/

namespace FilterBox.Scan

open Text Lexeme

theorem go_nil (mode : Mode) (offset : Nat) : go mode offset [] = ⟨[Token.final offset], []⟩ := by
  rw [go.eq_def]

theorem go_blank {character : Char} (space : isSpace character = true) (mode : Mode) (offset : Nat)
    (rest : List Char) :
    go mode offset (character :: rest) = go mode (offset + character.utf8Size) rest := by
  rw [go.eq_def]
  exact if_pos space

theorem tokens_go_lexeme {mode : Mode} {character : Char} {rest : List Char} {lexeme : Lexeme}
    (visible : isSpace character = false)
    (found : first? mode (character :: rest) = some lexeme) (offset : Nat) :
    ∃ stop, (go mode offset (character :: rest)).tokens =
      ⟨lexeme.kind, String.ofList lexeme.text, lexeme.valueKind, ⟨offset, stop⟩⟩ ::
        (go (lexeme.nextMode mode) stop (rest.drop (lexeme.size - 1))).tokens ∧
      stop = offset + byteLength ((character :: rest).take lexeme.size) := by
  rw [go.eq_def]
  simp only [visible, Bool.false_eq_true, if_false, found]
  exact ⟨_, rfl, rfl⟩

/-- In front of a rest a text gives these tokens, and the rest is read in the next mode. -/
def Reads (mode : Mode) (offset : Nat) (text : List Char) (tokens : List Token) (next : Mode)
    (rest : List Char) : Prop :=
  (go mode offset (text ++ rest)).tokens =
    tokens ++ (go next (offset + byteLength text) rest).tokens

namespace Reads

variable {mode middle next : Mode} {offset : Nat} {text text' rest : List Char}
  {tokens tokens' : List Token}

theorem append (first : Reads mode offset text tokens middle (text' ++ rest))
    (second : Reads middle (offset + byteLength text) text' tokens' next rest) :
    Reads mode offset (text ++ text') (tokens ++ tokens') next rest := by
  unfold Reads at first second ⊢
  rw [List.append_assoc, first, second, byteLength_append, List.append_assoc, Nat.add_assoc]

theorem space (mode : Mode) (offset : Nat) (rest : List Char) :
    Reads mode offset [' '] [] mode rest := by
  unfold Reads
  rw [List.singleton_append, go_blank rfl, List.nil_append]
  rfl

theorem lexeme {kind : Token.Kind} {valueKind : Option Value.Kind} {content : List Char}
    {closed : Bool} (visible : endsAt isSpace text = false)
    (found : first? mode (text ++ rest) = some ⟨kind, valueKind, text.length, content, closed⟩)
    (offset : Nat) :
    ∃ token : Token,
      Reads mode offset text [token]
        (nextMode mode ⟨kind, valueKind, text.length, content, closed⟩) rest ∧
      token.kind = kind ∧ token.text = String.ofList content ∧ token.valueKind = valueKind ∧
      token.span = ⟨offset, offset + byteLength text⟩ := by
  cases text with
  | nil => simp at visible
  | cons first later =>
      rw [List.cons_append] at found
      obtain ⟨stop, tokens, place⟩ := tokens_go_lexeme visible found offset
      rw [← List.cons_append, List.take_left] at place
      refine ⟨⟨kind, String.ofList content, valueKind, ⟨offset, stop⟩⟩, ?_, rfl, rfl, rfl,
        by rw [place]⟩
      simp only [List.length_cons, Nat.add_sub_cancel, List.drop_left] at tokens
      rw [Reads, List.cons_append, tokens, place]
      rfl

theorem tokens_eq {query : String} (read : Reads .field 0 query.toList tokens next []) :
    Query.tokens query = tokens ++ [Token.final (0 + byteLength query.toList)] := by
  have scanned := read
  unfold Reads at scanned
  rw [List.append_nil, go_nil] at scanned
  exact scanned

end Reads

end FilterBox.Scan
