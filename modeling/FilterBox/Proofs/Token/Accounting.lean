import FilterBox.Proofs.Token.Layout

/-!
A scan accounts for its text.

Every character is in a token, or dropped, or a blank between tokens. Tokens cover stretches of the
text in order, what is dropped is reported in order, and only a quoted text has another text than
its stretch.
-/

namespace FilterBox

open Text Lexeme

def Span.Covers (span : Span) (place : Nat) : Prop :=
  span.start ≤ place ∧ place < span.stop

instance (span : Span) (place : Nat) : Decidable (span.Covers place) :=
  inferInstanceAs (Decidable (span.start ≤ place ∧ place < span.stop))

/-- Whether the token is a value that begins with a quote, in a text that begins at an offset. -/
def Token.IsQuoted (offset : Nat) (text : List Char) (token : Token) : Prop :=
  token.kind = .value ∧
    (StandsAt offset text token.span.start '"' ∨ StandsAt offset text token.span.start '\'')

def Diagnostic.position : Diagnostic → Nat
  | dropped _ position => position
  | unterminated position => position

namespace Scan

namespace Layout

variable {mode : Mode} {offset : Nat} {text : List Char} {tokens : List Token}
  {diagnostics : List Diagnostic}

theorem of_dropped (layout : Layout mode offset text tokens diagnostics) {place : Nat}
    {character : Char} (reported : .dropped character place ∈ diagnostics) :
    StandsAt offset text place character ∧ isControl character = true ∧
      isSpace character = false ∧ ∀ token ∈ tokens, ¬ token.span.Covers place := by
  induction layout with
  | nil => simp at reported
  | blank _ _ inductionHypothesis =>
      obtain ⟨stands, report⟩ := inductionHypothesis reported
      exact ⟨standsAt_cons_iff.mpr (.inr stands), report⟩
  | @dropped mode offset first rest tokens diagnostics visible control layout inductionHypothesis =>
      rcases List.mem_cons.mp reported with same | reported
      · cases same
        refine ⟨standsAt_cons_iff.mpr (.inl ⟨rfl, rfl⟩), control, visible, fun token member => ?_⟩
        rintro ⟨begins, _⟩
        have positive := character.utf8Size_pos
        have bounds := layout.bounds token member
        omega
      · obtain ⟨stands, report⟩ := inductionHypothesis reported
        exact ⟨standsAt_cons_iff.mpr (.inr stands), report⟩
  | @token mode offset word rest lexeme tokens diagnostics _ _ _ inductionHypothesis =>
      obtain ⟨stands, control, visible, outside⟩ := inductionHypothesis reported
      refine ⟨standsAt_append_iff.mpr (.inr stands), control, visible, ?_⟩
      rw [List.forall_mem_cons]
      refine ⟨?_, outside⟩
      rintro ⟨_, ends⟩
      exact absurd stands.bounds.1 (Nat.not_le.mpr ends)
  | unclosed => simp at reported

theorem cases_standsAt (layout : Layout mode offset text tokens diagnostics) {place : Nat}
    {character : Char} (stands : StandsAt offset text place character) :
    (∃ token ∈ tokens, token.span.Covers place) ∨ .dropped character place ∈ diagnostics ∨
      isSpace character = true := by
  induction layout with
  | nil => simp at stands
  | blank space _ inductionHypothesis =>
      rcases standsAt_cons_iff.mp stands with ⟨rfl, _⟩ | stands
      · exact .inr (.inr space)
      · exact inductionHypothesis stands
  | dropped _ _ _ inductionHypothesis =>
      rcases standsAt_cons_iff.mp stands with ⟨rfl, rfl⟩ | stands
      · exact .inr (.inl List.mem_cons_self)
      · rcases inductionHypothesis stands with covered | reported | space
        · exact .inl covered
        · exact .inr (.inl (List.mem_cons_of_mem _ reported))
        · exact .inr (.inr space)
  | token _ _ _ inductionHypothesis =>
      rcases standsAt_append_iff.mp stands with stands | stands
      · exact .inl ⟨_, List.mem_cons_self, stands.bounds⟩
      · rcases inductionHypothesis stands with ⟨token, member, covers⟩ | others
        · exact .inl ⟨token, List.mem_cons_of_mem _ member, covers⟩
        · exact .inr others
  | unclosed => exact .inl ⟨_, List.mem_cons_self, stands.bounds⟩

/-- A token covers a stretch of the text. Without quotes the stretch is its text, and no control
character in it could have been dropped. -/
theorem exists_source (layout : Layout mode offset text tokens diagnostics) {token : Token}
    (member : token ∈ tokens) :
    ∃ before source after, text = before ++ (source ++ after) ∧ source ≠ [] ∧
      token.span = ⟨offset + byteLength before, offset + byteLength before + byteLength source⟩ ∧
      (¬ token.IsQuoted offset text → token.text = String.ofList source ∧
        ∀ character ∈ source, isControl character = true → isSpace character = true) := by
  obtain ⟨before, word, after, mode', lexeme, rfl, first, rfl⟩ := layout.exists_word token member
  refine ⟨before, word, after, rfl, first.ne_nil, rfl, fun plain => ?_⟩
  have noQuotation : isQuotation word = false := by
    rw [Bool.eq_false_iff]
    intro quoted
    refine plain ⟨first.kind_of_isQuotation quoted, ?_⟩
    obtain ⟨character, later, rfl, _⟩ := first.visible
    have stands : StandsAt offset (before ++ (character :: later ++ after))
        (offset + byteLength before) character := ⟨before, later ++ after, rfl, rfl⟩
    simp only [isQuotation, List.head?_cons, Bool.or_eq_true, decide_eq_true_eq,
      Option.some.injEq] at quoted
    rcases quoted with rfl | rfl
    · exact .inl stands
    · exact .inr stands
  obtain ⟨same, shown⟩ := first.unquoted noQuotation
  exact ⟨by rw [placed, same], shown⟩

theorem dropped_iff (layout : Layout mode offset text tokens diagnostics) {place : Nat}
    {character : Char} :
    .dropped character place ∈ diagnostics ↔
      StandsAt offset text place character ∧ isControl character = true ∧
        isSpace character = false ∧
          ∀ token ∈ tokens, token.IsQuoted offset text → ¬ token.span.Covers place := by
  constructor
  · intro reported
    obtain ⟨stands, control, visible, outside⟩ := layout.of_dropped reported
    exact ⟨stands, control, visible, fun token member _ => outside token member⟩
  · rintro ⟨stands, control, visible, unquoted⟩
    rcases layout.cases_standsAt stands with ⟨token, member, covers⟩ | reported | space
    · have plain : ¬ token.IsQuoted offset text := fun quoted =>
        unquoted token member quoted covers
      obtain ⟨before, source, after, rfl, _, span, written⟩ := layout.exists_source member
      obtain ⟨_, shown⟩ := written plain
      rw [span] at covers
      obtain ⟨begins, ends⟩ := covers
      dsimp only at begins ends
      -- The place is in the stretch of the token, and not in front of it or behind it.
      rcases standsAt_append_iff.mp stands with stands | stands
      · exact absurd stands.bounds.2 (Nat.not_lt.mpr begins)
      · rcases standsAt_append_iff.mp stands with stands | stands
        · have space := shown character stands.mem control
          simp [visible] at space
        · exact absurd stands.bounds.1 (Nat.not_le.mpr ends)
    · exact reported
    · simp [visible] at space

theorem le_position (layout : Layout mode offset text tokens diagnostics) :
    ∀ diagnostic ∈ diagnostics, offset ≤ diagnostic.position := by
  induction layout with
  | nil => simp
  | blank _ _ inductionHypothesis =>
      exact fun diagnostic member => Nat.le_of_add_right_le (inductionHypothesis diagnostic member)
  | dropped _ _ _ inductionHypothesis =>
      rw [List.forall_mem_cons]
      exact ⟨Nat.le_refl _, fun diagnostic member =>
        Nat.le_of_add_right_le (inductionHypothesis diagnostic member)⟩
  | token _ _ _ inductionHypothesis =>
      exact fun diagnostic member => Nat.le_of_add_right_le (inductionHypothesis diagnostic member)
  | unclosed => simp [Diagnostic.position]

theorem increasing (layout : Layout mode offset text tokens diagnostics) :
    diagnostics.Pairwise fun diagnostic diagnostic' =>
      diagnostic.position < diagnostic'.position := by
  induction layout with
  | nil => exact .nil
  | blank _ _ inductionHypothesis => exact inductionHypothesis
  | @dropped _ offset character _ _ _ _ _ layout inductionHypothesis =>
      refine List.pairwise_cons.mpr ⟨fun diagnostic member => ?_, inductionHypothesis⟩
      have positive := character.utf8Size_pos
      have behind := layout.le_position diagnostic member
      change offset < diagnostic.position
      omega
  | token _ _ _ inductionHypothesis => exact inductionHypothesis
  | unclosed => exact List.pairwise_singleton ..

/-- A quotation that is left open is reported last, and its token reaches to the end of the text. -/
theorem of_unterminated (layout : Layout mode offset text tokens diagnostics) {place : Nat}
    (reported : .unterminated place ∈ diagnostics) :
    diagnostics.getLast? = some (.unterminated place) ∧
      ∃ last, tokens.getLast? = some last ∧ last.span = ⟨place, offset + byteLength text⟩ := by
  induction layout with
  | nil => simp at reported
  | blank _ _ inductionHypothesis =>
      rw [byteLength_cons, ← Nat.add_assoc]
      exact inductionHypothesis reported
  | dropped _ _ _ inductionHypothesis =>
      obtain ⟨final, token⟩ := inductionHypothesis (by simpa using reported)
      rw [byteLength_cons, ← Nat.add_assoc, List.getLast?_cons, final]
      exact ⟨rfl, token⟩
  | token _ _ _ inductionHypothesis =>
      obtain ⟨final, last, isLast, ends⟩ := inductionHypothesis reported
      rw [byteLength_append, ← Nat.add_assoc]
      exact ⟨final, last, by rw [List.getLast?_cons, isLast]; rfl, ends⟩
  | unclosed =>
      obtain rfl : place = _ := by simpa using reported
      exact ⟨rfl, _, rfl, rfl⟩

end Layout

/-- What a scan owes to its text. -/
structure Accounts (text : List Char) (scan : Scan) (tokens : List Token) : Prop where
  /-- There is one final mark, at the end. -/
  marked : scan.tokens = tokens ++ [Token.final (byteLength text)]
  ordinary : ∀ token ∈ tokens, token.kind ≠ .endOfInput
  /-- Spans begin and end between characters and are not empty. A text that is not quoted is the
  stretch itself. -/
  stretches : ∀ token ∈ tokens, ∃ source, source ≠ [] ∧
    slice? text token.span.start token.span.stop = some source ∧
      (¬ token.IsQuoted 0 text → token.text = String.ofList source)
  ordered : tokens.Pairwise fun token token' =>
    token.span.start < token'.span.start ∧ token.span.stop ≤ token'.span.start
  /-- Each character has just one of three fates. -/
  fates : ∀ place character, StandsAt 0 text place character →
    ((∃ token ∈ tokens, token.span.Covers place) ∧ .dropped character place ∉ scan.diagnostics) ∨
    ((∀ token ∈ tokens, ¬ token.span.Covers place) ∧ .dropped character place ∈ scan.diagnostics ∧
      isSpace character = false) ∨
    ((∀ token ∈ tokens, ¬ token.span.Covers place) ∧ .dropped character place ∉ scan.diagnostics ∧
      isSpace character = true)
  /-- Just the control characters outside quotes are dropped. -/
  dropped : ∀ place character, .dropped character place ∈ scan.diagnostics ↔
    StandsAt 0 text place character ∧ isControl character = true ∧ isSpace character = false ∧
      ∀ token ∈ tokens, token.IsQuoted 0 text → ¬ token.span.Covers place
  increasing : scan.diagnostics.Pairwise fun diagnostic diagnostic' =>
    diagnostic.position < diagnostic'.position
  /-- A quotation that is left open is the last token, reaches to the end and is reported last. -/
  unterminated : ∀ place, .unterminated place ∈ scan.diagnostics →
    scan.diagnostics.getLast? = some (.unterminated place) ∧
      ∃ last, tokens.getLast? = some last ∧ last.span = ⟨place, byteLength text⟩

theorem Layout.fates {mode : Mode} {offset : Nat} {text : List Char} {tokens : List Token}
    {diagnostics : List Diagnostic} (layout : Layout mode offset text tokens diagnostics)
    {place : Nat} {character : Char} (stands : StandsAt offset text place character) :
    ((∃ token ∈ tokens, token.span.Covers place) ∧ .dropped character place ∉ diagnostics) ∨
    ((∀ token ∈ tokens, ¬ token.span.Covers place) ∧ .dropped character place ∈ diagnostics ∧
      isSpace character = false) ∨
    ((∀ token ∈ tokens, ¬ token.span.Covers place) ∧ .dropped character place ∉ diagnostics ∧
      isSpace character = true) := by
  by_cases reported : .dropped character place ∈ diagnostics
  · obtain ⟨_, _, visible, outside⟩ := layout.of_dropped reported
    exact .inr (.inl ⟨outside, reported, visible⟩)
  · by_cases covered : ∃ token ∈ tokens, token.span.Covers place
    · exact .inl ⟨covered, reported⟩
    · have space := ((layout.cases_standsAt stands).resolve_left covered).resolve_left reported
      exact .inr (.inr ⟨fun token member covers => covered ⟨token, member, covers⟩, reported,
        space⟩)

theorem Layout.slice?_eq {mode : Mode} {text : List Char} {tokens : List Token}
    {diagnostics : List Diagnostic} (layout : Layout mode 0 text tokens diagnostics) {token : Token}
    (member : token ∈ tokens) :
    ∃ source, source ≠ [] ∧ slice? text token.span.start token.span.stop = some source ∧
      (¬ token.IsQuoted 0 text → token.text = String.ofList source) := by
  obtain ⟨before, source, after, whole, nonempty, span, written⟩ := layout.exists_source member
  refine ⟨source, nonempty, ?_, fun plain => (written plain).1⟩
  rw [span, slice?_eq_some_iff]
  exact ⟨before, after, whole, (Nat.zero_add _).symm, rfl⟩

end Scan

namespace Query

/-- Nothing is lost in a scan, and nothing is made up. -/
theorem accounts_scan (query : String) :
    ∃ tokens, (scan query).Accounts query.toList tokens := by
  obtain ⟨tokens, diagnostics, layout, scanned⟩ := Scan.layout_go .field 0 query.toList
  rw [Nat.zero_add] at scanned
  refine ⟨tokens, ?_⟩
  rw [scan, scanned]
  exact
    { marked := rfl
      ordinary := layout.ordinary
      stretches := fun token member => layout.slice?_eq member
      ordered := layout.ordered.imp_of_mem fun first _ inOrder =>
        ⟨Nat.lt_of_lt_of_le (layout.bounds _ first).2.1 inOrder, inOrder⟩
      fates := fun place character => layout.fates
      dropped := fun place character => layout.dropped_iff
      increasing := layout.increasing
      unterminated := fun place reported => by simpa using layout.of_unterminated reported }

end Query

end FilterBox
