import FilterBox.Proofs.Chip.Placement
import FilterBox.Proofs.Query.Exactness
import FilterBox.Proofs.Token.Spacing

/-!
Cutting a query off between its tokens.

What is left of a query that is read is accepted. Its tokens are those in front of the cut, but for
three words that only what stood behind them kept from being read otherwise: a field that spells a
connective, an operator word right behind a colon, and a literal in front of a dropped character.
The first two look unfinished, and the third is excluded, since nothing is dropped.
-/

namespace FilterBox

open Text Lexeme
open scoped Computability

namespace Unfinished

theorem resembles_of_spells {capitals : String} {text : List Char}
    (upper : isCapital capitals = true) (spelled : spells capitals text = true) :
    resembles capitals text = true := by
  have same : text.map capital = text.map Char.toUpper := by
    apply List.map_congr_left
    intro character member
    apply if_neg
    rintro rfl
    have letter := isAlpha_of_spells upper spelled _ member
    simp at letter
  rw [resembles, same]
  exact spelled

theorem mem_operatorWord_of_isNegatable {text : List Char} (negatable : IsNegatable text) :
    text ∈ operatorWord := by
  have named {letters : List Char} (isWord : Value.isOperatorWord letters = true) :
      letters ∈ word "IN" + word "LIKE" :=
    (isOperatorWord_iff.mp isWord).imp (resembles_of_spells (by decide))
      (resembles_of_spells (by decide))
  rw [operatorWord, add_mul, one_mul]
  cases negatable with
  | plain isWord => exact .inl (named isWord)
  | @negated negation gap letters spelled nonempty blank isWord =>
      obtain ⟨space, spaces, rfl⟩ := List.exists_cons_of_ne_nil nonempty
      rw [List.forall_mem_cons] at blank
      right
      rw [mul_assoc, mul_assoc]
      refine Language.append_mem_mul (resembles_of_spells (by decide) spelled) ?_
      refine cons_mem_oneOf_mul.mpr ⟨blank.1, ?_⟩
      exact Language.append_mem_mul (mem_blanks.mpr blank.2) (named isWord)

end Unfinished

namespace Query

open Unfinished

theorem looksUnfinished_of_isNegatable {text : List Char} (negatable : IsNegatable text)
    (before : List Char) :
    looksUnfinished (String.ofList (before ++ ':' :: text)) = true := by
  have ending : ':' :: text ∈ operatorEnding := by
    refine cons_mem_operatorEnding.mpr (.inl ⟨rfl, ?_⟩)
    exact .inl (.inr (mem_operatorWord_of_isNegatable negatable))
  rw [looksUnfinished_iff, String.toList_ofList]
  left
  rw [← List.append_nil (before ++ _)]
  exact Language.append_mem_mul (Language.append_mem_mul mem_top ending)
    (mem_blanks.mpr (by simp))

theorem looksUnfinished_of_keyword {connective : Connective} {before text : List Char}
    (spelled : spells connective.keyword text = true)
    (opens : ∀ last ∈ before.getLast?, opensWord last = true) :
    looksUnfinished (String.ofList (before ++ text)) = true := by
  have named : text ∈ keyword := by
    have resembled := resembles_of_spells (by cases connective <;> decide) spelled
    rw [mem_keyword, List.any_eq_true]
    exact ⟨connective, by cases connective <;> decide, resembled⟩
  have begins : before ∈ 1 + ⊤ * oneOf opensWord := by
    rcases List.eq_nil_or_concat' before with rfl | ⟨front, last, rfl⟩
    · exact .inl rfl
    · right
      refine Language.append_mem_mul mem_top ⟨last, opens last (by simp), rfl⟩
  rw [looksUnfinished_iff, String.toList_ofList]
  right
  left
  rw [← List.append_nil (before ++ text)]
  exact Language.append_mem_mul (Language.append_mem_mul begins named) (mem_blanks.mpr (by simp))

end Query

namespace Parser.State

theorem Advances.stage_of_field {state next : State} {token : Token}
    (advances : state.Advances token next) (isField : token.kind = .field) :
    state.stage = .operand := by
  cases advances with
  | field | group | negation => rfl
  | conjunction spelled | disjunction spelled =>
      simp [Token.kind_of_connective? spelled] at isField
  | singleOperator kind | listOperator kind | comparison kind | opening kind | item kind
  | comma kind
  | membership kind | closing kind => simp [kind] at isField

theorem Advances.kind_of_operand {state next : State} {token : Token}
    (advances : state.Advances token next) (awaits : next.stage = .operand) :
    token.kind = .leftParen ∨ token.kind = .connective := by
  cases advances with
  | group opens => exact .inl opens
  | negation spelled | conjunction spelled | disjunction spelled =>
      exact .inr (Token.kind_of_connective? spelled)
  | _ => simp [finish] at awaits

end Parser.State

namespace Scan

open FilterBox.Parser Unfinished

/-- Whether no character is left out. -/
def AreKept (diagnostics : List Diagnostic) : Prop :=
  ∀ character place, .dropped character place ∉ diagnostics

theorem Layout.head_of_areKept {mode : Mode} {offset : Nat} {text : List Char} {tokens : List Token}
    {diagnostics : List Diagnostic} (layout : Layout mode offset text tokens diagnostics)
    (kept : AreKept diagnostics) :
    ∀ first ∈ text.head?, isControl first = true → isSpace first = true := by
  have shown {mode : Mode} {word rest : List Char} {lexeme : Lexeme}
      (isFirst : IsFirst mode word rest lexeme) :
      ∀ first ∈ (word ++ rest).head?, isControl first = true → isSpace first = true := by
    obtain ⟨begins, later, rfl, visible⟩ := isFirst.visible
    intro first isHead control
    obtain rfl : begins = first := by simpa using isHead
    have found := isFirst.first?_append
    rw [List.cons_append, (first?_eq_none_iff visible).mpr control] at found
    simp at found
  cases layout with
  | nil => simp
  | blank space => simp [space]
  | dropped => exact absurd List.mem_cons_self (kept _ _)
  | token isFirst => exact shown isFirst
  | unclosed isFirst => simpa using shown isFirst

/-- Where an operand may begin, a connective may stand: behind a blank, behind a parenthesis or at
the start of the query, unless the text goes on with a blank. -/
def MayBegin (state : State) (behind text : List Char) : Prop :=
  state.stage = .operand →
    endsAt isSpace text = true ∨ ∀ last ∈ behind.getLast?, opensWord last = true

theorem mayBegin_blank {state : State} {behind rest : List Char} {character : Char}
    (space : isSpace character = true) : MayBegin state (behind ++ [character]) rest := by
  intro _
  right
  simp [opensWord, space]

theorem mayBegin_step {state next : State} {mode : Mode} {word rest : List Char} {lexeme : Lexeme}
    {offset : Nat} (advances : state.Advances (lexeme.placed offset word) next)
    (first : IsFirst mode word rest lexeme) (behind : List Char) :
    MayBegin next (behind ++ word) rest := by
  intro awaits
  rcases advances.kind_of_operand awaits with opens | isConnective
  · right
    simp [first.eq_of_leftParen opens, opensWord]
  · exact .inl (first.endsAt_of_connective isConnective)

theorem outside_of_between {offset : Nat} {word begun : List Char} {lexeme : Lexeme}
    (between : ¬ ((lexeme.placed offset word).span.start < offset + byteLength begun ∧
      offset + byteLength begun < (lexeme.placed offset word).span.stop)) :
    ¬ (0 < byteLength begun ∧ byteLength begun < byteLength word) := by
  simp only [placed] at between
  omega

theorem begun_cases {word rest begun : List Char} (begins : begun <+: word ++ rest)
    (between : ¬ (0 < byteLength begun ∧ byteLength begun < byteLength word)) :
    begun = [] ∨ ∃ later, begun = word ++ later ∧ later <+: rest := by
  by_cases empty : begun = []
  · exact .inl empty
  right
  rcases List.prefix_or_prefix_of_prefix begins (List.prefix_append word rest) with
    ⟨more, rfl⟩ | ⟨later, rfl⟩
  · by_cases nothing : more = []
    · exact ⟨[], by simp [nothing], List.nil_prefix⟩
    · have positive := byteLength_pos empty
      have longer := byteLength_pos nothing
      rw [byteLength_append] at between
      omega
  · exact ⟨later, rfl, (List.prefix_append_right_inj word).mp begins⟩

section Word

variable {mode : Mode} {offset : Nat} {word rest behind : List Char} {lexeme : Lexeme}

/-- The last word before the cut is the same token at the end of the text, or looks unfinished
there: a field may spell a connective. -/
theorem spaced_of_last {state next : State} (first : IsFirst mode word rest lexeme)
    (kept : ∀ next ∈ rest.head?, isControl next = true → isSpace next = true)
    (advances : state.Advances (lexeme.placed offset word) next)
    (mayBegin : MayBegin state behind (word ++ rest)) :
    Query.looksUnfinished (String.ofList (behind ++ word)) = true ∨
      Spaced mode offset word [lexeme.placed offset word] := by
  rcases first.alone_of_kept kept with alone | ⟨isField, connective, spelled⟩
  · exact .inr (.last .nil alone)
  · left
    apply Query.looksUnfinished_of_keyword spelled
    rcases mayBegin (advances.stage_of_field isField) with space | opens
    · obtain ⟨character, others, rfl, visible⟩ := first.visible
      simp [visible] at space
    · exact opens

/-- An earlier word is the same token in front of what is left of the text, or looks unfinished with
it: a mere colon may draw an operator word. -/
theorem spaced_of_earlier {later : List Char} {front : List Token}
    (first : IsFirst mode word rest lexeme) (begins : later <+: rest) (nonempty : later ≠ [])
    (spaced : Spaced (lexeme.nextMode mode) (offset + byteLength word) later front)
    (behind : List Char) :
    Query.looksUnfinished (String.ofList (behind ++ (word ++ later))) = true ∨
      Spaced mode offset (word ++ later) (lexeme.placed offset word :: front) := by
  rcases first.cut_of_prefix begins nonempty with first | ⟨isOperator, colon, negatable⟩
  · exact .inr (.token .nil first spaced)
  · left
    rw [← (first.operator_cases isOperator).1, colon]
    exact Query.looksUnfinished_of_isNegatable negatable behind

end Word

/-- The text in front of a cut between its tokens looks unfinished, or gives the tokens in front of
the cut. -/
theorem Layout.exists_front {mode : Mode} {offset : Nat} {text : List Char} {tokens : List Token}
    {diagnostics : List Diagnostic} (layout : Layout mode offset text tokens diagnostics)
    (kept : AreKept diagnostics) {state final : State} (reached : state.steps? tokens = some final)
    {behind begun : List Char} (mayBegin : MayBegin state behind text) (begins : begun <+: text)
    (between : ∀ token ∈ tokens, ¬ (token.span.start < offset + byteLength begun ∧
      offset + byteLength begun < token.span.stop)) :
    Query.looksUnfinished (String.ofList (behind ++ begun)) = true ∨
      ∃ front, front <+: tokens ∧ Spaced mode offset begun front := by
  -- The machine runs along, since only where an operand may begin a field has to be told from a
  -- connective.
  induction layout generalizing state behind begun with
  | nil =>
      obtain rfl := List.prefix_nil.mp begins
      exact .inr ⟨[], List.nil_prefix, .gap .nil⟩
  | @blank mode offset character rest tokens diagnostics space layout inductionHypothesis =>
      cases begun with
      | nil => exact .inr ⟨[], List.nil_prefix, .gap .nil⟩
      | cons first begun =>
          obtain ⟨rfl, beginsRest⟩ := List.cons_prefix_cons.mp begins
          rw [byteLength_cons, ← Nat.add_assoc] at between
          rcases inductionHypothesis kept reached (mayBegin_blank space) beginsRest between with
            unfinished | ⟨front, isFront, spaced⟩
          · left
            rwa [List.append_assoc] at unfinished
          · exact .inr ⟨front, isFront, .cons (.inl space) spaced⟩
  | dropped => exact absurd List.mem_cons_self (kept _ _)
  | @token mode offset word rest lexeme tokens diagnostics first closed layout
      inductionHypothesis =>
      rw [State.steps?_cons, Option.bind_eq_some_iff] at reached
      obtain ⟨next, stepped, reached⟩ := reached
      have advances := State.advances_of_step? stepped
      rw [List.forall_mem_cons] at between
      rcases begun_cases begins (outside_of_between between.1) with
        rfl | ⟨later, rfl, beginsRest⟩
      · exact .inr ⟨[], List.nil_prefix, .gap .nil⟩
      by_cases ended : later = []
      · subst ended
        rw [List.append_nil]
        apply (spaced_of_last first (layout.head_of_areKept kept) advances mayBegin).imp_right
        intro spaced
        exact ⟨_, List.cons_prefix_cons.mpr ⟨rfl, List.nil_prefix⟩, spaced⟩
      · have further := between.2
        rw [byteLength_append, ← Nat.add_assoc] at further
        rcases inductionHypothesis kept reached (mayBegin_step advances first behind) beginsRest
          further with unfinished | ⟨front, isFront, spaced⟩
        · left
          rwa [List.append_assoc] at unfinished
        · apply (spaced_of_earlier first beginsRest ended spaced behind).imp_right
          intro whole
          exact ⟨_, List.cons_prefix_cons.mpr ⟨rfl, isFront⟩, whole⟩
  | @unclosed mode offset word lexeme first isOpen =>
      have begins : begun <+: word ++ [] := by rwa [List.append_nil]
      rcases begun_cases begins (outside_of_between (between _ List.mem_cons_self)) with
        rfl | ⟨later, rfl, beginsNothing⟩
      · exact .inr ⟨[], List.nil_prefix, .gap .nil⟩
      · obtain rfl := List.prefix_nil.mp beginsNothing
        rw [List.append_nil]
        exact .inr ⟨_, List.prefix_rfl, .last .nil first⟩

end Scan

namespace Query

open FilterBox.Parser

theorem exists_steps?_of_parse {query : String} {tokens : List Token} {place : Nat}
    {filter? : Option Filter} (scanned : Query.tokens query = tokens ++ [Token.final place])
    (unmarked : ∀ token ∈ tokens, token.kind ≠ .endOfInput) (read : parse query = .ok filter?) :
    ∃ final, State.start.steps? tokens = some final := by
  by_contra hopeless
  have stuck : ¬ Grammar.IsViable tokens := fun viable =>
    hopeless (exists_steps?_of_isViable unmarked viable)
  obtain ⟨error, failed, _⟩ := exists_error_of_not_isViable scanned unmarked stuck
  simp [failed] at read

/-- What stands in front of a cut between the tokens of a query is accepted, if the query is read
and nothing of it is dropped. -/
theorem verdict_begun {query : String} {filter? : Option Filter} (read : parse query = .ok filter?)
    (kept : ∀ character place, Diagnostic.dropped character place ∉ (scan query).diagnostics)
    {cut : Nat} {begun rest : List Char} (parts : splitAt? query.toList cut = some (begun, rest))
    (between : ∀ token ∈ tokens query, ¬ (token.span.start < cut ∧ cut < token.span.stop)) :
    verdict (String.ofList begun) = .accepted := by
  obtain ⟨tokens, diagnostics, layout, scanned⟩ := Scan.layout_go .field 0 query.toList
  have marked : Query.tokens query = tokens ++ [Token.final (0 + byteLength query.toList)] := by
    rw [Query.tokens, scan, scanned]
  rw [scan, scanned] at kept
  rw [marked] at between
  obtain ⟨whole, rfl⟩ := splitAt?_eq_some_iff.mp parts
  obtain ⟨final, reached⟩ := exists_steps?_of_parse marked layout.ordinary read
  have begins : begun <+: query.toList := ⟨rest, whole.symm⟩
  have outside : ∀ token ∈ tokens, ¬ (token.span.start < 0 + byteLength begun ∧
      0 + byteLength begun < token.span.stop) := by
    intro token member
    rw [Nat.zero_add]
    exact between token (List.mem_append_left _ member)
  have mayBegin : Scan.MayBegin State.start [] query.toList := fun _ => .inr (by simp)
  rcases layout.exists_front kept reached mayBegin begins outside with
    unfinished | ⟨front, ⟨later, rfl⟩, spaced⟩
  · exact verdict_of_looksUnfinished unfinished
  · have marked : Query.tokens (String.ofList begun) =
        front ++ [Token.final (0 + byteLength begun)] := by
      rw [Query.tokens, scan, String.toList_ofList, spaced.tokens_go]
    rw [State.steps?_append, Option.bind_eq_some_iff] at reached
    obtain ⟨middle, reached, _⟩ := reached
    apply verdict_of_steps? marked _ reached
    intro token member
    exact layout.ordinary token (List.mem_append_left _ member)

/-- In `a:1 AND (or:in)` the field is no connective and `in` is a value; without the parenthesis
both would be read otherwise. -/
theorem verdict_begun_reserved_words :
    verdict "a:1 AND (or" = .accepted ∧ verdict "a:1 AND (or:in" = .accepted := by
  obtain ⟨filter, read⟩ :=
    hasFilter_iff.mp (by decide +kernel : hasFilter "a:1 AND (or:in)" = true)
  have nothing : (scan "a:1 AND (or:in)").diagnostics = [] := by decide +kernel
  have kept : ∀ character place,
      Diagnostic.dropped character place ∉ (scan "a:1 AND (or:in)").diagnostics := by
    simp [nothing]
  constructor
  · exact @verdict_begun "a:1 AND (or:in)" _ read kept 11 "a:1 AND (or".toList ":in)".toList rfl
      (by decide +kernel)
  · exact @verdict_begun "a:1 AND (or:in)" _ read kept 14 "a:1 AND (or:in".toList ")".toList rfl
      (by decide +kernel)

end Query

end FilterBox
