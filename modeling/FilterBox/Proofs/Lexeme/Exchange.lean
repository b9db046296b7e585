import FilterBox.Proofs.Lexeme.First

/-!
Rests that no token can tell apart.

A token looks at the character behind it, and a colon looks for an operator word or a sign as well.
`Exchangeable rest rest'` says that neither of them finds a difference, so what is read in front of
the one rest is read in front of the other (`IsFirst.exchange`). A rest may have other blanks in it,
and go on with more blanks behind its end.
-/

namespace FilterBox.Lexeme

open Text

/-- The classes of characters that a token looks for behind itself. -/
def lookaheads : List (Char → Bool) :=
  [isSpace, maySucceedOperator, endsValue, endsWord, fun character => !isFieldCharacter character,
    fun character => character != '=']

/-- What is read in front of the rest is read in front of the other one as well. -/
structure Exchangeable (rest rest' : List Char) : Prop where
  lookahead : ∀ boundary ∈ lookaheads, endsAt boundary rest' = endsAt boundary rest
  noWord : negatableWordSize? rest = none → negatableWordSize? rest' = none
  noSign : comparisonSize? rest = none → comparisonSize? rest' = none

section Exchange

variable {mode : Mode} {word rest rest' : List Char} {lexeme : Lexeme}

theorem endsAt_ne_iff {character : Char} :
    endsAt (fun other => other != character) rest = true ↔ rest.head? ≠ some character := by
  cases rest <;> simp

theorem FollowsColon.exchange (follows : FollowsColon word rest)
    (same : Exchangeable rest rest') : FollowsColon word rest' := by
  cases follows with
  | word negatable ends =>
      apply FollowsColon.word negatable
      rw [same.lookahead maySucceedOperator (by simp [lookaheads]), ends]
  | sign isSign =>
      apply FollowsColon.sign
      cases isSign with
      | long known => exact .long known
      | short known alone =>
          apply IsSign.short known
          rw [← endsAt_ne_iff] at alone ⊢
          rw [same.lookahead _ (by simp [lookaheads]), alone]
  | nothing noWord noSign => exact .nothing (same.noWord noWord) (same.noSign noSign)

theorem IsFirstValue.exchange (first : IsFirstValue word rest lexeme)
    (closed : lexeme.closed = true) (same : Exchangeable rest rest') :
    IsFirstValue word rest' lexeme := by
  have value := same.lookahead endsValue (by simp [lookaheads])
  cases first with
  | closed isQuote read => exact .closed isQuote read
  | unclosed => simp at closed
  | numeral isNumeral ends => exact .numeral isNumeral (value.trans ends)
  | boolean spelled ends => exact .boolean spelled (value.trans ends)
  | bare nonempty unquoted inside ends plain =>
      apply IsFirstValue.bare nonempty unquoted inside
      · rw [same.lookahead endsWord (by simp [lookaheads]), ends]
      · intro literal
        rw [value, plain literal]

/-- What is read in front of a rest is read in front of any other one that it cannot tell apart, if
it is no quotation that runs to the end. -/
theorem IsFirst.exchange (first : IsFirst mode word rest lexeme) (closed : lexeme.closed = true)
    (same : Exchangeable rest rest') : IsFirst mode word rest' lexeme := by
  have space := same.lookahead isSpace (by simp [lookaheads])
  cases first with
  | opening => exact .opening
  | closing => exact .closing
  | comma => exact .comma
  | connective isField spelled ends => exact .connective isField spelled (space.trans ends)
  | equals => exact .equals
  | colon follows => exact .colon (follows.exchange same)
  | field isField named ends other =>
      apply IsFirst.field isField named
      · rw [same.lookahead _ (by simp [lookaheads]), ends]
      · intro connective spelled
        rw [space, other connective spelled]
  | value unequal unnamed first => exact .value unequal unnamed (first.exchange closed same)

end Exchange

section Lookahead

variable {boundary : Char → Bool}

theorem lookahead_of_isSpace (known : boundary ∈ lookaheads) {character : Char}
    (space : isSpace character = true) : boundary character = true := by
  have ends : endsValue character = true := by simp [endsValue, space]
  simp only [lookaheads, List.mem_cons, List.not_mem_nil, or_false] at known
  rcases known with rfl | rfl | rfl | rfl | rfl | rfl
  · exact space
  · simp [maySucceedOperator, space]
  · exact ends
  · exact endsWord_of_endsValue ends
  · cases named : isFieldCharacter character with
    | false => simp [named]
    | true => simp [endsValue_of_isFieldCharacter named] at ends
  · simp only [bne_iff_ne, ne_eq]
    rintro rfl
    simp [isSpace] at space

theorem lookahead_of_isAlpha (known : boundary ∈ lookaheads) (character other : Char)
    (letter : character.isAlpha = true) (letter' : other.isAlpha = true) :
    boundary character = boundary other := by
  have operator : ∀ {letter : Char}, letter.isAlpha = true → maySucceedOperator letter = false := by
    intro letter isLetter
    simp only [maySucceedOperator, isSpace_of_isAlpha isLetter, Bool.false_or, Bool.or_eq_false_iff,
      decide_eq_false_iff_not]
    refine ⟨⟨?_, ?_⟩, ?_⟩ <;> rintro rfl <;> simp at isLetter
  have equals : ∀ {letter : Char}, letter.isAlpha = true → (letter != '=') = true := by
    intro letter isLetter
    rw [bne_iff_ne]
    rintro rfl
    simp at isLetter
  simp only [lookaheads, List.mem_cons, List.not_mem_nil, or_false] at known
  rcases known with rfl | rfl | rfl | rfl | rfl | rfl
  · rw [isSpace_of_isAlpha letter, isSpace_of_isAlpha letter']
  · rw [operator letter, operator letter']
  · rw [endsValue_of_isAlpha letter, endsValue_of_isAlpha letter']
  · rw [endsWord_of_isAlpha letter, endsWord_of_isAlpha letter']
  · simp only [isFieldCharacter_of_isAlpha letter, isFieldCharacter_of_isAlpha letter']
  · simp only [equals letter, equals letter']

end Lookahead

section Words

variable {text : List Char}

theorem negatableWordSize?_eq_none_iff :
    negatableWordSize? text = none ↔ ∀ word rest, text = word ++ rest → IsNegatable word →
      endsAt maySucceedOperator rest = false := by
  constructor
  · rintro nothing word rest rfl negatable
    rw [Bool.eq_false_iff]
    intro ends
    rw [negatableWordSize?_append negatable ends] at nothing
    simp at nothing
  · intro none
    rw [Option.eq_none_iff_forall_ne_some]
    intro size found
    obtain ⟨word, rest, parts, _, negatable, ends⟩ := isNegatable_of_negatableWordSize? found
    simp [none word rest parts negatable] at ends

def comparisonSigns : List String :=
  [">=", "<=", "!=", ">", "<"]

theorem comparisonSize?_eq_none_iff :
    comparisonSize? text = none ↔ ∀ sign ∈ comparisonSigns, ¬ sign.toList <+: text := by
  simp only [comparisonSize?, comparisonSigns, Option.map_eq_none_iff, List.find?_eq_none,
    List.isPrefixOf_iff_prefix]

end Words

section Append

variable {text : List Char}

/-- A rest may go on behind its end, if it is not the beginning of an operator word or of a sign. -/
theorem exchangeable_append (apart : ∀ later, ¬ IsNegatable (text ++ later))
    (long : 2 ≤ text.length) (more : List Char) : Exchangeable text (text ++ more) where
  lookahead boundary _ := by
    apply endsAt_congr
    apply Eq.symm
    apply head?_of_prefix (List.prefix_append text more)
    rintro rfl
    simp at long
  noWord nothing := by
    rw [negatableWordSize?_eq_none_iff] at nothing ⊢
    intro word rest parts negatable
    rcases List.append_eq_append_iff.mp parts with ⟨later, rfl, _⟩ | ⟨later, rfl, rfl⟩
    · exact absurd negatable (apart later)
    · have stands := nothing word later rfl negatable
      cases later with
      | nil => simp at stands
      | cons character later => exact stands
  noSign nothing := by
    have short : ∀ sign ∈ comparisonSigns, sign.toList.length ≤ 2 := by decide
    rw [comparisonSize?_eq_none_iff] at nothing ⊢
    intro sign known begins
    apply nothing sign known
    exact List.prefix_of_prefix_length_le begins (List.prefix_append text more)
      (Nat.le_trans (short sign known) long)

end Append

section Gaps

variable {before gap gap' after : List Char}

theorem lookahead_gap (blank : ∀ character ∈ gap, isSpace character = true)
    (apart : gap = [] → after = []) {boundary : Char → Bool} (known : boundary ∈ lookaheads) :
    endsAt boundary (gap ++ after) = true := by
  cases gap with
  | nil => simp [apart rfl]
  | cons character gap => exact lookahead_of_isSpace known (blank character List.mem_cons_self)

theorem endsAt_gap (blank : ∀ character ∈ gap, isSpace character = true)
    (blank' : ∀ character ∈ gap', isSpace character = true)
    (apart : gap = [] ∨ gap' = [] → after = []) {boundary : Char → Bool}
    (known : boundary ∈ lookaheads) (before : List Char) :
    endsAt boundary (before ++ (gap' ++ after)) = endsAt boundary (before ++ (gap ++ after)) := by
  cases before with
  | nil =>
      rw [List.nil_append, List.nil_append,
        lookahead_gap blank (fun nothing => apart (.inl nothing)) known,
        lookahead_gap blank' (fun nothing => apart (.inr nothing)) known]
  | cons => rfl

/-- An operator word that is found is found with other blanks in the text as well, also where they
stand between its negation and its letters. -/
theorem IsNegatable.exchange_gap {word rest : List Char} (negatable : IsNegatable word)
    (ends : endsAt maySucceedOperator rest = true)
    (blank : ∀ character ∈ gap, isSpace character = true)
    (blank' : ∀ character ∈ gap', isSpace character = true)
    (apart : gap = [] ∨ gap' = [] → after = [])
    (parts : before ++ (gap' ++ after) = word ++ rest) :
    ∃ word' rest', before ++ (gap ++ after) = word' ++ rest' ∧ IsNegatable word' ∧
      endsAt maySucceedOperator rest' = true := by
  have known : maySucceedOperator ∈ lookaheads := by simp [lookaheads]
  have wall : endsAt (fun character => !!isSpace character) (gap' ++ after) = true := by
    simpa using lookahead_gap blank' (fun nothing => apart (.inr nothing))
      (by simp [lookaheads] : isSpace ∈ lookaheads)
  have visible : ∀ {letters : List Char}, (∀ character ∈ letters, character.isAlpha = true) →
      ∀ character ∈ letters, (!isSpace character) = true := by
    intro letters isAlpha character member
    simp [isSpace_of_isAlpha (isAlpha character member)]
  cases negatable with
  | plain isWord =>
      obtain ⟨middle, rfl, rfl⟩ := exists_middle (visible (isAlpha_of_isOperatorWord isWord)) wall
        parts.symm
      refine ⟨word, middle ++ (gap ++ after), by simp, .plain isWord, ?_⟩
      rw [← endsAt_gap blank blank' apart known, ends]
  | @negated negation spaces letters spelled nonempty isGap isWord =>
      rw [List.append_assoc, List.append_assoc] at parts
      obtain ⟨behind, rfl, partsBehind⟩ := exists_middle
        (visible (isAlpha_of_spells (by decide) spelled)) wall parts.symm
      rcases List.append_eq_append_iff.mp partsBehind with
        ⟨front, rfl, partsFront⟩ | ⟨front, rfl, partsFront⟩
      · -- The whole word stands in front of the blanks.
        obtain ⟨middle, rfl, rfl⟩ := exists_middle (visible (isAlpha_of_isOperatorWord isWord)) wall
          partsFront
        refine ⟨_, middle ++ (gap ++ after), by simp, .negated spelled nonempty isGap isWord, ?_⟩
        rw [← endsAt_gap blank blank' apart known, ends]
      · -- The blanks are some of those behind the negation.
        have begins : endsAt (fun character => !isSpace character) (letters ++ rest) = true :=
          isSpace_of_isOperatorWord isWord rest
        obtain ⟨middle, rfl, rfl⟩ := exists_middle blank' begins partsFront
        have filled : gap ≠ [] := by
          intro nothing
          have ended := apart (.inl nothing)
          simp [ne_nil_of_isOperatorWord isWord] at ended
        refine ⟨negation ++ ((behind ++ (gap ++ middle)) ++ letters), rest, by simp,
          .negated spelled (by simp [filled]) ?_ isWord, ends⟩
        simp only [List.mem_append, or_imp, forall_and] at isGap ⊢
        exact ⟨isGap.1, blank, isGap.2.2⟩

/-- Behind a token, blanks may be replaced by others, and at the end of the text they may be left
out. -/
theorem exchangeable_gap (blank : ∀ character ∈ gap, isSpace character = true)
    (blank' : ∀ character ∈ gap', isSpace character = true)
    (apart : gap = [] ∨ gap' = [] → after = []) (before : List Char) :
    Exchangeable (before ++ (gap ++ after)) (before ++ (gap' ++ after)) where
  lookahead _ known := endsAt_gap blank blank' apart known before
  noWord nothing := by
    rw [negatableWordSize?_eq_none_iff] at nothing ⊢
    intro word rest parts negatable
    rw [Bool.eq_false_iff]
    intro ends
    obtain ⟨word', rest', parts', negatable', ends'⟩ :=
      negatable.exchange_gap ends blank blank' apart parts
    simp [nothing word' rest' parts' negatable'] at ends'
  noSign nothing := by
    have visible : ∀ sign ∈ comparisonSigns, ∀ character ∈ sign.toList,
        (!isSpace character) = true := by simp [comparisonSigns, isSpace]
    have wall : endsAt (fun character => !!isSpace character) (gap' ++ after) = true := by
      simpa using lookahead_gap blank' (fun nothing => apart (.inr nothing))
        (by simp [lookaheads] : isSpace ∈ lookaheads)
    rw [comparisonSize?_eq_none_iff] at nothing ⊢
    rintro sign known ⟨rest, parts⟩
    obtain ⟨middle, rfl, _⟩ := exists_middle (visible sign known) wall parts
    exact nothing sign known ⟨middle ++ (gap ++ after), by simp⟩

end Gaps

end FilterBox.Lexeme
