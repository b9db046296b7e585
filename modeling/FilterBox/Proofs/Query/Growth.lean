import FilterBox.Proofs.Token.Passage
import FilterBox.Proofs.Token.Scanned
import FilterBox.Proofs.Token.Spacing
import Mathlib.Data.List.Basic

/-!
A query that goes on behind its end.

All tokens but the last three stay as they are (`tokens_append`). A colon looks furthest ahead, over
an operator word and the negation in front of it. There blanks stand in one place only, and three
words of letters have blanks in two places.
-/

namespace FilterBox

open Text

namespace Lexeme

theorem IsFirst.endsAt_of_isAlpha {mode : Mode} {first : Char} {later rest : List Char}
    {lexeme : Lexeme} (isFirst : IsFirst mode (first :: later) rest lexeme)
    (letter : first.isAlpha = true) : endsAt (fun character => !character.isAlpha) rest = true := by
  have noLetter : ∀ {boundary : Char → Bool}, endsAt boundary rest = true →
      (∀ character : Char, character.isAlpha = true → boundary character = false) →
      endsAt (fun character => !character.isAlpha) rest = true := by
    intro boundary ends blind
    apply endsAt_of_imp ends
    intro character stops
    rw [Bool.not_eq_true', Bool.eq_false_iff]
    intro letter
    simp [blind character letter] at stops
  cases isFirst with
  | connective _ _ ends => exact noLetter ends fun _ => isSpace_of_isAlpha
  | field _ _ ends _ =>
      apply noLetter ends
      intro character isLetter
      simp [isFieldCharacter_of_isAlpha isLetter]
  | value _ _ first =>
      cases first with
      | closed isQuote _ => rcases isQuote with rfl | rfl <;> simp at letter
      | unclosed isQuote _ => rcases isQuote with rfl | rfl <;> simp at letter
      | numeral isNumeral _ =>
          obtain ⟨_, _, begins, sign | digit⟩ := isNumeral.head
          · obtain ⟨rfl, _⟩ := List.cons.inj begins
            simp [sign] at letter
          · obtain ⟨rfl, _⟩ := List.cons.inj begins
            simp [isDigit_of_isAlpha letter] at digit
      | boolean _ ends => exact noLetter ends fun _ => endsValue_of_isAlpha
      | bare _ _ _ ends _ => exact noLetter ends fun _ => endsWord_of_isAlpha
  | _ => simp at letter

theorem IsNegatable.not_sublist {word : List Char} (negatable : IsNegatable word)
    {first between last : Char} (blank : isSpace first = true) (visible : isSpace between = false)
    (blank' : isSpace last = true) : ¬ [first, between, last].Sublist word := by
  have inked : ∀ {letters : List Char}, (∀ character ∈ letters, character.isAlpha = true) →
      ∀ {character : Char}, isSpace character = true → character ∉ letters := by
    intro letters isAlpha character space member
    simp [isSpace_of_isAlpha (isAlpha character member)] at space
  intro within
  cases negatable with
  | plain isWord =>
      exact inked (isAlpha_of_isOperatorWord isWord) blank (within.subset (by simp))
  | @negated negation gap letters spelled _ isGap isWord =>
      obtain ⟨front, back, parts, inFront, inBack⟩ := List.sublist_append_iff.mp within
      cases front with
      | cons head front =>
          obtain ⟨rfl, _⟩ := List.cons.inj parts
          have member := inFront.subset List.mem_cons_self
          exact inked (isAlpha_of_spells (by decide) spelled) blank member
      | nil =>
          rw [List.nil_append] at parts
          rw [← parts, List.sublist_append_iff] at inBack
          obtain ⟨front, back, parts, inGap, inLetters⟩ := inBack
          rcases List.eq_nil_or_concat back with rfl | ⟨back, final, rfl⟩
          · rw [List.append_nil] at parts
            have member : between ∈ gap := inGap.subset (by simp [← parts])
            simp [isGap between member] at visible
          · have final : last = final := by simpa using congrArg List.getLast? parts
            have member : last ∈ letters := inLetters.subset (by simp [final])
            exact inked (isAlpha_of_isOperatorWord isWord) blank' member

theorem IsFirst.exists_blank {mode mode' : Mode} {word gap word' rest : List Char}
    {lexeme lexeme' : Lexeme} (first : IsFirst mode word (gap ++ (word' ++ rest)) lexeme)
    (second : IsFirst mode' word' rest lexeme')
    (letters : ∀ character ∈ word ++ (gap ++ (word' ++ rest)),
      isSpace character = false → character.isAlpha = true) :
    ∃ blank later, gap = blank :: later ∧ isSpace blank = true := by
  obtain ⟨begins, inside, rfl, visible⟩ := first.visible
  have ends := first.endsAt_of_isAlpha (letters begins (by simp) visible)
  cases gap with
  | nil =>
      obtain ⟨begins', inside', rfl, visible'⟩ := second.visible
      simp [letters begins' (by simp) visible'] at ends
  | cons blank later =>
      refine ⟨blank, later, rfl, ?_⟩
      cases space : isSpace blank with
      | true => rfl
      | false => simp [letters blank (by simp) space] at ends

end Lexeme

open Lexeme

namespace Scan.Spaced

variable {mode : Mode} {offset : Nat} {text : List Char} {tokens : List Token}

theorem length_le (spaced : Spaced mode offset text tokens) : tokens.length ≤ text.length := by
  induction spaced with
  | gap => simp
  | token _ first _ inductionHypothesis =>
      have positive := List.length_pos_iff.mpr first.ne_nil
      simp only [List.length_cons, List.length_append]
      omega

/-- Three words of letters have a blank between the first and the second and between the second and
the third. -/
theorem exists_sublist {first second third : Token}
    (spaced : Spaced mode offset text (first :: second :: third :: tokens))
    (letters : ∀ character ∈ text, isSpace character = false → character.isAlpha = true) :
    ∃ blank between blank', isSpace blank = true ∧ isSpace between = false ∧ isSpace blank' = true ∧
      [blank, between, blank'].Sublist text := by
  cases spaced with
  | @token _ _ gap word rest _ _ _ isFirst spaced =>
  cases spaced with
  | @token _ _ gap' word' rest' _ _ _ isFirst' spaced =>
  cases spaced with
  | @token _ _ gap'' word'' rest'' _ _ _ isFirst'' _ =>
  have behind : ∀ character ∈ word ++ (gap' ++ (word' ++ (gap'' ++ (word'' ++ rest'')))),
      isSpace character = false → character.isAlpha = true := fun character member =>
    letters character (List.mem_append_right _ member)
  obtain ⟨blank, later, rfl, space⟩ := isFirst.exists_blank isFirst' behind
  obtain ⟨blank', later', rfl, space'⟩ := isFirst'.exists_blank isFirst'' fun character member =>
    behind character (List.mem_append_right _ (List.mem_append_right _ member))
  obtain ⟨between, inside, rfl, visible⟩ := isFirst'.visible
  refine ⟨blank, between, blank', space, visible, space', ?_⟩
  have begins : ∀ (character : Char) (others : List Char),
      [character].Sublist (character :: others) :=
    fun character others => List.singleton_sublist.mpr List.mem_cons_self
  have apart := (begins blank later).append <| (begins between inside).append <|
    (begins blank' later').append <| List.nil_sublist (word'' ++ rest'')
  exact apart.trans ((List.sublist_append_right word _).trans (List.sublist_append_right gap _))

theorem exchangeable {first second third : Token}
    (spaced : Spaced mode offset text (first :: second :: third :: tokens))
    (more earlier : List Char) :
    Exchangeable (earlier ++ text) (earlier ++ (text ++ more)) := by
  rw [← List.append_assoc]
  apply exchangeable_append
  · intro later negatable
    -- The three tokens would be words of letters.
    have within : text.Sublist (earlier ++ text ++ later) :=
      (List.sublist_append_right earlier text).trans (List.sublist_append_left _ later)
    have letters : ∀ character ∈ text, isSpace character = false → character.isAlpha = true :=
      fun character member inked =>
        (negatable.characters character (within.subset member)).resolve_right (by simp [inked])
    obtain ⟨blank, between, blank', space, visible, space', apart⟩ := spaced.exists_sublist letters
    exact negatable.not_sublist space visible space' (apart.trans within)
  · have long := spaced.length_le
    simp only [List.length_append, List.length_cons] at long ⊢
    omega

end Scan.Spaced

namespace Query

/-- When a query goes on behind its end, all tokens but the last three stay as they are, with their
places. -/
theorem tokens_append (query more : String) :
    ∃ tokens, Query.tokens query = tokens ++ [Token.final (byteLength query.toList)] ∧
      (∀ token ∈ tokens, token.kind ≠ .endOfInput) ∧
      tokens.take (tokens.length - 3) <+: Query.tokens (query ++ more) := by
  obtain ⟨tokens, diagnostics, layout, scanned⟩ := exists_layout query
  refine ⟨tokens, scanned, layout.ordinary, ?_⟩
  rcases Nat.lt_or_ge tokens.length 3 with few | many
  · rw [Nat.sub_eq_zero_of_le (Nat.le_of_lt few), List.take_zero]
    exact List.nil_prefix
  have three : (tokens.drop (tokens.length - 3)).length = 3 := by
    rw [List.length_drop]
    omega
  obtain ⟨first, second, third, last⟩ := List.length_eq_three.mp three
  rw [← List.take_append_drop (tokens.length - 3) tokens, last] at layout
  obtain ⟨before, word, after, next, lexeme, diagnostics₁, diagnostics₂, parts, _, passage, _, _,
    behind⟩ := layout.exists_passage
  generalize word ++ after = rest at parts passage behind
  have same := (Scan.Spaced.of_layout behind).exchangeable more.toList
  obtain ⟨tokens', diagnostics', layout', _⟩ := Scan.layout_go next (0 + byteLength before)
    (rest ++ more.toList)
  have whole := (passage.exchange same).followed layout'
  rw [Query.tokens, scan, String.toList_append, parts, List.append_assoc, whole.go_eq,
    List.append_assoc]
  exact List.prefix_append ..

/-- All of the last three tokens may become part of one. -/
example :
    (tokens ":NOT LI").map Token.text = [":", "NOT", "LI", ""] ∧
      (tokens (":NOT LI" ++ "KE")).map Token.text = [":NOT LIKE", ""] := by
  decide +kernel

end Query

end FilterBox
