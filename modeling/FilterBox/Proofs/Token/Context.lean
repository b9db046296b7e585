import FilterBox.Proofs.Token.Passage
import FilterBox.Proofs.Token.Scanned

/-!
What a word is read as, by the tokens in front of it.

The mode of a scan says no more than the tokens that were found so far (`Mode.Fits`, `Fits.behind`):
a value is awaited behind an operator and inside a list of values, and nowhere else. So words are
values just there (`kind_of_word`), and what was dropped between the tokens does not matter.
-/

namespace FilterBox

open Text Lexeme

deriving instance DecidableEq for Token

namespace Token

/-- Whether the token is an operator with a list behind it. -/
def IsListOperator (token : Token) : Prop :=
  token.kind = .operator ∧ (token.operator = .inList ∨ token.operator = .notInList)

/-- Whether the last of the tokens is an operator. -/
def EndsInOperator (tokens : List Token) : Prop :=
  ∃ token, tokens.getLast? = some token ∧ token.kind = .operator

/-- Whether the last of the tokens is an operator with a list behind it. -/
def EndsInListOperator (tokens : List Token) : Prop :=
  ∃ token, tokens.getLast? = some token ∧ token.IsListOperator

/-- Whether the tokens end inside a list: behind an operator that takes one there stand a
parenthesis and nothing but values and commas. -/
def EndsInList (tokens : List Token) : Prop :=
  ∃ earlier operator opening inner, tokens = earlier ++ operator :: opening :: inner ∧
    operator.IsListOperator ∧ opening.kind = .leftParen ∧
    ∀ token ∈ inner, token.kind = .value ∨ token.kind = .comma

variable {tokens : List Token} {token : Token}

theorem isListOperator_iff :
    token.IsListOperator ↔ token.kind = .operator ∧ token.operator.takesList = true := by
  unfold IsListOperator
  cases token.operator <;> simp [Operator.takesList]

theorem endsInOperator_concat :
    EndsInOperator (tokens ++ [token]) ↔ token.kind = .operator := by
  simp [EndsInOperator]

theorem endsInListOperator_concat :
    EndsInListOperator (tokens ++ [token]) ↔ token.IsListOperator := by
  simp [EndsInListOperator]

/-- A list is begun by a parenthesis behind its operator, and goes on with values and commas. -/
theorem endsInList_concat :
    EndsInList (tokens ++ [token]) ↔
      (token.kind = .leftParen ∧ EndsInListOperator tokens) ∨
        ((token.kind = .value ∨ token.kind = .comma) ∧ EndsInList tokens) := by
  constructor
  · rintro ⟨earlier, operator, opening, inner, parts, takesList, opens, listed⟩
    rcases List.eq_nil_or_concat inner with rfl | ⟨inner, last, rfl⟩
    · left
      have same : tokens ++ [token] = (earlier ++ [operator]) ++ [opening] := by simp [parts]
      obtain ⟨rfl, single⟩ := List.append_inj' same rfl
      obtain rfl := List.singleton_inj.mp single
      exact ⟨opens, operator, by simp, takesList⟩
    · right
      have same : tokens ++ [token] = (earlier ++ operator :: opening :: inner) ++ [last] := by
        simp [parts]
      obtain ⟨rfl, single⟩ := List.append_inj' same rfl
      obtain rfl := List.singleton_inj.mp single
      exact ⟨listed token (by simp), earlier, operator, opening, inner, rfl, takesList, opens,
        fun other member => listed other (by simp [member])⟩
  · rintro (⟨opens, operator, last, takesList⟩ |
      ⟨listed, earlier, operator, opening, inner, rfl, takesList, opens, others⟩)
    · obtain ⟨earlier, rfl⟩ := List.getLast?_eq_some_iff.mp last
      exact ⟨earlier, operator, token, [], by simp, takesList, opens, by simp⟩
    · refine ⟨earlier, operator, opening, inner ++ [token], by simp, takesList, opens, ?_⟩
      intro other member
      rcases List.mem_append.mp member with member | member
      · exact others other member
      · exact List.mem_singleton.mp member ▸ listed

end Token

open Token

/-- What a mode says about the tokens that were found so far. -/
structure Mode.Fits (tokens : List Token) (mode : Mode) : Prop where
  operator : EndsInOperator tokens ↔ mode = .value ∨ mode = .list
  listOperator : EndsInListOperator tokens ↔ mode = .list
  list : EndsInList tokens ↔ mode = .item

def Mode.behind (mode : Mode) (token : Token) : Mode :=
  match token.kind with
  | .operator => if token.operator.takesList then .list else .value
  | .leftParen => if mode = .list then .item else .field
  | .comma | .value => if mode = .item then .item else .field
  | .field | .connective | .rightParen | .endOfInput => .field

theorem Mode.Fits.start : Mode.Fits [] .field where
  operator := by simp [EndsInOperator]
  listOperator := by simp [EndsInListOperator]
  list := by simp [EndsInList]

namespace Lexeme

theorem IsFirst.mode_eq_field_of_connective {mode : Mode} {word rest : List Char} {lexeme : Lexeme}
    (first : IsFirst mode word rest lexeme) (isConnective : lexeme.kind = .connective) :
    mode = .field := by
  cases first with
  | connective isField _ _ => exact isField
  | value _ _ first => simp [first.kind.1] at isConnective
  | _ => simp at isConnective

theorem IsFirst.kind_cases {mode : Mode} {letter : Char} {letters rest : List Char}
    {lexeme : Lexeme}
    (first : IsFirst mode (letter :: letters) rest lexeme) (starts : isFieldStart letter = true) :
    (mode ≠ .field ∧ lexeme.kind = .value) ∨
    (mode = .field ∧ lexeme.kind = .connective ∧ endsAt isSpace rest = true ∧
      ∃ connective : Connective, spells connective.keyword lexeme.text = true) ∨
    (mode = .field ∧ lexeme.kind = .field ∧ ∀ connective : Connective,
      spells connective.keyword lexeme.text = true → endsAt isSpace rest = false) := by
  cases first with
  | connective isField spelled ends => exact .inr (.inl ⟨isField, rfl, ends, _, spelled⟩)
  | field isField _ _ other => exact .inr (.inr ⟨isField, rfl, other⟩)
  | value _ unnamed first =>
      refine .inl ⟨fun isField => ?_, first.kind.1⟩
      simpa [starts] using unnamed isField
  | _ => simp [isFieldStart] at starts

theorem IsFirst.nextMode_eq {mode : Mode} {word rest : List Char} {lexeme : Lexeme}
    (first : IsFirst mode word rest lexeme) (offset : Nat) :
    lexeme.nextMode mode = mode.behind (lexeme.placed offset word) := by
  unfold nextMode Mode.behind
  cases kind : lexeme.kind with
  | operator =>
      cases found : Operator.ofSymbol? (String.ofList lexeme.text) <;>
        simp only [Token.operator, placed, kind, found] <;> rfl
  | field => simpa only [placed, kind] using first.mode_eq_field kind
  | connective => simpa only [placed, kind] using first.mode_eq_field_of_connective kind
  | endOfInput => exact absurd kind first.ordinary
  | _ => simp only [placed, kind]

end Lexeme

theorem Mode.Fits.behind {mode : Mode} {tokens : List Token} (fits : mode.Fits tokens)
    (token : Token) : (mode.behind token).Fits (tokens ++ [token]) := by
  constructor
  · rw [endsInOperator_concat]
    cases kind : token.kind <;> grind [Mode.behind]
  · rw [endsInListOperator_concat, isListOperator_iff]
    cases kind : token.kind <;> grind [Mode.behind]
  · rw [endsInList_concat, fits.listOperator, fits.list]
    cases kind : token.kind <;> grind [Mode.behind]

namespace Scan

theorem Passage.fits {rest text : List Char} {mode next : Mode} {offset : Nat} {tokens : List Token}
    {diagnostics : List Diagnostic}
    (passage : Passage rest mode offset text tokens diagnostics next)
    {earlier : List Token} (fits : mode.Fits earlier) : next.Fits (earlier ++ tokens) := by
  induction passage generalizing earlier with
  | nil => rwa [List.append_nil]
  | blank _ _ inductionHypothesis => exact inductionHypothesis fits
  | dropped _ _ _ inductionHypothesis => exact inductionHypothesis fits
  | @token mode _ offset word _ lexeme _ _ first _ _ inductionHypothesis =>
      rw [List.append_cons]
      apply inductionHypothesis
      rw [first.nextMode_eq offset]
      exact fits.behind _

end Scan

namespace Query

/-- Whether a value is awaited behind the tokens. -/
def AwaitsValue (tokens : List Token) : Prop :=
  EndsInOperator tokens ∨ EndsInList tokens

/-- A word is a value exactly where a value is awaited. Elsewhere it is a connective if it spells
one and ends at a blank or at the end of the query, and a field if not. -/
theorem kind_of_word (query : String) (front back : List Token) (token : Token)
    (before word after : List Char) (scanned : tokens query = front ++ token :: back)
    (whole : query.toList = before ++ (word ++ after))
    (place : token.span = ⟨byteLength before, byteLength before + byteLength word⟩)
    (named : word.head?.any isFieldStart = true) :
    (token.kind = .value ↔ AwaitsValue front) ∧
      (¬ AwaitsValue front →
        let isConnective := (∃ connective : Connective,
          spells connective.keyword token.text.toList = true) ∧ endsAt isSpace after = true
        (isConnective → token.kind = .connective) ∧ (¬ isConnective → token.kind = .field)) := by
  obtain ⟨letter, letters, rfl, starts⟩ :
      ∃ letter letters, word = letter :: letters ∧ isFieldStart letter = true := by
    cases word with
    | nil => simp at named
    | cons letter letters => exact ⟨letter, letters, rfl, by simpa using named⟩
  have ordinary : token ≠ Token.final (byteLength query.toList) := by
    have positive := byteLength_pos (List.cons_ne_nil letter letters)
    rintro rfl
    simp only [Token.final, Span.mk.injEq] at place
    omega
  obtain ⟨later, rfl, layout⟩ := exists_layout_of_ne_final scanned ordinary
  rw [whole] at layout
  rw [← Nat.zero_add (byteLength before)] at place
  obtain ⟨mode, lexeme, _, _, _, passage, first, rfl, _⟩ := layout.exists_passage_at place
  have fits : mode.Fits front := passage.fits .start
  have awaits : AwaitsValue front ↔ mode ≠ .field := by
    rw [AwaitsValue, fits.operator, fits.list]
    cases mode <;> simp
  rw [awaits, Decidable.not_not, placed, String.toList_ofList]
  rcases first.kind_cases starts with ⟨notField, kind⟩ | ⟨isField, kind, ends, spelled⟩ |
    ⟨isField, kind, other⟩
  · simp [kind, notField]
  · simp [kind, isField, ends, spelled]
  · have noConnective :
      ¬ ((∃ connective : Connective, spells connective.keyword lexeme.text = true) ∧
        endsAt isSpace after = true) := by
      rintro ⟨⟨connective, spelled⟩, ends⟩
      simp [other connective spelled] at ends
    simp [kind, isField, noConnective]

/-- Characters are dropped in front of the parenthesis and in front of the second word of the list.
Behind the list the same letters are a connective. -/
theorem kind_of_word_list :
    let query := "x:IN \x02(or,\x02and) and y"
    let front : List Token := [⟨.field, "x", none, ⟨0, 1⟩⟩, ⟨.operator, ":IN", none, ⟨1, 4⟩⟩,
      ⟨.leftParen, "(", none, ⟨6, 7⟩⟩, ⟨.value, "or", some .string, ⟨7, 9⟩⟩,
      ⟨.comma, ",", none, ⟨9, 10⟩⟩]
    let listed : Token := ⟨.value, "and", some .string, ⟨11, 14⟩⟩
    let closing : Token := ⟨.rightParen, ")", none, ⟨14, 15⟩⟩
    let joining : Token := ⟨.connective, "and", none, ⟨16, 19⟩⟩
    (tokens query).take 8 = front ++ [listed, closing, joining] ∧ AwaitsValue front ∧
      ¬ AwaitsValue (front ++ [listed, closing]) := by
  intro query front listed closing joining
  have scanned : tokens query = front ++ listed :: closing :: joining :: (tokens query).drop 8 := by
    decide +kernel
  have isValue := kind_of_word query front _ listed "x:IN \x02(or,\x02".toList "and".toList
    ") and y".toList scanned (by decide) (by decide) (by decide)
  have isConnective := kind_of_word query (front ++ [listed, closing]) _ joining
    "x:IN \x02(or,\x02and) ".toList "and".toList " y".toList scanned (by decide)
    (by decide) (by decide)
  refine ⟨by decide +kernel, isValue.1.mp rfl, ?_⟩
  rw [← isConnective.1]
  decide

end Query

end FilterBox
