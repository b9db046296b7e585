import FilterBox.Proofs.Lexeme.First
import FilterBox.Query.Unfinished
import Mathlib.Computability.Language

/-!
The texts that look unfinished, as regular languages.

`looksUnfinished_iff` says that the three scans of a text, for an operator at its end, a connective
at its end and a single field name, find the languages of three patterns. A pattern that is not
anchored at the start of the text may begin anywhere in it.
-/

namespace FilterBox

open scoped Computability

namespace Text

theorem trimEnd_cons {rest : List Char} (kept : trimEnd rest ≠ []) (character : Char) :
    trimEnd (character :: rest) = character :: trimEnd rest := by
  obtain ⟨head, later, same⟩ := List.exists_cons_of_ne_nil kept
  simp only [trimEnd, same]

theorem trimEnd_append_blanks {gap : List Char}
    (blank : ∀ character ∈ gap, isSpace character = true)
    (text : List Char) : trimEnd (text ++ gap) = trimEnd text := by
  induction text with
  | nil => exact trimEnd_eq_nil_iff.mpr blank
  | cons character rest inductionHypothesis =>
      simp only [List.cons_append, trimEnd, inductionHypothesis]

theorem exists_gap (text : List Char) :
    ∃ gap, text = trimEnd text ++ gap ∧ ∀ character ∈ gap, isSpace character = true := by
  induction text with
  | nil => exact ⟨[], rfl, by simp⟩
  | cons character rest inductionHypothesis =>
      obtain ⟨gap, parts, blank⟩ := inductionHypothesis
      by_cases kept : trimEnd rest = []
      · by_cases space : isSpace character = true
        · refine ⟨character :: rest, by simp [trimEnd, kept, space], ?_⟩
          exact List.forall_mem_cons.mpr ⟨space, trimEnd_eq_nil_iff.mp kept⟩
        · rw [kept] at parts
          exact ⟨gap, by simpa [trimEnd, kept, space] using parts, blank⟩
      · exact ⟨gap, by rw [trimEnd_cons kept, List.cons_append, ← parts], blank⟩

theorem trimEnd_append {text : List Char} (whole : trimEnd text = text) (nonempty : text ≠ [])
    (before : List Char) : trimEnd (before ++ text) = before ++ text := by
  induction before with
  | nil => exact whole
  | cons character before inductionHypothesis =>
      have kept : trimEnd (before ++ text) ≠ [] := by
        rw [inductionHypothesis]
        exact List.append_ne_nil_of_right_ne_nil before nonempty
      rw [List.cons_append, trimEnd_cons kept, inductionHypothesis]

theorem trimEnd_eq_self {text : List Char}
    (visible : ∀ character ∈ text, isSpace character = false) : trimEnd text = text := by
  induction text with
  | nil => rfl
  | cons character rest inductionHypothesis =>
      rw [List.forall_mem_cons] at visible
      have whole := inductionHypothesis visible.2
      cases rest with
      | nil => simp [trimEnd, visible.1]
      | cons head later => rw [trimEnd_cons (by simp [whole]), whole]

end Text

namespace Unfinished

open Text Lexeme

def oneOf (passes : Char → Bool) : Language Char :=
  {text | ∃ character, passes character = true ∧ text = [character]}

def literal (text : String) : Language Char :=
  {text.toList}

def word (capitals : String) : Language Char :=
  {text | resembles capitals text = true}

def blanks : Language Char :=
  (oneOf isSpace)∗

def comparison : Language Char :=
  literal ">=" + literal "<=" + literal "!=" + literal ">" + literal "<"

/-- An operator word, perhaps behind a `NOT` and blanks. -/
def operatorWord : Language Char :=
  (1 + word "NOT" * (oneOf isSpace * blanks)) * (word "IN" + word "LIKE")

/-- What may stand behind the colon of an operator. -/
def operatorRemainder : Language Char :=
  1 + comparison + operatorWord + word "NOT"

def operatorEnding : Language Char :=
  literal ":" * operatorRemainder + literal "="

/-- The pattern `(?i)(?::(?:>=|<=|!=|>|<|(?:NOT\s+)?(?:IN|LIKE)|NOT)?|=)\s*$`. -/
def trailingOperator : Language Char :=
  ⊤ * operatorEnding * blanks

def keyword : Language Char :=
  word "AND" + word "OR" + word "NOT"

def opensWord (character : Char) : Bool :=
  isSpace character || character = '('

/-- The pattern `(?i)(?:^|[\s(])(?:AND|OR|NOT)\s*$`. -/
def danglingKeyword : Language Char :=
  (1 + ⊤ * oneOf opensWord) * keyword * blanks

def fieldName : Language Char :=
  oneOf isFieldStart * (oneOf isFieldCharacter)∗

/-- The pattern `^\s*[A-Za-z_][A-Za-z0-9_.]*\s*$`. -/
def bareIdentifier : Language Char :=
  blanks * fieldName * blanks

section Languages

variable {language other : Language Char} {passes : Char → Bool} {character : Char}
  {text rest : List Char}

theorem mem_top : text ∈ (⊤ : Language Char) :=
  Set.mem_univ text

theorem mem_literal {written : String} : text ∈ literal written ↔ text = written.toList :=
  Set.mem_singleton_iff

theorem mem_word {capitals : String} : text ∈ word capitals ↔ resembles capitals text = true :=
  Iff.rfl

theorem mem_kstar_oneOf :
    text ∈ (oneOf passes)∗ ↔ ∀ character ∈ text, passes character = true := by
  rw [Language.mem_kstar]
  constructor
  · rintro ⟨pieces, rfl, single⟩ character member
    obtain ⟨piece, isPiece, member⟩ := List.mem_flatten.mp member
    obtain ⟨only, passed, rfl⟩ := single piece isPiece
    rwa [List.mem_singleton.mp member]
  · intro passed
    refine ⟨text.map fun character => [character], by simp [← List.flatMap_def], ?_⟩
    intro piece isPiece
    obtain ⟨character, member, rfl⟩ := List.mem_map.mp isPiece
    exact ⟨character, passed character member, rfl⟩

theorem mem_blanks : text ∈ blanks ↔ ∀ character ∈ text, isSpace character = true :=
  mem_kstar_oneOf

theorem cons_mem_oneOf_mul :
    character :: rest ∈ oneOf passes * language ↔ passes character = true ∧ rest ∈ language := by
  rw [Language.mem_mul]
  constructor
  · rintro ⟨_, ⟨first, passed, rfl⟩, later, member, same⟩
    obtain ⟨rfl, rfl⟩ := List.cons.inj same
    exact ⟨passed, member⟩
  · rintro ⟨passed, member⟩
    exact ⟨[character], ⟨character, passed, rfl⟩, rest, member, rfl⟩

theorem nil_not_mem_oneOf_mul : [] ∉ oneOf passes * language := by
  intro member
  obtain ⟨_, ⟨first, _, rfl⟩, later, _, same⟩ := Language.mem_mul.mp member
  simp at same

theorem nil_mem_top_mul : [] ∈ ⊤ * language ↔ [] ∈ language := by
  simp [Language.mem_mul, mem_top]

/-- A text of the language stands at the end: the text itself or one at the end of its tail. -/
theorem cons_mem_top_mul :
    character :: rest ∈ ⊤ * language ↔ character :: rest ∈ language ∨ rest ∈ ⊤ * language := by
  simp only [Language.mem_mul]
  constructor
  · rintro ⟨before, -, ending, member, same⟩
    cases before with
    | nil => exact .inl (same ▸ member)
    | cons first before =>
        exact .inr ⟨before, mem_top, ending, member, (List.cons.inj same).2⟩
  · rintro (member | ⟨before, -, ending, member, rfl⟩)
    · exact ⟨[], mem_top, _, member, rfl⟩
    · exact ⟨character :: before, mem_top, ending, member, rfl⟩

/-- Whether no text of the language is empty or ends in a blank. -/
def EndsVisibly (language : Language Char) : Prop :=
  ∀ text ∈ language, text ≠ [] ∧ trimEnd text = text

theorem EndsVisibly.add (visible : EndsVisibly language) (visible' : EndsVisibly other) :
    EndsVisibly (language + other) := by
  rintro text (member | member)
  · exact visible text member
  · exact visible' text member

theorem EndsVisibly.behind (visible : EndsVisibly language) (front : Language Char) :
    EndsVisibly (front * language) := by
  intro text member
  obtain ⟨before, -, ending, ends, rfl⟩ := Language.mem_mul.mp member
  obtain ⟨nonempty, whole⟩ := visible ending ends
  exact ⟨List.append_ne_nil_of_right_ne_nil _ nonempty, trimEnd_append whole nonempty before⟩

theorem EndsVisibly.mem_mul_blanks (visible : EndsVisibly language) :
    text ∈ language * blanks ↔ trimEnd text ∈ language := by
  rw [Language.mem_mul]
  constructor
  · rintro ⟨kept, member, gap, blank, rfl⟩
    rwa [trimEnd_append_blanks (mem_blanks.mp blank), (visible kept member).2]
  · intro member
    obtain ⟨gap, parts, blank⟩ := exists_gap text
    exact ⟨trimEnd text, member, gap, mem_blanks.mpr blank, parts.symm⟩

theorem mem_blanks_mul (visible : ∀ text ∈ language, endsAt isSpace text = false) :
    text ∈ blanks * language ↔ text.dropWhile isSpace ∈ language := by
  rw [Language.mem_mul]
  constructor
  · rintro ⟨gap, blank, kept, member, rfl⟩
    have begins := visible kept member
    rw [List.dropWhile_append_of_pos (mem_blanks.mp blank)]
    cases kept with
    | nil => simp at begins
    | cons first later => rwa [List.dropWhile_cons_of_neg (by simpa using begins)]
  · intro member
    refine ⟨text.takeWhile isSpace, ?_, _, member, List.takeWhile_append_dropWhile⟩
    exact mem_blanks.mpr (List.all_eq_true.mp List.all_takeWhile)

end Languages

section Words

variable {capitals : String} {text : List Char}

theorem isSpace_of_isUpper_capital {character : Char}
    (upper : (capital character).isUpper = true) : isSpace character = false := by
  unfold capital at upper
  split at upper
  next kelvin => subst kelvin; decide
  next =>
    exact isSpace_of_isAlpha (isAlpha_of_isUpper_toUpper upper)

theorem visible_of_resembles (upper : isCapital capitals = true)
    (resembled : resembles capitals text = true) :
    ∀ character ∈ text, isSpace character = false := by
  intro character member
  apply isSpace_of_isUpper_capital
  rw [isCapital, List.all_eq_true] at upper
  apply upper
  rw [← eq_of_beq resembled]
  exact List.mem_map_of_mem member

theorem ne_nil_of_resembles (nonempty : capitals.toList ≠ [])
    (resembled : resembles capitals text = true) : text ≠ [] := by
  intro empty
  rw [empty] at resembled
  exact nonempty (eq_of_beq resembled).symm

theorem endsVisibly_word (nonempty : capitals.toList ≠ []) (upper : isCapital capitals = true) :
    EndsVisibly (word capitals) := by
  intro text resembled
  exact ⟨ne_nil_of_resembles nonempty resembled,
    trimEnd_eq_self (visible_of_resembles upper resembled)⟩

theorem endsVisibly_keyword : EndsVisibly keyword :=
  ((endsVisibly_word (by decide) (by decide)).add (endsVisibly_word (by decide) (by decide))).add
    (endsVisibly_word (by decide) (by decide))

theorem mem_keyword :
    text ∈ keyword ↔
      Connective.all.any (fun connective => resembles connective.keyword text) = true := by
  simp only [keyword, Language.mem_add, mem_word, Connective.all, Connective.keyword, List.any_cons,
    List.any_nil, Bool.or_eq_true, Bool.false_eq_true, or_false, or_assoc]

theorem begins_operatorWords : ∀ text ∈ word "IN" + word "LIKE", endsAt isSpace text = false := by
  have begins {capitals : String} (nonempty : capitals.toList ≠ [])
      (upper : isCapital capitals = true) :
      ∀ text ∈ word capitals, endsAt isSpace text = false := by
    intro text resembled
    have visible := visible_of_resembles upper resembled
    cases text with
    | nil => exact absurd rfl (ne_nil_of_resembles nonempty resembled)
    | cons first later => exact visible first List.mem_cons_self
  rintro text (member | member)
  · exact begins (by decide) (by decide) text member
  · exact begins (by decide) (by decide) text member

theorem mem_operatorWords :
    text ∈ word "IN" + word "LIKE" ↔ isOperatorWord text = true := by
  rw [Language.mem_add, mem_word, mem_word, isOperatorWord, Bool.or_eq_true]

end Words

section Scans

variable {text : List Char}

theorem endsVisibly_operatorWords : EndsVisibly (word "IN" + word "LIKE") :=
  (endsVisibly_word (by decide) (by decide)).add (endsVisibly_word (by decide) (by decide))

theorem endsVisibly_literal {written : String} (nonempty : written.toList ≠ [])
    (whole : trimEnd written.toList = written.toList) : EndsVisibly (literal written) := by
  intro text member
  obtain rfl := mem_literal.mp member
  exact ⟨nonempty, whole⟩

theorem endsVisibly_operatorEnding : EndsVisibly operatorEnding := by
  have literals (sign : String) (member : sign ∈ [":", "=", ">=", "<=", "!=", ">", "<"]) :
      EndsVisibly (literal sign) := by
    simp only [List.mem_cons, List.not_mem_nil, or_false] at member
    rcases member with rfl | rfl | rfl | rfl | rfl | rfl | rfl <;>
      exact endsVisibly_literal (by decide) (by decide)
  have comparisons : EndsVisibly comparison :=
    ((((literals _ (by simp)).add (literals _ (by simp))).add (literals _ (by simp))).add
      (literals _ (by simp))).add (literals _ (by simp))
  have words : EndsVisibly operatorWord := endsVisibly_operatorWords.behind _
  have negation : EndsVisibly (word "NOT") := endsVisibly_word (by decide) (by decide)
  simp only [operatorEnding, operatorRemainder, mul_add, mul_one]
  exact ((((literals _ (by simp)).add (comparisons.behind _)).add (words.behind _)).add
    (negation.behind _)).add (literals _ (by simp))

theorem exists_front (text : List Char) :
    ∃ front later, text = front ++ later ∧ (∀ character ∈ front, isSpace character = false) ∧
      endsAt isSpace later = true := by
  refine ⟨text.takeWhile fun character => !isSpace character,
    text.dropWhile fun character => !isSpace character, List.takeWhile_append_dropWhile.symm,
    fun character member => ?_, ?_⟩
  · simpa using List.all_eq_true.mp List.all_takeWhile character member
  · simpa using endsAt_dropWhile (fun character => !isSpace character) text

theorem mem_negatedWord {front later : List Char}
    (visible : ∀ character ∈ front, isSpace character = false)
    (ends : endsAt isSpace later = true) :
    front ++ later ∈ word "NOT" * (oneOf isSpace * blanks) * (word "IN" + word "LIKE") ↔
      resembles "NOT" front = true ∧ later ≠ [] ∧
        isOperatorWord (later.dropWhile isSpace) = true := by
  have dropped {character : Char} {rest : List Char} (space : isSpace character = true) :
      (character :: rest).dropWhile isSpace = rest.dropWhile isSpace :=
    List.dropWhile_cons_of_pos space
  rw [mul_assoc, mul_assoc, Language.mem_mul]
  constructor
  · rintro ⟨negation, isNegation, behind, member, parts⟩
    cases behind with
    | nil => exact absurd rfl ((endsVisibly_operatorWords.behind _).behind _ [] member).1
    | cons space more =>
        obtain ⟨isBlank, member⟩ := cons_mem_oneOf_mul.mp member
        have inked := visible_of_resembles (by decide) isNegation
        have sameFront := congrArg (List.takeWhile fun character => !isSpace character) parts
        rw [takeWhile_append_of_endsAt (by simpa using visible) ends (by simp),
          @takeWhile_append_of_endsAt isSpace _ _ (space :: more) (by simpa using inked) isBlank
            (by simp)] at sameFront
        subst sameFront
        obtain rfl := List.append_cancel_left parts
        refine ⟨isNegation, by simp, ?_⟩
        rw [dropped isBlank]
        exact mem_operatorWords.mp ((mem_blanks_mul begins_operatorWords).mp member)
  · rintro ⟨isNegation, nonempty, named⟩
    obtain ⟨space, more, rfl⟩ := List.exists_cons_of_ne_nil nonempty
    rw [dropped ends] at named
    refine ⟨front, isNegation, _, cons_mem_oneOf_mul.mpr ⟨ends, ?_⟩, rfl⟩
    exact (mem_blanks_mul begins_operatorWords).mpr (mem_operatorWords.mpr named)

theorem mem_comparison :
    text ∈ comparison ↔
      [">=", "<=", "!=", ">", "<"].any (fun sign => sign.toList = text) = true := by
  simp only [comparison, Language.mem_add, mem_literal, List.any_cons, List.any_nil,
    Bool.or_eq_true, decide_eq_true_eq, Bool.false_eq_true, or_false, or_assoc, @eq_comm _ text]

theorem mem_operatorWord {front later : List Char}
    (visible : ∀ character ∈ front, isSpace character = false)
    (ends : endsAt isSpace later = true) :
    front ++ later ∈ operatorWord ↔
      isOperatorWord (front ++ later) = true ∨
        (resembles "NOT" front = true ∧ (!later.isEmpty) = true) ∧
          isOperatorWord (later.dropWhile isSpace) = true := by
  rw [operatorWord, add_mul, one_mul, Language.mem_add _ (word "NOT" * _ * _), mem_operatorWords,
    mem_negatedWord visible ends, Bool.not_eq_true', List.isEmpty_eq_false_iff, and_assoc]

theorem isOperatorRemainder_iff : isOperatorRemainder text = true ↔ text ∈ operatorRemainder := by
  obtain ⟨front, later, rfl, visible, ends⟩ := exists_front text
  have taken : (front ++ later).takeWhile (fun character => !isSpace character) = front :=
    takeWhile_append_of_endsAt (by simpa using visible) ends (by simp)
  rw [isOperatorRemainder, taken, List.drop_left]
  simp only [operatorRemainder, Language.mem_add, Language.mem_one, mem_comparison, mem_word,
    mem_operatorWord visible ends, Bool.or_eq_true, Bool.and_eq_true, List.isEmpty_iff]
  constructor
  · rintro ((((empty | sign) | negation) | named) | negated)
    · exact .inl (.inl (.inl empty))
    · exact .inl (.inl (.inr sign))
    · exact .inr negation
    · exact .inl (.inr (.inl named))
    · exact .inl (.inr (.inr negated))
  · rintro (((empty | sign) | named | negated) | negation)
    · exact .inl (.inl (.inl (.inl empty)))
    · exact .inl (.inl (.inl (.inr sign)))
    · exact .inl (.inr named)
    · exact .inr negated
    · exact .inl (.inl (.inr negation))

theorem cons_mem_operatorEnding {character : Char} {rest : List Char} :
    character :: rest ∈ operatorEnding ↔
      (character = ':' ∧ rest ∈ operatorRemainder) ∨ (character = '=' ∧ rest = []) := by
  have colon : character :: rest ∈ literal ":" * operatorRemainder ↔
      character = ':' ∧ rest ∈ operatorRemainder := by
    rw [Language.mem_mul]
    constructor
    · rintro ⟨sign, isSign, later, member, parts⟩
      rw [mem_literal.mp isSign] at parts
      obtain ⟨rfl, rfl⟩ := List.cons.inj parts
      exact ⟨rfl, member⟩
    · rintro ⟨rfl, member⟩
      exact ⟨[':'], mem_literal.mpr rfl, rest, member, rfl⟩
  rw [operatorEnding, Language.mem_add, colon, mem_literal]
  exact or_congr_right List.cons_eq_cons

theorem endsInOperator_iff : endsInOperator text = true ↔ text ∈ ⊤ * operatorEnding := by
  fun_induction endsInOperator text with
  | case1 =>
      rw [nil_mem_top_mul]
      simpa using fun member => (endsVisibly_operatorEnding [] member).1 rfl
  | case2 rest inductionHypothesis =>
      rw [cons_mem_top_mul, ← inductionHypothesis, cons_mem_operatorEnding, Bool.or_eq_true,
        isOperatorRemainder_iff]
      simp
  | case3 rest inductionHypothesis =>
      rw [cons_mem_top_mul, ← inductionHypothesis, cons_mem_operatorEnding]
      simp
  | case4 character rest noColon noEquals inductionHypothesis =>
      rw [cons_mem_top_mul, ← inductionHypothesis, cons_mem_operatorEnding]
      tauto

theorem endsInConnective_iff (mayBegin : Bool) :
    endsInConnective mayBegin text = true ↔
      (mayBegin = true ∧ text ∈ keyword) ∨ text ∈ ⊤ * (oneOf opensWord * keyword) := by
  induction text generalizing mayBegin with
  | nil =>
      have absent : [] ∉ oneOf opensWord * keyword := fun member =>
        ((endsVisibly_keyword.behind _) [] member).1 rfl
      have absent' : [] ∉ keyword := fun member => (endsVisibly_keyword [] member).1 rfl
      simp [endsInConnective, nil_mem_top_mul, absent, absent']
  | cons character rest inductionHypothesis =>
      rw [endsInConnective, Bool.or_eq_true, Bool.and_eq_true, inductionHypothesis,
        cons_mem_top_mul, cons_mem_oneOf_mul, mem_keyword, mem_keyword]
      rfl

theorem isFieldName_iff : isFieldName text = true ↔ text ∈ fieldName := by
  cases text with
  | nil => exact iff_of_false (by simp [isFieldName]) nil_not_mem_oneOf_mul
  | cons first later =>
      rw [fieldName, cons_mem_oneOf_mul, mem_kstar_oneOf, isFieldName, Bool.and_eq_true,
        List.all_eq_true, List.forall_mem_cons]
      constructor
      · rintro ⟨starts, _, inside⟩
        exact ⟨starts, inside⟩
      · rintro ⟨starts, inside⟩
        exact ⟨starts, isFieldCharacter_of_isFieldStart starts, inside⟩

theorem endsVisibly_fieldName : EndsVisibly fieldName := by
  intro text member
  have named := isFieldName_iff.mpr member
  rw [isFieldName, Bool.and_eq_true, List.all_eq_true] at named
  refine ⟨fun empty => by simp [empty] at named, trimEnd_eq_self fun character inside => ?_⟩
  exact isSpace_of_endsValue (endsValue_of_isFieldCharacter (named.2 character inside))

theorem begins_fieldName : ∀ text ∈ fieldName * blanks, endsAt isSpace text = false := by
  intro text member
  rw [fieldName, mul_assoc] at member
  cases text with
  | nil => exact absurd member nil_not_mem_oneOf_mul
  | cons first later =>
      exact isSpace_of_isFieldStart (cons_mem_oneOf_mul.mp member).1

end Scans

end Unfinished

open Unfinished

theorem Query.looksUnfinished_iff (query : String) :
    looksUnfinished query = true ↔
      query.toList ∈ trailingOperator ∨ query.toList ∈ danglingKeyword ∨
        query.toList ∈ bareIdentifier := by
  have operator : query.toList ∈ trailingOperator ↔
      endsInOperator (Text.trimEnd query.toList) = true := by
    rw [trailingOperator, (endsVisibly_operatorEnding.behind _).mem_mul_blanks, endsInOperator_iff]
  have connective : query.toList ∈ danglingKeyword ↔
      endsInConnective true (Text.trimEnd query.toList) = true := by
    rw [danglingKeyword, (endsVisibly_keyword.behind _).mem_mul_blanks, endsInConnective_iff,
      add_mul, one_mul, mul_assoc, Language.mem_add]
    simp
  have name : query.toList ∈ bareIdentifier ↔
      isFieldName (Text.trim query.toList) = true := by
    rw [bareIdentifier, mul_assoc, mem_blanks_mul begins_fieldName,
      endsVisibly_fieldName.mem_mul_blanks, isFieldName_iff, Text.trim]
  rw [operator, connective, name, looksUnfinished, Bool.or_eq_true, Bool.or_eq_true, or_assoc]

end FilterBox
