import FilterBox.Proofs.Lexeme.Field
import FilterBox.Proofs.Printing.Readable

/-!
Reading what stands around values: fields, operators and connectives.

The symbol of an operator is read whole where the text behind it is apart from it. For `:` that is
the hard part: a word that begins with a sign, or with an operator word before a single quote, is
drawn into the operator.
-/

namespace FilterBox

namespace Operator

open Text

theorem ofSymbol?_symbol (operator : Operator) : ofSymbol? operator.symbol = some operator := by
  cases operator <;> decide

theorem words_of_inked {text : List Char} (nonempty : text ≠ [])
    (inked : ∀ character ∈ text, isSpace character = false) : words text = [text] := by
  rw [words, List.splitOnP_eq_singleton inked]
  simp [nonempty]

theorem ofSymbol?_colon_sign : ∀ sign ∈ [">=", "<=", "!=", ">", "<"],
    (ofSymbol? (String.ofList (':' :: sign.toList))).getD .equals ≠ .equals := by
  decide

theorem ofSymbol?_colon_word {word : String} {letters : List Char}
    (known : word = "IN" ∨ word = "LIKE") (spelled : spells word letters = true) :
    ofSymbol? (String.ofList (':' :: letters)) = ofSymbol? (":" ++ word) := by
  have alphabetic : ∀ character ∈ letters, character.isAlpha = true := by
    rcases known with rfl | rfl
    · exact isAlpha_of_spells (by decide) spelled
    · exact isAlpha_of_spells (by decide) spelled
  have inked : ∀ character ∈ ':' :: letters, isSpace character = false := by
    intro character member
    rcases List.mem_cons.mp member with rfl | letter
    · decide
    · exact isSpace_of_isAlpha (alphabetic character letter)
  have capital : (':' :: letters).map Char.toUpper = ':' :: word.toList := by
    rw [List.map_cons, eq_of_beq spelled]
    rfl
  rw [ofSymbol?, String.toList_ofList, words_of_inked (by simp) inked]
  simp only [List.intersperse_singleton, List.flatten_singleton, spells, capital]
  rcases known with rfl | rfl <;> simp <;> decide

end Operator

namespace Lexeme

open Text

/-- Whether the symbol of an operator stops before a text. -/
def Apart (operator : Operator) (tail : List Char) : Prop :=
  match operator with
  | .equals => negatableWordSize? tail = none ∧ comparisonSize? tail = none
  | .greater | .less => tail.head? ≠ some '='
  | .like | .notLike | .inList | .notInList => tail.head? = some ' '
  | .notEquals | .greaterOrEqual | .lessOrEqual => True

theorem negatableWordSize?_eq_none_of_head {character : Char} {rest : List Char}
    (other : character.isAlpha = false) : negatableWordSize? (character :: rest) = none := by
  have absent : ∀ word ∈ ["NOT", "IN", "LIKE"], ∀ boundary,
      wordSize? word boundary (character :: rest) = none := by
    intro word known boundary
    simp only [List.mem_cons, List.not_mem_nil, or_false] at known
    rcases known with rfl | rfl | rfl <;>
      exact wordSize?_eq_none_of_head (by decide) (by decide) other
  simp [negatableWordSize?, operatorWordSize?, absent]

theorem apart_equals_of_head {character : Char} {rest : List Char}
    (other : character.isAlpha = false) (unsigned : character ∉ ['>', '<', '!']) :
    Apart .equals (character :: rest) := by
  simp only [List.mem_cons, List.not_mem_nil, or_false, not_or] at unsigned
  refine ⟨negatableWordSize?_eq_none_of_head other, ?_⟩
  simp [comparisonSize?, List.isPrefixOf, Ne.symm unsigned.1, Ne.symm unsigned.2.1,
    Ne.symm unsigned.2.2]

theorem operatorSize?_colon (tail : List Char) :
    operatorSize? (':' :: tail) =
      some (1 + ((negatableWordSize? tail).or (comparisonSize? tail)).getD 0) := rfl

theorem operatorSize?_symbol {operator : Operator} {tail : List Char}
    (apart : Apart operator tail) :
    operatorSize? (operator.symbol.toList ++ tail) = some operator.symbol.toList.length := by
  cases operator with
  | equals =>
      obtain ⟨noWord, noSign⟩ := apart
      simp [Operator.symbol, operatorSize?_colon, noWord, noSign]
  | notEquals | greaterOrEqual | lessOrEqual => rfl
  | greater | less =>
      cases tail with
      | nil => rfl
      | cons first later =>
          have other : '=' ≠ first := by simpa [Apart, eq_comm] using apart
          simp [Operator.symbol, operatorSize?_colon, negatableWordSize?_eq_none_of_head,
            comparisonSize?, List.isPrefixOf, other]
          rfl
  | like | notLike | inList | notInList =>
      obtain ⟨later, rfl⟩ : ∃ later, tail = ' ' :: later := by
        simpa [Apart, List.head?_eq_some_iff] using apart
      rfl

theorem first?_colon (mode : Mode) {tail : List Char} {size : Nat}
    (found : operatorSize? (':' :: tail) = some size) :
    first? mode (':' :: tail) = some (verbatim .operator none (':' :: tail) size) := by
  have noConnective : connective? (':' :: tail) = none := noConnective_of_head rfl
  simp [first?, sign?, noConnective, operator?, found]

theorem first?_symbol (mode : Mode) {operator : Operator} {tail : List Char}
    (apart : Apart operator tail) :
    first? mode (operator.symbol.toList ++ tail) =
      some ⟨.operator, none, operator.symbol.toList.length, operator.symbol.toList, true⟩ := by
  have size := operatorSize?_symbol apart
  obtain ⟨behind, colon⟩ : ∃ behind, operator.symbol.toList = ':' :: behind := by
    cases operator <;> exact ⟨_, rfl⟩
  rw [← verbatim_append .operator none operator.symbol.toList tail]
  rw [colon, List.cons_append] at size ⊢
  exact first?_colon mode size

theorem first?_field {name : List Char} (named : Unfinished.isFieldName name = true)
    (rest : List Char) :
    first? .field (name ++ ':' :: rest) = some ⟨.field, none, name.length, name, true⟩ := by
  have colon : endsAt (fun character => !isFieldCharacter character) (':' :: rest) = true := rfl
  have noConnective := noConnective_of_isFieldName named colon fun _ _ => rfl
  have field := field?_append named colon
  obtain ⟨first, later, rfl, starts⟩ := head_of_isFieldName named
  rw [List.cons_append] at noConnective field ⊢
  obtain ⟨noSign, noOperator⟩ := noSign_of_isFieldStart (later ++ ':' :: rest) starts
  simp only [first?, if_true, noSign, noConnective, noOperator, field, Option.none_or,
    Option.some_or]

theorem isPrefixOf_of_sign {sign : String} {word rest : List Char} (nonempty : word ≠ [])
    (known : sign ∈ [">=", "<=", "!=", ">", "<"]) (ends : endsAt (· = ')') rest = true)
    (begins : sign.toList <+: word ++ rest) :
    ∃ shorter ∈ [">", "<", "!="], shorter.toList <+: word := by
  obtain ⟨first, later, rfl⟩ := List.exists_cons_of_ne_nil nonempty
  obtain ⟨behind, whole⟩ := begins
  simp only [List.mem_cons, List.not_mem_nil, or_false] at known
  rcases known with rfl | rfl | rfl | rfl | rfl
  · obtain ⟨rfl, _⟩ : '>' = first ∧ '=' :: behind = later ++ rest := by simpa using whole
    exact ⟨">", by simp, by simp⟩
  · obtain ⟨rfl, _⟩ : '<' = first ∧ '=' :: behind = later ++ rest := by simpa using whole
    exact ⟨"<", by simp, by simp⟩
  · obtain ⟨rfl, tail⟩ : '!' = first ∧ '=' :: behind = later ++ rest := by simpa using whole
    cases later with
    | nil =>
        subst tail
        simp at ends
    | cons second later =>
        obtain ⟨rfl, _⟩ : '=' = second ∧ behind = later ++ rest := by simpa using tail
        exact ⟨"!=", by simp, by simp⟩
  · obtain ⟨rfl, _⟩ : '>' = first ∧ behind = later ++ rest := by simpa using whole
    exact ⟨">", by simp, by simp⟩
  · obtain ⟨rfl, _⟩ : '<' = first ∧ behind = later ++ rest := by simpa using whole
    exact ⟨"<", by simp, by simp⟩

theorem endsAt_of_closing {rest : List Char} (closes : endsAt (· = ')') rest = true) :
    endsAt endsValue rest = true ∧ endsAt (fun character => !character.isAlpha) rest = true ∧
      endsAt isSpace rest = rest.isEmpty ∧ endsAt maySucceedOperator rest = rest.isEmpty := by
  cases rest with
  | nil => simp
  | cons character later =>
      obtain rfl : character = ')' := by simpa using closes
      exact ⟨rfl, rfl, rfl, rfl⟩

theorem wordSize?_not_bare {word rest : List Char} (bare : IsBare word)
    (closes : endsAt (· = ')') rest = true) : wordSize? "NOT" isSpace (word ++ rest) = none := by
  rw [Option.eq_none_iff_forall_ne_some]
  intro size found
  rcases wordSize?_cases (by decide) (endsAt_of_closing closes).2.1 found with
    ⟨spelled, _⟩ | ⟨letters, character, later, rfl, _, space⟩
  · have other := bare.notKeyword .not (by decide)
    simp [Connective.keyword, spelled] at other
  · have visible := isSpace_of_endsValue (bare.inside character (by simp))
    simp [visible] at space

/-- A bare word that begins with no operator stays apart from the colon before it, unless it is an
operator word and nothing follows it. -/
theorem apart_bare {word rest : List Char} (bare : IsBare word)
    (closes : endsAt (· = ')') rest = true) (clear : Value.beginsOperator word = false)
    (accompanied : rest = [] → Value.isOperatorWord word = false) :
    Apart .equals (word ++ rest) := by
  simp only [Value.beginsOperator, Bool.or_eq_false_iff, List.any_eq_false] at clear
  obtain ⟨noSign, noWord⟩ := clear
  have absent : ∀ capitals ∈ ["IN", "LIKE"],
      wordSize? capitals maySucceedOperator (word ++ rest) = none := by
    intro capitals known
    rw [Option.eq_none_iff_forall_ne_some]
    intro size found
    have upper : isCapital capitals = true := by
      simp only [List.mem_cons, List.not_mem_nil, or_false] at known
      rcases known with rfl | rfl <;> decide
    rcases wordSize?_cases upper (endsAt_of_closing closes).2.1 found with
      ⟨spelled, stops⟩ | ⟨letters, character, later, rfl, spelled, boundary⟩
    · rw [(endsAt_of_closing closes).2.2.2, List.isEmpty_iff] at stops
      have lone := accompanied stops
      simp only [Value.isOperatorWord, List.any_eq_false] at lone
      exact lone capitals known spelled
    · have inside := bare.inside character (by simp)
      have unescaped := bare.unescaped character (by simp)
      simp only [endsValue, Bool.or_eq_false_iff, decide_eq_false_iff_not] at inside
      simp only [maySucceedOperator, inside, unescaped, Bool.or_eq_true, decide_eq_true_eq,
        Bool.false_eq_true, false_or] at boundary
      apply noWord capitals known
      rw [← length_of_spells spelled, List.take_left, List.drop_left]
      simp [spelled, boundary]
  refine ⟨?_, ?_⟩
  · simp [negatableWordSize?, operatorWordSize?, wordSize?_not_bare bare closes,
      absent "IN" (by simp), absent "LIKE" (by simp)]
  · rw [comparisonSize?, Option.map_eq_none_iff, List.find?_eq_none]
    intro sign known begins
    rw [List.isPrefixOf_iff_prefix] at begins
    obtain ⟨shorter, member, shorterBegins⟩ := isPrefixOf_of_sign bare.nonempty known closes begins
    exact noSign shorter member (List.isPrefixOf_iff_prefix.mpr shorterBegins)

theorem comparisonSize?_of_sign {sign : String} {word : List Char} (rest : List Char)
    (known : sign ∈ [">", "<", "!="]) (begins : sign.toList <+: word) :
    ∃ longer ∈ [">=", "<=", "!=", ">", "<"],
      comparisonSize? (word ++ rest) = some longer.length ∧
        (word ++ rest).take longer.length = longer.toList := by
  have present : ([">=", "<=", "!=", ">", "<"].find? fun sign =>
      sign.toList.isPrefixOf (word ++ rest)).isSome = true := by
    rw [List.find?_isSome]
    refine ⟨sign, ?_, List.isPrefixOf_iff_prefix.mpr (begins.trans (List.prefix_append ..))⟩
    simp only [List.mem_cons, List.not_mem_nil, or_false] at known
    rcases known with rfl | rfl | rfl <;> decide
  obtain ⟨longer, found⟩ := Option.isSome_iff_exists.mp present
  have begun : longer.toList.isPrefixOf (word ++ rest) = true :=
    List.find?_some (p := fun sign : String => sign.toList.isPrefixOf (word ++ rest)) found
  have taken := List.prefix_iff_eq_take.mp (List.isPrefixOf_iff_prefix.mp begun)
  rw [String.length_toList] at taken
  exact ⟨longer, List.mem_of_find?_eq_some found, by simp [comparisonSize?, found], taken.symm⟩

theorem operatorWordSize?_of_spells {word : String} {letters rest : List Char}
    (known : word = "IN" ∨ word = "LIKE") (spelled : spells word letters = true)
    (boundary : endsAt maySucceedOperator rest = true) :
    operatorWordSize? (letters ++ rest) = some letters.length := by
  rcases known with rfl | rfl
  · rw [operatorWordSize?, wordSize?_append spelled boundary, Option.some_or]
  · -- `IN` is tried first, but what spells `LIKE` begins with another letter.
    obtain ⟨first, later, rfl, isL⟩ := exists_cons_of_spells 'L' rfl spelled
    have other : wordSize? "IN" maySucceedOperator (first :: later ++ rest) = none :=
      wordSize?_eq_none_of_toUpper 'I' rfl (by simp [isL])
    rw [operatorWordSize?, other, Option.none_or, wordSize?_append spelled boundary]

/-- Before this text a colon is read as the symbol of another operator. -/
def Draws (mode : Mode) (text : List Char) : Prop :=
  ∃ size symbol, first? mode (':' :: text) = some ⟨.operator, none, size, symbol, true⟩ ∧
    (Operator.ofSymbol? (String.ofList symbol)).getD .equals ≠ .equals

theorem draws_sign (mode : Mode) {sign : String} {word : List Char} (rest : List Char)
    (known : sign ∈ [">", "<", "!="]) (begins : sign.toList <+: word) :
    Draws mode (word ++ rest) := by
  obtain ⟨longer, member, found, taken⟩ := comparisonSize?_of_sign rest known begins
  have noWord : negatableWordSize? (word ++ rest) = none := by
    obtain ⟨behind, rfl⟩ := begins
    simp only [List.mem_cons, List.not_mem_nil, or_false] at known
    rcases known with rfl | rfl | rfl <;> exact negatableWordSize?_eq_none_of_head rfl
  have size : operatorSize? (':' :: (word ++ rest)) = some (1 + longer.length) := by
    rw [operatorSize?_colon, noWord, found]
    rfl
  refine ⟨_, _, first?_colon mode size, ?_⟩
  rw [Nat.add_comm, List.take_succ_cons, taken]
  exact Operator.ofSymbol?_colon_sign longer member

theorem draws_word (mode : Mode) {capitals : String} {letters rest : List Char}
    (known : capitals ∈ ["IN", "LIKE"]) (spelled : spells capitals letters = true)
    (boundary : endsAt maySucceedOperator rest = true)
    (unnegated : wordSize? "NOT" isSpace (letters ++ rest) = none) :
    Draws mode (letters ++ rest) := by
  simp only [List.mem_cons, List.not_mem_nil, or_false] at known
  have size : operatorSize? (':' :: (letters ++ rest)) = some (1 + letters.length) := by
    rw [operatorSize?_colon, negatableWordSize?, unnegated,
      operatorWordSize?_of_spells known spelled boundary]
    rfl
  refine ⟨_, _, first?_colon mode size, ?_⟩
  rw [Nat.add_comm, List.take_succ_cons, List.take_left,
    Operator.ofSymbol?_colon_word known spelled]
  rcases known with rfl | rfl <;> decide

/-- A bare word that begins with an operator, or that is an operator word with nothing behind it,
makes another operator of the colon before it. -/
theorem draws_bare (mode : Mode) {word rest : List Char} (bare : IsBare word)
    (closes : endsAt (· = ')') rest = true)
    (drawn : Value.beginsOperator word = true ∨ rest = [] ∧ Value.isOperatorWord word = true) :
    Draws mode (word ++ rest) := by
  have unnegated := wordSize?_not_bare bare closes
  rcases drawn with begins | ⟨rfl, lone⟩
  · simp only [Value.beginsOperator, Bool.or_eq_true, List.any_eq_true] at begins
    rcases begins with ⟨sign, known, begins⟩ | ⟨capitals, known, begins⟩
    · exact draws_sign mode rest known (List.isPrefixOf_iff_prefix.mp begins)
    · simp only [Bool.and_eq_true, decide_eq_true_eq, List.head?_eq_some_iff] at begins
      obtain ⟨spelled, later, quote⟩ := begins
      have whole : word ++ rest = word.take capitals.length ++ '\'' :: (later ++ rest) := by
        rw [← List.cons_append, ← quote, ← List.append_assoc, List.take_append_drop]
      rw [whole] at unnegated ⊢
      exact draws_word mode known spelled rfl unnegated
  · simp only [Value.isOperatorWord, List.any_eq_true] at lone
    obtain ⟨capitals, known, spelled⟩ := lone
    exact draws_word mode known spelled rfl unnegated

end Lexeme

end FilterBox
