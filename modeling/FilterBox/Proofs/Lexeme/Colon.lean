import FilterBox.Proofs.Lexeme.Structure

/-!
What a colon draws into its operator.

`FollowsColon word rest` says that behind a colon the word belongs to the operator and the rest does
not. Cutting the rest short can change this only for a mere colon, when an operator word is all that
is left behind it.
-/

namespace FilterBox.Lexeme

open Text

theorem isOperatorWord_iff {letters : List Char} :
    Value.isOperatorWord letters = true ↔
      spells "IN" letters = true ∨ spells "LIKE" letters = true := by
  simp [Value.isOperatorWord]

theorem isAlpha_of_isOperatorWord {letters : List Char}
    (word : Value.isOperatorWord letters = true) :
    ∀ character ∈ letters, character.isAlpha = true := by
  rcases isOperatorWord_iff.mp word with spelled | spelled
  · exact isAlpha_of_spells (by decide) spelled
  · exact isAlpha_of_spells (by decide) spelled

theorem head_of_isOperatorWord {letters : List Char} (word : Value.isOperatorWord letters = true) :
    ∃ first later, letters = first :: later ∧ (first.toUpper = 'I' ∨ first.toUpper = 'L') := by
  rcases isOperatorWord_iff.mp word with spelled | spelled
  · obtain ⟨first, later, rfl, isI⟩ := exists_cons_of_spells 'I' rfl spelled
    exact ⟨first, later, rfl, .inl isI⟩
  · obtain ⟨first, later, rfl, isL⟩ := exists_cons_of_spells 'L' rfl spelled
    exact ⟨first, later, rfl, .inr isL⟩

theorem ne_nil_of_isOperatorWord {letters : List Char}
    (word : Value.isOperatorWord letters = true) :
    letters ≠ [] := by
  obtain ⟨_, _, rfl, _⟩ := head_of_isOperatorWord word
  exact List.cons_ne_nil _ _

theorem not_mem_of_isOperatorWord {letters : List Char} (word : Value.isOperatorWord letters = true)
    {quote : Char} (isQuote : quote = '"' ∨ quote = '\'') : quote ∉ letters := by
  intro member
  have letter := isAlpha_of_isOperatorWord word quote member
  rcases isQuote with rfl | rfl <;> simp at letter

/-- The operator words, perhaps negated. -/
inductive IsNegatable : List Char → Prop where
  | plain {letters : List Char} :
      Value.isOperatorWord letters = true →
      IsNegatable letters
  | negated {negation gap letters : List Char} :
      spells "NOT" negation = true →
      gap ≠ [] →
      (∀ character ∈ gap, isSpace character = true) →
      Value.isOperatorWord letters = true →
      IsNegatable (negation ++ (gap ++ letters))

theorem operatorWordSize?_eq_some_iff {text : List Char} {size : Nat} :
    operatorWordSize? text = some size ↔
      size ≤ text.length ∧ Value.isOperatorWord (text.take size) = true ∧
        endsAt maySucceedOperator (text.drop size) = true := by
  constructor
  · intro found
    rw [operatorWordSize?, Option.or_eq_some_iff] at found
    rcases found with found | ⟨_, found⟩
    · obtain ⟨same, spelled, ends⟩ := wordSize?_eq_some_iff.mp found
      exact ⟨size_le_of_spells_take same spelled, isOperatorWord_iff.mpr (.inl spelled), ends⟩
    · obtain ⟨same, spelled, ends⟩ := wordSize?_eq_some_iff.mp found
      exact ⟨size_le_of_spells_take same spelled, isOperatorWord_iff.mpr (.inr spelled), ends⟩
  · rintro ⟨fits, word, ends⟩
    have taken : (text.take size).length = size := List.length_take_of_le fits
    rw [← List.take_append_drop size text]
    rcases isOperatorWord_iff.mp word with spelled | spelled
    · rw [operatorWordSize?_of_spells (.inl rfl) spelled ends, taken]
    · rw [operatorWordSize?_of_spells (.inr rfl) spelled ends, taken]

theorem wordSize?_not_eq_none {text : List Char} (word : Value.isOperatorWord text = true)
    (rest : List Char) (boundary : Char → Bool) :
    wordSize? "NOT" boundary (text ++ rest) = none := by
  obtain ⟨first, later, rfl, begins⟩ := head_of_isOperatorWord word
  apply wordSize?_eq_none_of_toUpper 'N' rfl
  rcases begins with isI | isL
  · simp [isI]
  · simp [isL]

theorem isSpace_of_isOperatorWord {letters : List Char} (word : Value.isOperatorWord letters = true)
    (rest : List Char) : endsAt (fun character => !isSpace character) (letters ++ rest) = true := by
  obtain ⟨first, later, rfl, _⟩ := head_of_isOperatorWord word
  have letter := isAlpha_of_isOperatorWord word first List.mem_cons_self
  simp [isSpace_of_isAlpha letter]

theorem negatableWordSize?_negated {negation gap letters rest : List Char}
    (spelled : spells "NOT" negation = true) (nonempty : gap ≠ [])
    (blank : ∀ character ∈ gap, isSpace character = true)
    (word : Value.isOperatorWord letters = true) (ends : endsAt maySucceedOperator rest = true) :
    negatableWordSize? (negation ++ (gap ++ (letters ++ rest))) =
      some (negation ++ (gap ++ letters)).length := by
  obtain ⟨space, spaces, rfl⟩ := List.exists_cons_of_ne_nil nonempty
  have begins : endsAt isSpace (space :: spaces ++ (letters ++ rest)) = true :=
    blank space List.mem_cons_self
  have taken : (space :: spaces ++ (letters ++ rest)).takeWhile isSpace = space :: spaces :=
    takeWhile_append_of_endsAt blank (isSpace_of_isOperatorWord word rest) (by simp)
  have size : operatorWordSize? (letters ++ rest) = some letters.length := by
    rw [operatorWordSize?_eq_some_iff]
    simp [word, ends]
  have behind : (negation ++ (space :: spaces ++ (letters ++ rest))).drop
      (negation.length + (space :: spaces).length) = letters ++ rest := by
    rw [← List.append_assoc, ← List.length_append, List.drop_left]
  simp only [negatableWordSize?, wordSize?_append spelled begins, Option.bind_some, List.drop_left,
    taken, behind, size, Option.map_some, Option.some_or, List.length_append, Nat.add_assoc]

theorem negatableWordSize?_append {word rest : List Char} (negatable : IsNegatable word)
    (ends : endsAt maySucceedOperator rest = true) :
    negatableWordSize? (word ++ rest) = some word.length := by
  cases negatable with
  | plain letters =>
      have size : operatorWordSize? (word ++ rest) = some word.length := by
        rw [operatorWordSize?_eq_some_iff]
        simp [letters, ends]
      rw [negatableWordSize?, wordSize?_not_eq_none letters, Option.bind_none, Option.none_or, size]
  | negated spelled nonempty blank letters =>
      simpa only [List.append_assoc] using
        negatableWordSize?_negated spelled nonempty blank letters ends

theorem isNegatable_of_negatableWordSize? {text : List Char} {size : Nat}
    (found : negatableWordSize? text = some size) :
    ∃ word rest, text = word ++ rest ∧ size = word.length ∧ IsNegatable word ∧
      endsAt maySucceedOperator rest = true := by
  rw [negatableWordSize?, Option.or_eq_some_iff] at found
  rcases found with negated | ⟨_, plain⟩
  · simp only [Option.bind_eq_some_iff, Option.map_eq_some_iff] at negated
    obtain ⟨before, here, inner, word, rfl⟩ := negated
    obtain ⟨same, spelled, stops⟩ := wordSize?_eq_some_iff.mp here
    have fits := size_le_of_spells_take same spelled
    obtain ⟨gap, behind, parts, isGap⟩ : ∃ gap behind, text.drop before = gap ++ behind ∧
        (text.drop before).takeWhile isSpace = gap :=
      ⟨_, _, List.takeWhile_append_dropWhile.symm, rfl⟩
    have blank : ∀ character ∈ gap, isSpace character = true := fun character member =>
      List.all_eq_true.mp List.all_takeWhile character (isGap ▸ member)
    rw [isGap, ← List.drop_drop, parts, List.drop_left] at word
    obtain ⟨fitsInner, letters, ends⟩ := operatorWordSize?_eq_some_iff.mp word
    have nonempty : gap ≠ [] := by
      -- Without a gap the word would stand right behind `NOT`, where only a blank may stand.
      rintro rfl
      obtain ⟨first, later, taken, _⟩ := head_of_isOperatorWord letters
      have letter :=
        isAlpha_of_isOperatorWord letters first (by rw [taken]; exact List.mem_cons_self)
      have begins : behind = first :: (later ++ behind.drop inner) := by
        rw [← List.cons_append, ← taken, List.take_append_drop]
      rw [parts, List.nil_append, begins, endsAt_cons] at stops
      simp [isSpace_of_isAlpha letter] at stops
    refine ⟨text.take before ++ (gap ++ behind.take inner), behind.drop inner, ?_, ?_,
      .negated spelled nonempty blank letters, ends⟩
    · rw [List.append_assoc, List.append_assoc, List.take_append_drop, ← parts,
        List.take_append_drop]
    · simp only [List.length_append, List.length_take_of_le fits,
        List.length_take_of_le fitsInner, isGap]
      omega
  · obtain ⟨fits, word, ends⟩ := operatorWordSize?_eq_some_iff.mp plain
    exact ⟨text.take size, text.drop size, (List.take_append_drop ..).symm,
      (List.length_take_of_le fits).symm, .plain word, ends⟩

/-- A comparison sign, and nothing behind it that makes it a longer one. -/
inductive IsSign : List Char → List Char → Prop where
  | long {character : Char} {rest : List Char} :
      character ∈ ['>', '<', '!'] →
      IsSign [character, '='] rest
  | short {character : Char} {rest : List Char} :
      character ∈ ['>', '<'] →
      rest.head? ≠ some '=' →
      IsSign [character] rest

theorem comparisonSize?_eq_some_iff {text : List Char} {size : Nat} :
    comparisonSize? text = some size ↔
      ∃ sign rest, text = sign ++ rest ∧ size = sign.length ∧ IsSign sign rest := by
  constructor
  · intro found
    rw [comparisonSize?, Option.map_eq_some_iff] at found
    obtain ⟨sign, first, rfl⟩ := found
    have begins := List.find?_some first
    obtain ⟨rest, rfl⟩ := List.isPrefixOf_iff_prefix.mp begins
    refine ⟨sign.toList, rest, rfl, String.length_toList.symm, ?_⟩
    have known := List.mem_of_find?_eq_some first
    simp only [List.mem_cons, List.not_mem_nil, or_false] at known
    -- A short sign is only found where the longer one is not.
    have alone : ∀ short ∈ [">", "<"], sign = short → rest.head? ≠ some '=' := by
      intro short isShort same next
      obtain ⟨later, rfl⟩ := List.head?_eq_some_iff.mp next
      simp only [List.mem_cons, List.not_mem_nil, or_false] at isShort
      rcases isShort with rfl | rfl <;> subst same <;> simp [List.isPrefixOf] at first
    rcases known with rfl | rfl | rfl | rfl | rfl
    · exact .long (by simp : '>' ∈ _)
    · exact .long (by simp : '<' ∈ _)
    · exact .long (by simp : '!' ∈ _)
    · exact .short (by simp : '>' ∈ _) (alone ">" (by simp) rfl)
    · exact .short (by simp : '<' ∈ _) (alone "<" (by simp) rfl)
  · rintro ⟨sign, rest, rfl, rfl, isSign⟩
    cases isSign with
    | long known =>
        simp only [List.mem_cons, List.not_mem_nil, or_false] at known
        rcases known with rfl | rfl | rfl <;> rfl
    | short known alone =>
        simp only [List.mem_cons, List.not_mem_nil, or_false] at known
        cases rest with
        | nil => rcases known with rfl | rfl <;> rfl
        | cons next later =>
            have other : '=' ≠ next := by simpa [eq_comm] using alone
            rcases known with rfl | rfl <;> simp [comparisonSize?, List.isPrefixOf, other] <;> rfl

/-- Behind a colon the word belongs to the operator, and the rest behind the word does not. -/
inductive FollowsColon : List Char → List Char → Prop where
  | word {word rest : List Char} :
      IsNegatable word →
      endsAt maySucceedOperator rest = true →
      FollowsColon word rest
  | sign {sign rest : List Char} :
      IsSign sign rest →
      FollowsColon sign rest
  | nothing {rest : List Char} :
      negatableWordSize? rest = none →
      comparisonSize? rest = none →
      FollowsColon [] rest

theorem IsSign.head {sign rest : List Char} (isSign : IsSign sign rest) :
    ∃ first later, sign = first :: later ∧ first.isAlpha = false := by
  cases isSign with
  | long known =>
      simp only [List.mem_cons, List.not_mem_nil, or_false] at known
      rcases known with rfl | rfl | rfl <;> exact ⟨_, _, rfl, rfl⟩
  | short known =>
      simp only [List.mem_cons, List.not_mem_nil, or_false] at known
      rcases known with rfl | rfl <;> exact ⟨_, _, rfl, rfl⟩

theorem operatorSize?_colon_eq_some_iff {text : List Char} {size : Nat} :
    operatorSize? (':' :: text) = some size ↔
      ∃ word rest, text = word ++ rest ∧ size = word.length + 1 ∧ FollowsColon word rest := by
  rw [operatorSize?_colon, Option.some.injEq]
  constructor
  · rintro rfl
    cases negatable : negatableWordSize? text with
    | some size =>
        obtain ⟨word, rest, rfl, rfl, isWord, ends⟩ := isNegatable_of_negatableWordSize? negatable
        exact ⟨word, rest, rfl, Nat.add_comm .., .word isWord ends⟩
    | none =>
        cases comparison : comparisonSize? text with
        | some size =>
            obtain ⟨sign, rest, rfl, rfl, isSign⟩ := comparisonSize?_eq_some_iff.mp comparison
            exact ⟨sign, rest, rfl, Nat.add_comm .., .sign isSign⟩
        | none => exact ⟨[], text, rfl, rfl, .nothing negatable comparison⟩
  · rintro ⟨word, rest, rfl, rfl, follows⟩
    cases follows with
    | word isWord ends =>
        rw [negatableWordSize?_append isWord ends, Option.some_or, Option.getD_some, Nat.add_comm]
    | sign isSign =>
        have size := comparisonSize?_eq_some_iff.mpr ⟨word, rest, rfl, rfl, isSign⟩
        obtain ⟨first, later, rfl, other⟩ := isSign.head
        rw [size, List.cons_append, negatableWordSize?_eq_none_of_head other, Option.none_or,
          Option.getD_some, Nat.add_comm]
    | nothing negatable comparison =>
        rw [List.nil_append, negatable, comparison]
        rfl

theorem IsNegatable.characters {word : List Char} (negatable : IsNegatable word) :
    ∀ character ∈ word, character.isAlpha = true ∨ isSpace character = true := by
  intro character member
  cases negatable with
  | plain letters => exact .inl (isAlpha_of_isOperatorWord letters character member)
  | negated spelled _ blank letters =>
      rcases List.mem_append.mp member with negation | behind
      · exact .inl (isAlpha_of_spells (by decide) spelled character negation)
      · rcases List.mem_append.mp behind with gap | word
        · exact .inr (blank character gap)
        · exact .inl (isAlpha_of_isOperatorWord letters character word)

theorem FollowsColon.characters {word rest : List Char} (follows : FollowsColon word rest) :
    ∀ character ∈ word,
      character.isAlpha = true ∨ isSpace character = true ∨ character ∈ ['>', '<', '!', '='] := by
  intro character member
  cases follows with
  | word negatable _ => exact (negatable.characters character member).imp_right .inl
  | sign isSign =>
      right
      right
      cases isSign <;> grind
  | nothing => simp at member

/-- When the rest is cut short, the operator stays as it is, unless it was a mere colon and what is
left of the rest is an operator word. -/
theorem FollowsColon.cut {word rest rest' : List Char} (follows : FollowsColon word rest)
    (begins : rest' <+: rest) (nonempty : rest' ≠ []) :
    FollowsColon word rest' ∨ word = [] ∧ IsNegatable rest' := by
  have head := head?_of_prefix begins nonempty
  cases follows with
  | word isWord ends => exact .inl (.word isWord (endsAt_congr head _ ▸ ends))
  | sign isSign =>
      cases isSign with
      | long known => exact .inl (.sign (.long known))
      | short known alone => exact .inl (.sign (.short known (head ▸ alone)))
  | nothing negatable comparison =>
      obtain ⟨more, rfl⟩ := begins
      have noSign : comparisonSize? rest' = none := by
        rw [comparisonSize?, Option.map_eq_none_iff, List.find?_eq_none] at comparison ⊢
        intro sign known begins
        apply comparison sign known
        rw [List.isPrefixOf_iff_prefix] at begins ⊢
        exact begins.trans (List.prefix_append ..)
      cases found : negatableWordSize? rest' with
      | none => exact .inl (.nothing found noSign)
      | some size =>
          obtain ⟨word, later, rfl, rfl, isWord, ends⟩ := isNegatable_of_negatableWordSize? found
          cases later with
          | nil => exact .inr ⟨rfl, by simpa using isWord⟩
          | cons next later =>
              -- The word would have been found in the whole rest as well.
              have endsAll : endsAt maySucceedOperator (next :: later ++ more) = true := ends
              have drawn := negatableWordSize?_append isWord endsAll
              rw [← List.append_assoc, negatable] at drawn
              simp at drawn

theorem FollowsColon.alone {word rest : List Char} (follows : FollowsColon word rest) :
    FollowsColon word [] := by
  cases follows with
  | word negatable _ => exact .word negatable rfl
  | sign isSign =>
      cases isSign with
      | long known => exact .sign (.long known)
      | short known _ => exact .sign (.short known (by simp))
  | nothing => exact .nothing rfl rfl

theorem IsNegatable.head {text : List Char} (negatable : IsNegatable text) :
    ∃ first later, text = first :: later ∧ first.isAlpha = true := by
  cases negatable with
  | plain word =>
      obtain ⟨first, later, rfl, _⟩ := head_of_isOperatorWord word
      exact ⟨first, later, rfl, isAlpha_of_isOperatorWord word first List.mem_cons_self⟩
  | negated spelled _ _ _ =>
      obtain ⟨first, later, rfl, _⟩ := exists_cons_of_spells 'N' rfl spelled
      exact ⟨first, _, rfl, isAlpha_of_spells (by decide) spelled first List.mem_cons_self⟩

theorem IsNegatable.isOperatorWord {text : List Char} (negatable : IsNegatable text)
    (inked : ∀ character ∈ text, isSpace character = false) : Value.isOperatorWord text = true := by
  cases negatable with
  | plain word => exact word
  | @negated negation gap letters _ nonempty blank _ =>
      obtain ⟨space, spaces, rfl⟩ := List.exists_cons_of_ne_nil nonempty
      have isBlank := blank space List.mem_cons_self
      simp [inked space (by simp)] at isBlank

theorem not_followsColon_nil {word : List Char} (operatorWord : Value.isOperatorWord word = true) :
    ¬ FollowsColon [] word := by
  intro follows
  generalize nothing : ([] : List Char) = drawn at follows
  cases follows with
  | word negatable _ =>
      obtain ⟨_, _, rfl, _⟩ := negatable.head
      simp at nothing
  | sign isSign =>
      obtain ⟨_, _, rfl, _⟩ := isSign.head
      simp at nothing
  | nothing negatable _ =>
      have drawn := negatableWordSize?_append (.plain operatorWord) (endsAt_nil maySucceedOperator)
      rw [List.append_nil, negatable] at drawn
      simp at drawn

end FilterBox.Lexeme
