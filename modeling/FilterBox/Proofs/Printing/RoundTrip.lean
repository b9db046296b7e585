import FilterBox.Proofs.Printing.Leaf
import FilterBox.Proofs.Token.Scanned

/-!
Reading back printed filters.

The induction on the filter goes through every continuation that can follow a subtree: the end of
the text or a closing parenthesis. Only at the end of the text can a lone word be drawn into its
operator.
-/

namespace FilterBox

open Text Lexeme Scan Grammar

namespace Condition

theorem drawn_iff {condition : Condition} {rest : List Char} :
    condition.Drawn rest ↔
      condition.bareText?.any Value.beginsOperator = true ∨
        rest = [] ∧ condition.bareText?.any Value.isOperatorWord = true := by
  cases bare : condition.bareText? <;> simp [Drawn, bare]

theorem isReadable_iff {condition : Condition} :
    condition.isReadable = true ↔
      (∀ scalar ∈ condition.value.scalars, scalar.isReadable = true) ∧
        condition.bareText?.any Value.beginsOperator = false := by
  simp [isReadable]

theorem isReadable_eq_false_iff {condition : Condition} :
    condition.isReadable = false ↔
      (∃ scalar ∈ condition.value.scalars, scalar.isReadable = false) ∨
        condition.bareText?.any Value.beginsOperator = true := by
  rw [isReadable, Bool.and_eq_false_iff, List.all_eq_false]
  simp

end Condition

namespace Filter

/-- In front of a rest the text is read as the filter, up to places. -/
def ReadsBack (category : Category) (filter : Filter) (text rest : List Char) : Prop :=
  ∀ offset, ∃ tokens filter', Reads .field offset text tokens .field rest ∧
    Derives category tokens filter' ∧ filter'.unplaced = filter.unplaced

/-- In front of a rest the text is read as something that clashes with the filter. -/
def Clashes (filter : Filter) (text rest : List Char) : Prop :=
  ∀ offset, Atom.Clash
    ((go .field offset (text ++ rest)).tokens.filterMap Token.atom?) filter.atoms

theorem atoms_unplaced (filter : Filter) : filter.unplaced.atoms = filter.atoms := by
  simp only [atoms, leaves_unplaced, List.flatMap_map]
  rfl

/-- In front of a rest the text is read as the filter, which stands a shift behind where the text
begins. -/
def ReadsAt (category : Category) (shift : Nat) (filter : Filter) (text rest : List Char) : Prop :=
  ∀ offset, ∃ tokens, Reads .field offset text tokens .field rest ∧
    Derives category tokens (filter.placedAt (offset + shift))

theorem ReadsAt.readsBack {category : Category} {shift : Nat} {filter : Filter}
    {text rest : List Char}
    (reads : ReadsAt category shift filter text rest) : ReadsBack category filter text rest := by
  intro offset
  obtain ⟨tokens, read, derived⟩ := reads offset
  exact ⟨tokens, _, read, derived, filter.unplaced_placedAt _⟩

theorem readsAt_group {filter : Filter}
    (inner : ∀ rest, endsAt (· = ')') rest = true → (filter.isLoneWord = true → rest ≠ []) →
      ReadsAt .expression 0 filter filter.text.toList rest) (rest : List Char) :
    ReadsAt .operand 1 filter filter.groupText rest := by
  intro offset
  have closes : endsAt (· = ')') (')' :: rest) = true := rfl
  obtain ⟨opening, readOpening, opens⟩ :=
    Reads.opening .field (filter.text.toList ++ [')'] ++ rest) offset
  obtain ⟨tokens, read, derived⟩ := inner (')' :: rest) closes (by simp) (offset + byteLength ['('])
  obtain ⟨closing, readClosing, closes, _⟩ :=
    Reads.closing .field rest (offset + byteLength ['('] + byteLength filter.text.toList)
  exact ⟨_, readOpening.append (read.append readClosing), .group opens derived closes⟩

theorem clashes_group {filter : Filter}
    (inner : ∀ rest, endsAt (· = ')') rest = true → Clashes filter filter.text.toList rest)
    (rest : List Char) : Clashes filter filter.groupText rest := by
  intro offset
  have closes : endsAt (· = ')') (')' :: rest) = true := rfl
  obtain ⟨opening, readOpening, opens⟩ :=
    Reads.opening .field (filter.text.toList ++ ')' :: rest) offset
  have whole : filter.groupText ++ rest = ['('] ++ (filter.text.toList ++ ')' :: rest) := by
    simp [groupText]
  rw [whole]
  exact readOpening.clash [] (by simp [Token.atom?, opens]) (inner (')' :: rest) closes _)

theorem reads_join {left : Filter} (connective : Connective) {tokens : List Token}
    {rest : List Char}
    {offset : Nat}
    (read : Reads .field offset left.groupText tokens .field
      ([' '] ++ (connective.keyword.toList ++ [' ']) ++ rest)) :
    ∃ mark : Token, Reads .field offset (left.joinText connective) (tokens ++ [mark]) .field rest ∧
      mark.connective? = some connective := by
  obtain ⟨mark, readMark, spelled⟩ := Reads.keyword connective rest
    (offset + byteLength left.groupText + byteLength [' '])
  exact ⟨mark, read.append ((Reads.space ..).append readMark), spelled⟩

theorem reads_joined {left right : Filter} (connective : Connective) {rest : List Char}
    (readsLeft : ∀ rest, ReadsAt .operand 1 left left.groupText rest)
    (readsRight : ReadsAt .operand 1 right right.groupText rest) (offset : Nat) :
    ∃ (leftTokens : List Token) (mark : Token) (rightTokens : List Token),
      Reads .field offset (joinedText connective left right) (leftTokens ++ mark :: rightTokens)
        .field rest ∧
      Derives .operand leftTokens (left.placedAt (offset + 1)) ∧
      mark.connective? = some connective ∧
      Derives .operand rightTokens
        (right.placedAt (offset + byteLength (left.joinText connective) + 1)) := by
  obtain ⟨leftTokens, readLeft, leftDerived⟩ :=
    readsLeft ([' '] ++ (connective.keyword.toList ++ [' ']) ++ (right.groupText ++ rest)) offset
  obtain ⟨mark, readMark, spelled⟩ := reads_join connective readLeft
  obtain ⟨rightTokens, readRight, rightDerived⟩ := readsRight _
  have read := readMark.append readRight
  rw [List.append_assoc leftTokens, List.singleton_append] at read
  exact ⟨leftTokens, mark, rightTokens, read, leftDerived, spelled, rightDerived⟩

theorem clashes_left {left right : Filter} (connective : Connective) {rest : List Char}
    (clashesLeft : ∀ rest, Clashes left left.groupText rest) (offset : Nat) :
    Atom.Clash
      ((go .field offset (joinedText connective left right ++ rest)).tokens.filterMap Token.atom?)
      (left.atoms ++ right.atoms) := by
  rw [joinedText, List.append_assoc, List.append_assoc]
  exact (clashesLeft _ offset).append_right right.atoms

theorem clashes_right {left right : Filter} (connective : Connective) {rest : List Char}
    (readsLeft : ∀ rest, ReadsBack .operand left left.groupText rest)
    (clashesRight : Clashes right right.groupText rest) (offset : Nat) :
    Atom.Clash
      ((go .field offset (joinedText connective left right ++ rest)).tokens.filterMap Token.atom?)
      (left.atoms ++ right.atoms) := by
  obtain ⟨tokens, left', readLeft, derived, same⟩ :=
    readsLeft ([' '] ++ (connective.keyword.toList ++ [' ']) ++ (right.groupText ++ rest)) offset
  obtain ⟨mark, read, spelled⟩ := reads_join connective readLeft
  have atoms : (tokens ++ [mark]).filterMap Token.atom? = left.atoms := by
    rw [List.filterMap_append, derived.atoms, ← atoms_unplaced, same, atoms_unplaced]
    simp [Token.atom?_of_connective? spelled]
  rw [joinedText, List.append_assoc]
  exact read.clash left.atoms (congrArg List.length atoms) (clashesRight _)

/-- A filter of readable conditions is read back in front of the end of its expression, each
condition at the place of its text, unless it is a lone word and nothing follows it. -/
theorem readsAt {filter : Filter} (wellFormed : filter.isWellFormed = true)
    (readable : ∀ leaf ∈ filter.leaves, leaf.isReadable = true) (rest : List Char)
    (closes : endsAt (· = ')') rest = true) (accompanied : filter.isLoneWord = true → rest ≠ []) :
    ReadsAt .expression 0 filter filter.text.toList rest := by
  -- The operands are followed by a closing parenthesis, so the rest is not fixed.
  induction filter generalizing rest with
  | condition leaf =>
      intro offset
      have wellFormedLeaf : leaf.isWellFormed = true := by
        simpa [isWellFormed, leaves] using wellFormed
      obtain ⟨scalars, unsigned⟩ := Condition.isReadable_iff.mp (readable leaf (by simp [leaves]))
      have clear : ¬ leaf.Drawn rest := by
        rw [Condition.drawn_iff, unsigned]
        rintro (impossible | ⟨ends, lone⟩)
        · simp at impossible
        · exact accompanied lone ends
      obtain ⟨tokens, read, derived⟩ := Condition.reads wellFormedLeaf closes clear scalars offset
      exact ⟨tokens, read, derived.expression_of_operand⟩
  | conjunction left right leftHypothesis rightHypothesis =>
      intro offset
      simp only [isWellFormed, leaves, List.all_append, Bool.and_eq_true] at wellFormed
      simp only [leaves, List.forall_mem_append] at readable
      obtain ⟨leftTokens, mark, rightTokens, read, leftDerived, isAnd, rightDerived⟩ :=
        reads_joined .and
        (readsAt_group (leftHypothesis wellFormed.1 readable.1))
        (readsAt_group (rightHypothesis wellFormed.2 readable.2) rest) offset
      rw [toList_text_conjunction]
      exact ⟨_, read, .product (.conjunction (.factor (.operand leftDerived)) isAnd
        (.operand rightDerived))⟩
  | disjunction left right leftHypothesis rightHypothesis =>
      intro offset
      simp only [isWellFormed, leaves, List.all_append, Bool.and_eq_true] at wellFormed
      simp only [leaves, List.forall_mem_append] at readable
      obtain ⟨leftTokens, mark, rightTokens, read, leftDerived, isOr, rightDerived⟩ :=
        reads_joined .or
        (readsAt_group (leftHypothesis wellFormed.1 readable.1))
        (readsAt_group (rightHypothesis wellFormed.2 readable.2) rest) offset
      rw [toList_text_disjunction]
      exact ⟨_, read, .disjunction leftDerived.expression_of_operand isOr
        (.factor (.operand rightDerived))⟩
  | negation operand inductionHypothesis =>
      intro offset
      obtain ⟨mark, readMark, isNot⟩ := Reads.keyword .not (operand.groupText ++ rest) offset
      obtain ⟨tokens, read, derived⟩ :=
        readsAt_group (inductionHypothesis wellFormed readable) rest _
      rw [toList_text_negation]
      exact ⟨_, readMark.append read, .product (.factor (.negation isNot (.operand derived)))⟩

/-- Two operands clash with what is read if the first one does, or if it is read back and the second
one does. -/
theorem clashes_joined {left right : Filter} (connective : Connective)
    (wellFormed : left.isWellFormed = true)
    (unreadable : (∃ leaf ∈ left.leaves, leaf.isReadable = false) ∨
      ∃ leaf ∈ right.leaves, leaf.isReadable = false) {rest : List Char}
    (clashesLeft : (∃ leaf ∈ left.leaves, leaf.isReadable = false) →
      ∀ rest, Clashes left left.groupText rest)
    (clashesRight : (∃ leaf ∈ right.leaves, leaf.isReadable = false) →
      Clashes right right.groupText rest) (offset : Nat) :
    Atom.Clash
      ((go .field offset (joinedText connective left right ++ rest)).tokens.filterMap Token.atom?)
      (left.atoms ++ right.atoms) := by
  by_cases present : ∃ leaf ∈ left.leaves, leaf.isReadable = false
  · exact clashes_left connective (clashesLeft present) offset
  · have readable : ∀ leaf ∈ left.leaves, leaf.isReadable = true := by simpa using present
    exact clashes_right connective
      (fun rest => (readsAt_group (readsAt wellFormed readable) rest).readsBack)
      (clashesRight (unreadable.resolve_left present)) offset

/-- A filter with a condition that is not readable clashes with what is read, and so does a lone
word with nothing behind it. -/
theorem clashes {filter : Filter} (wellFormed : filter.isWellFormed = true) (rest : List Char)
    (closes : endsAt (· = ')') rest = true)
    (unreadable : (∃ leaf ∈ filter.leaves, leaf.isReadable = false) ∨
      filter.isLoneWord = true ∧ rest = []) :
    Clashes filter filter.text.toList rest := by
  induction filter generalizing rest with
  | condition leaf =>
      intro offset
      have wellFormedLeaf : leaf.isWellFormed = true := by
        simpa [isWellFormed, leaves] using wellFormed
      rw [atoms_condition]
      apply Condition.misreads wellFormedLeaf closes
      rw [Condition.drawn_iff]
      rcases unreadable with ⟨_, member, unreadable⟩ | ⟨lone, ends⟩
      · obtain rfl : _ = leaf := by simpa [leaves] using member
        rcases Condition.isReadable_eq_false_iff.mp unreadable with scalar | begins
        · exact .inr scalar
        · exact .inl (.inl begins)
      · exact .inl (.inr ⟨ends, lone⟩)
  | conjunction left right leftHypothesis rightHypothesis =>
      intro offset
      simp only [isWellFormed, leaves, List.all_append, Bool.and_eq_true] at wellFormed
      simp only [isLoneWord, Bool.false_eq_true, false_and, or_false, leaves, List.mem_append,
        or_and_right, exists_or] at unreadable
      rw [toList_text_conjunction, atoms_conjunction]
      exact clashes_joined .and wellFormed.1 unreadable
        (fun present => clashes_group fun rest closes =>
          leftHypothesis wellFormed.1 rest closes (.inl present))
        (fun present => clashes_group (fun rest closes =>
          rightHypothesis wellFormed.2 rest closes (.inl present)) rest) offset
  | disjunction left right leftHypothesis rightHypothesis =>
      intro offset
      simp only [isWellFormed, leaves, List.all_append, Bool.and_eq_true] at wellFormed
      simp only [isLoneWord, Bool.false_eq_true, false_and, or_false, leaves, List.mem_append,
        or_and_right, exists_or] at unreadable
      rw [toList_text_disjunction, atoms_disjunction]
      exact clashes_joined .or wellFormed.1 unreadable
        (fun present => clashes_group fun rest closes =>
          leftHypothesis wellFormed.1 rest closes (.inl present))
        (fun present => clashes_group (fun rest closes =>
          rightHypothesis wellFormed.2 rest closes (.inl present)) rest) offset
  | negation operand inductionHypothesis =>
      intro offset
      simp only [isLoneWord, Bool.false_eq_true, false_and, or_false] at unreadable
      obtain ⟨mark, readMark, isNot⟩ := Reads.keyword .not (operand.groupText ++ rest) offset
      rw [toList_text_negation, List.append_assoc, atoms_negation]
      have clashesOperand := clashes_group (fun rest closes =>
        inductionHypothesis wellFormed rest closes (.inl unreadable)) rest
      exact readMark.clash [] (by simp [Token.atom?_of_connective? isNot]) (clashesOperand _)

end Filter

namespace Query

/-- The text of a readable filter is read as the filter, with each condition at the place of its
text. -/
theorem parse_text {filter : Filter} (wellFormed : filter.isWellFormed = true)
    (readable : filter.isReadable = true) :
    parse filter.text = .ok (some (filter.placedAt 0)) := by
  obtain ⟨leaves, accompanied⟩ := Filter.isReadable_iff.mp readable
  have inCompany : filter.isLoneWord = true → ([] : List Char) ≠ [] := fun lone => by
    simp [lone] at accompanied
  obtain ⟨tokens, read, derived⟩ := Filter.readsAt wellFormed leaves [] rfl inCompany 0
  exact (parse_eq_ok_some_iff read.tokens_eq derived.kinds).mpr derived

theorem exists_parse_text {filter : Filter} (wellFormed : filter.isWellFormed = true)
    (readable : filter.isReadable = true) :
    ∃ filter', parse filter.text = .ok (some filter') ∧ filter'.unplaced = filter.unplaced :=
  ⟨_, parse_text wellFormed readable, filter.unplaced_placedAt 0⟩

theorem isReadable_of_parse_text {filter filter' : Filter} (wellFormed : filter.isWellFormed = true)
    (read : parse filter.text = .ok (some filter')) (same : filter'.equal filter = true) :
    filter.isReadable = true := by
  cases readable : filter.isReadable with
  | true => rfl
  | false =>
      have unreadable : (∃ leaf ∈ filter.leaves, leaf.isReadable = false) ∨
          filter.isLoneWord = true ∧ ([] : List Char) = [] := by
        rw [Filter.isReadable, Bool.and_eq_false_iff, List.all_eq_false] at readable
        simpa using readable
      -- An equal filter has the atoms of this one, and the tokens that were read have not.
      have clash := Filter.clashes wellFormed [] rfl unreadable 0
      obtain ⟨tokens, _, _, scanned, derived⟩ := exists_derivation read
      have atoms : (Query.tokens filter.text).filterMap Token.atom? = filter'.atoms := by
        rw [scanned, List.filterMap_append, derived.atoms]
        simp [Token.final, Token.atom?]
      rw [List.append_nil] at clash
      exact absurd (atoms ▸ Filter.forall₂_atoms same) clash.not_forall₂

/-- The text of a well-formed filter is read as an equal filter exactly when the filter is
readable. -/
theorem parse_text_iff_isReadable {filter : Filter} (wellFormed : filter.isWellFormed = true) :
    (∃ filter', parse filter.text = .ok (some filter') ∧ filter'.equal filter = true) ↔
      filter.isReadable = true := by
  constructor
  · rintro ⟨filter', read, same⟩
    exact isReadable_of_parse_text wellFormed read same
  · intro readable
    obtain ⟨filter', read, same⟩ := exists_parse_text wellFormed readable
    exact ⟨filter', read,
      Filter.equal_of_unplaced_eq same (Filter.isReadable_iff.mp readable).1⟩

def lone : Filter :=
  .condition ⟨"role", .equals, .string "in", none⟩

def accompanied : Filter :=
  .negation (.conjunction lone
    (.condition ⟨"tags", .notInList, .list [.string "a \"b\"", .boolean true], none⟩))

/-- The word `in` is misread where it stands alone, and reads back in company. -/
theorem parse_text_iff_isReadable_lone :
    (lone.isWellFormed = true ∧
      ¬ ∃ filter', parse lone.text = .ok (some filter') ∧ filter'.equal lone = true) ∧
    (accompanied.isWellFormed = true ∧
      ∃ filter', parse accompanied.text = .ok (some filter') ∧
        filter'.equal accompanied = true) :=
  ⟨⟨by decide, (parse_text_iff_isReadable (by decide)).not.mpr (by decide)⟩,
    ⟨by decide, (parse_text_iff_isReadable (by decide)).mpr (by decide)⟩⟩

end Query

end FilterBox
