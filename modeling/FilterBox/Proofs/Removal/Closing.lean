import FilterBox.Proofs.Printing.Normalization
import FilterBox.Proofs.Removal.Chips
import FilterBox.Proofs.Removal.Exchange
import FilterBox.Proofs.Removal.FirstMatch
import FilterBox.Session

/-!
Closing the chips of a query one after another.

A chip means the first condition like its own, so each closing takes one condition away; what is
left is printed and read again. As long as every condition reads back where it stands alone, only
values that JSON does not keep can stop a run of closings.
-/

namespace FilterBox

open Text

namespace Filter

theorem isReadable_of_alone {filter : Filter}
    (alone : ∀ leaf ∈ filter.leaves, (Filter.condition leaf).isReadable = true) :
    filter.isReadable = true := by
  refine isReadable_iff.mpr ⟨fun leaf member => ?_, ?_⟩
  · exact (isReadable_iff.mp (alone leaf member)).1 leaf (by simp [leaves])
  · cases filter with
    | condition leaf => exact (isReadable_iff.mp (alone leaf (by simp [leaves]))).2
    | _ => rfl

/-- What the conditions satisfy wherever they stand is shared by filters that agree up to places. -/
theorem forall_leaves_of_unplaced_eq (property : Condition → Prop)
    (placeless : ∀ leaf, property leaf.unplaced ↔ property leaf) {filter filter' : Filter}
    (same : filter'.unplaced = filter.unplaced)
    (satisfied : ∀ leaf ∈ filter.leaves, property leaf) :
    ∀ leaf ∈ filter'.leaves, property leaf := by
  have leaves := congrArg leaves same
  rw [leaves_unplaced, leaves_unplaced] at leaves
  intro leaf member
  have shared : leaf.unplaced ∈ filter.leaves.map Condition.unplaced :=
    leaves ▸ List.mem_map_of_mem member
  obtain ⟨other, otherMember, agrees⟩ := List.mem_map.mp shared
  rw [← placeless, ← agrees, placeless]
  exact satisfied other otherMember

theorem length_leaves_of_unplaced_eq {filter filter' : Filter}
    (same : filter'.unplaced = filter.unplaced) :
    filter'.leaves.length = filter.leaves.length := by
  have leaves := congrArg leaves same
  rw [leaves_unplaced, leaves_unplaced] at leaves
  simpa using congrArg List.length leaves

end Filter

namespace Query

def Closes (query query' : String) : Prop :=
  ∃ chip, Edit.apply query (.close chip) = .ok query'

/-- So many chips are closed, one after another. -/
inductive Closings : Nat → String → String → Prop where
  | none (query : String) : Closings 0 query query
  | close {count : Nat} {query query' query'' : String} :
      Closes query query' →
      Closings count query' query'' →
      Closings (count + 1) query query''

/-- Whichever chips are closed, each closing takes one of them away, and the last one leaves the
query empty. -/
def EmptiesOneByOne (query : String) (count : Nat) : Prop :=
  ∀ closed ≤ count, ∀ query', Closings closed query query' →
    (cards query').length = count - closed ∧ (closed = count → query' = "")

theorem apply_of_shows {query : String} {card : Chip.Card} {leaf : Condition}
    (shown : Shows card leaf) :
    RemovalRequest.apply ⟨query, card.field, card.operator.name, card.value⟩ =
      remove query leaf.field leaf.operator leaf.value.exchanged := by
  obtain ⟨field, operator, value⟩ := shown
  have named : Operator.ofText? leaf.operator.name = some leaf.operator := by
    cases leaf.operator <;> decide
  simp [RemovalRequest.apply, named, field, operator, value, Value.exchanged]

theorem closes_iff {query query' : String} {filter : Filter}
    (read : parse query = .ok (some filter)) :
    Closes query query' ↔ ∃ leaf ∈ filter.leaves,
      query' = remove query leaf.field leaf.operator leaf.value.exchanged := by
  constructor
  · rintro ⟨chip, closed⟩
    simp only [Edit.apply] at closed
    split at closed
    next card found =>
      obtain ⟨leaf, member, shown⟩ := exists_leaf read (List.mem_of_getElem? found)
      refine ⟨leaf, member, ?_⟩
      rw [← apply_of_shows shown]
      exact (Except.ok.inj closed).symm
    next => simp at closed
  · rintro ⟨leaf, member, rfl⟩
    obtain ⟨card, cardMember, shown⟩ := exists_card read member
    obtain ⟨chip, found⟩ := List.getElem?_of_mem cardMember
    refine ⟨chip, ?_⟩
    simp only [Edit.apply, found]
    rw [apply_of_shows shown]

theorem cards_empty : cards "" = [] := by
  have tokens : tokens "" = [Token.final 0] := congrArg Scan.tokens (Scan.go_nil .field 0)
  have blank : parse "" = .ok none := by
    rw [parse, tokens]
    rfl
  simp [cards, chips, blank]

/-- What is left of conditions that read back alone reads back, one condition fewer, each of which
reads back alone. -/
theorem exists_parse_rest {query : String} {filter rest : Filter}
    {isTarget : Condition → Bool} (read : parse query = .ok (some filter))
    (alone : 1 < filter.leaves.length →
      ∀ leaf ∈ filter.leaves, (Filter.condition leaf).isReadable = true)
    (found : filter.without? isTarget = some (some rest)) :
    (∀ leaf ∈ rest.leaves, leaf ∈ filter.leaves) ∧
      ∃ filter', parse rest.text = .ok (some filter') ∧ filter'.unplaced = rest.unplaced ∧
        filter'.leaves.length + 1 = filter.leaves.length ∧
        ∀ leaf ∈ filter'.leaves, (Filter.condition leaf).isReadable = true := by
  have length : rest.leaves.length + 1 = filter.leaves.length := Filter.length_leaves_without? found
  have positive := List.length_pos_iff.mpr rest.leaves_ne_nil
  have fewer : ∀ leaf ∈ rest.leaves, leaf ∈ filter.leaves := by
    intro leaf member
    have leaves := Filter.leaves_without? found
    simp only [Option.map_some, Option.getD_some] at leaves
    exact List.mem_of_mem_eraseP (leaves ▸ member)
  have aloneRest : ∀ leaf ∈ rest.leaves, (Filter.condition leaf).isReadable = true :=
    fun leaf member => alone (by omega) leaf (fewer leaf member)
  have wellFormed : rest.isWellFormed = true := by
    have whole := isWellFormed_of_parse read
    rw [Filter.isWellFormed, List.all_eq_true] at whole ⊢
    exact fun leaf member => whole leaf (fewer leaf member)
  obtain ⟨filter', readAgain, same⟩ :=
    exists_parse_text wellFormed (Filter.isReadable_of_alone aloneRest)
  refine ⟨fewer, filter', readAgain, same, ?_, ?_⟩
  · rw [Filter.length_leaves_of_unplaced_eq same, length]
  · exact Filter.forall_leaves_of_unplaced_eq
      (fun leaf => (Filter.condition leaf).isReadable = true)
      (fun _ => Iff.rfl) same aloneRest

theorem isPlain_iff {query : String} {filter : Filter} (read : parse query = .ok (some filter))
    {leaf : Condition} (member : leaf ∈ filter.leaves) :
    leaf.value.isPlain = true ↔ ∀ amount ∈ leaf.value.numbers, amount.isPlain = true := by
  apply Value.isPlain_iff
  have wellFormed := isWellFormed_of_parse read
  rw [Filter.isWellFormed, List.all_eq_true] at wellFormed
  obtain ⟨_, ⟨_, scalar⟩ | ⟨items, _, isItems, _, flat⟩⟩ :=
    Condition.cases_isWellFormed (wellFormed leaf member)
  · simpa [Value.scalars_of_scalar scalar] using scalar
  · rw [isItems]
    exact flat

/-- Closing a chip of plain conditions that read back alone leaves all but one of them, and nothing
in the place of the last one. -/
theorem closes_plain {query query' : String} {filter : Filter}
    (read : parse query = .ok (some filter))
    (alone : 1 < filter.leaves.length →
      ∀ leaf ∈ filter.leaves, (Filter.condition leaf).isReadable = true)
    (plain : ∀ leaf ∈ filter.leaves, leaf.value.isPlain = true) (closes : Closes query query') :
    (filter.leaves.length = 1 ∧ query' = "") ∨
      ∃ filter', parse query' = .ok (some filter') ∧
        filter'.leaves.length + 1 = filter.leaves.length ∧
        (∀ leaf ∈ filter'.leaves, (Filter.condition leaf).isReadable = true) ∧
        ∀ leaf ∈ filter'.leaves, leaf.value.isPlain = true := by
  obtain ⟨leaf, member, rfl⟩ := (closes_iff read).mp closes
  rw [Value.exchanged_eq_self ((isPlain_iff read member).mp (plain leaf member))]
  have target : Condition.isFor leaf.field leaf.operator leaf.value leaf = true := by
    simp [Condition.isFor, Value.looselyEqual_self]
  obtain ⟨rest?, found⟩ := Filter.exists_without?_iff.mpr ⟨leaf, member, target⟩
  rw [remove_of_parse read, found]
  cases rest? with
  | none => exact .inl ⟨(Filter.length_leaves_without? found).symm, rfl⟩
  | some rest =>
      obtain ⟨fewer, filter', readAgain, same, length, aloneAgain⟩ :=
        exists_parse_rest read alone found
      refine .inr ⟨filter', readAgain, length, aloneAgain, ?_⟩
      exact Filter.forall_leaves_of_unplaced_eq (fun leaf => leaf.value.isPlain = true)
        (fun _ => Iff.rfl) same fun leaf member => plain leaf (fewer leaf member)

theorem empties_of_isPlain {count : Nat} {query : String} {filter : Filter}
    (read : parse query = .ok (some filter)) (length : filter.leaves.length = count)
    (alone : 1 < filter.leaves.length →
      ∀ leaf ∈ filter.leaves, (Filter.condition leaf).isReadable = true)
    (plain : ∀ leaf ∈ filter.leaves, leaf.value.isPlain = true) : EmptiesOneByOne query count := by
  intro closed
  -- What is left after the first closing is again plain and reads back alone.
  induction closed generalizing count query filter with
  | zero =>
      rintro _ query' ⟨⟩
      have positive := List.length_pos_iff.mpr filter.leaves_ne_nil
      exact ⟨by rw [length_cards read, length, Nat.sub_zero], by omega⟩
  | succ closed inductionHypothesis =>
      rintro fits query' (_ | ⟨closes, later⟩)
      rcases closes_plain read alone plain closes with
        ⟨single, rfl⟩ | ⟨filter', readAgain, fewer, aloneAgain, plainAgain⟩
      · obtain rfl : closed = 0 := by omega
        obtain ⟨⟩ := later
        exact ⟨by rw [cards_empty]; simp; omega, fun _ => rfl⟩
      · have left : filter'.leaves.length = count - 1 := by omega
        obtain ⟨cards, ends⟩ := inductionHypothesis readAgain left (fun _ => aloneAgain) plainAgain
          (by omega) query' later
        exact ⟨by omega, fun same => ends (by omega)⟩

/-- The chip of a condition that is not plain never closes it. The closing leaves all as it is, or
the condition is among those that are left. -/
theorem closes_other {query : String} {filter : Filter} (read : parse query = .ok (some filter))
    (alone : 1 < filter.leaves.length →
      ∀ leaf ∈ filter.leaves, (Filter.condition leaf).isReadable = true)
    {leaf : Condition} (member : leaf ∈ filter.leaves) (other : leaf.value.isPlain = false) :
    ∃ query', Closes query query' ∧
      (query' = query ∨
        ∃ filter', parse query' = .ok (some filter') ∧
          filter'.leaves.length + 1 = filter.leaves.length ∧
          (∀ leaf ∈ filter'.leaves, (Filter.condition leaf).isReadable = true) ∧
          ∃ leaf ∈ filter'.leaves, leaf.value.isPlain = false) := by
  refine ⟨_, (closes_iff read).mpr ⟨leaf, member, rfl⟩, ?_⟩
  rw [remove_of_parse read]
  have changed : leaf.value.looselyEqual leaf.value.exchanged = false := by
    rw [Bool.eq_false_iff, ne_eq, Value.looselyEqual_exchanged_iff, ← isPlain_iff read member,
      other]
    decide
  have missed : Condition.isFor leaf.field leaf.operator leaf.value.exchanged leaf = false := by
    simp [Condition.isFor, changed]
  cases found : filter.without? (Condition.isFor leaf.field leaf.operator leaf.value.exchanged) with
  | none => exact .inl rfl
  | some rest =>
      have remains : leaf ∈ (rest.map Filter.leaves).getD [] := by
        rw [Filter.leaves_without? found]
        exact (List.mem_eraseP_of_neg (by simp [missed])).mpr member
      cases rest with
      | none => simp at remains
      | some rest =>
          obtain ⟨_, filter', readAgain, same, length, aloneAgain⟩ :=
            exists_parse_rest read alone found
          refine .inr ⟨filter', readAgain, length, aloneAgain, ?_⟩
          by_contra plain
          have allPlain : ∀ leaf ∈ filter'.leaves, leaf.value.isPlain = true := by
            simpa using plain
          have leafPlain := Filter.forall_leaves_of_unplaced_eq
            (fun leaf => leaf.value.isPlain = true) (fun _ => Iff.rfl) same.symm allPlain leaf
            remains
          simp [leafPlain] at other

/-- If all can be closed in any order, the conditions are plain: else the run that always closes the
chip of the same condition gets stuck. -/
theorem isPlain_of_empties {count : Nat} {query : String} {filter : Filter}
    (read : parse query = .ok (some filter)) (length : filter.leaves.length = count)
    (alone : 1 < filter.leaves.length →
      ∀ leaf ∈ filter.leaves, (Filter.condition leaf).isReadable = true)
    (empties : EmptiesOneByOne query count) :
    ∀ leaf ∈ filter.leaves, leaf.value.isPlain = true := by
  induction count generalizing query filter with
  | zero => simp [filter.leaves_ne_nil] at length
  | succ count inductionHypothesis =>
      by_contra stuck
      obtain ⟨leaf, member, other⟩ : ∃ leaf ∈ filter.leaves, leaf.value.isPlain = false := by
        simpa using stuck
      -- The same chip is closed again and again: the others may go, this one stays.
      obtain ⟨query', closes, outcome⟩ := closes_other read alone member other
      have fewer := (empties 1 (by omega) query' (.close closes (.none query'))).1
      rcases outcome with rfl | ⟨filter', readAgain, length', aloneAgain, leaf', member', other'⟩
      · rw [length_cards read] at fewer
        omega
      · have emptiesAgain : EmptiesOneByOne query' count := by
          intro closed fits query'' later
          obtain ⟨cards, ends⟩ := empties (closed + 1) (by omega) query'' (.close closes later)
          exact ⟨by omega, fun same => ends (by omega)⟩
        have plain := inductionHypothesis readAgain (by omega) (fun _ => aloneAgain) emptiesAgain
        simp [plain leaf' member'] at other'

/-- The chips of a query whose conditions read back where they stand alone can be closed one by one,
in any order, down to the empty query, exactly when no number in it is infinite or a negative zero.
A single condition need not read back. -/
theorem empties_iff_isPlain {query : String} {filter : Filter}
    (read : parse query = .ok (some filter))
    (alone : 1 < filter.leaves.length →
      ∀ leaf ∈ filter.leaves, (Filter.condition leaf).isReadable = true) :
    EmptiesOneByOne query filter.leaves.length ↔
      ∀ leaf ∈ filter.leaves, leaf.value.isPlain = true :=
  ⟨isPlain_of_empties read rfl alone, empties_of_isPlain read rfl alone⟩

def tagged : Filter :=
  .conjunction (.condition ⟨"service", .equals, .string "api", none⟩)
    (.negation (.condition ⟨"tags", .inList, .list [.string "a b", .boolean true], none⟩))

theorem empties_iff_isPlain_tagged :
    ∃ filter, parse tagged.text = .ok (some filter) ∧
      (∀ leaf ∈ filter.leaves, (Filter.condition leaf).isReadable = true) ∧
      EmptiesOneByOne tagged.text filter.leaves.length := by
  have wellFormed : tagged.isWellFormed = true := by decide
  obtain ⟨filter, read, same⟩ := exists_parse_text wellFormed (by decide)
  have alone := Filter.forall_leaves_of_unplaced_eq
    (fun leaf => (Filter.condition leaf).isReadable = true) (fun _ => Iff.rfl) same (by decide)
  have plain := Filter.forall_leaves_of_unplaced_eq
    (fun leaf => leaf.value.isPlain = true) (fun _ => Iff.rfl) same (by decide)
  exact ⟨filter, read, alone, (empties_iff_isPlain read fun _ => alone).mpr plain⟩

def negative : Filter :=
  .condition ⟨"a", .equals, .number (.signed true .zero), none⟩

/-- The chip of a negative zero cannot be closed, though the query holds no text that ends in a
backslash. -/
theorem negative_zero_is_stuck :
    ∃ filter, parse "a:-0" = .ok (some filter) ∧
      (∀ leaf ∈ filter.leaves, ∀ text, .string text ∈ leaf.value.scalars →
        ¬ (Value.needsQuotes text.toList = true ∧ text.toList.getLast? = some '\\')) ∧
      ¬ EmptiesOneByOne "a:-0" filter.leaves.length := by
  have written : negative.text = "a:-0" := by decide +kernel
  have wellFormed : negative.isWellFormed = true := by decide
  obtain ⟨filter, read, same⟩ := exists_parse_text wellFormed (by decide)
  rw [written] at read
  have negativeZero := Filter.forall_leaves_of_unplaced_eq
    (fun leaf => leaf.value = .number (.signed true .zero)) (fun _ => Iff.rfl) same
    (by simp [negative, Filter.leaves])
  have single : filter.leaves.length = 1 := Filter.length_leaves_of_unplaced_eq same
  refine ⟨filter, read, ?_, fun empties => ?_⟩
  · intro leaf member text isText
    simp [negativeZero leaf member, Value.scalars] at isText
  · have plain := isPlain_of_empties read rfl (by omega) empties
    obtain ⟨leaf, member⟩ := List.exists_mem_of_ne_nil _ filter.leaves_ne_nil
    have leafPlain := plain leaf member
    rw [negativeZero leaf member] at leafPlain
    exact absurd leafPlain (by decide)

end Query

end FilterBox
