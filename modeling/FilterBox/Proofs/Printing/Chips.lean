import FilterBox.Payload
import FilterBox.Proofs.Chip.Placement
import FilterBox.Proofs.Printing.RoundTrip

/-!
The chips of a printed filter.

What is printed reads back with every condition at the place where it was written. So in its own
text a filter has one chip for each condition, which covers the text of the condition and is
labelled with it (`chips_printed`).
-/

namespace FilterBox

open Text

namespace Chip

/-- The chip has the field, the operator and the value of the condition. It covers the text of the
condition in the query, and this is its label as well. -/
structure Shows (query : String) (chip : Chip) (leaf : Condition) : Prop where
  field : chip.field = leaf.field
  operator : chip.operator = leaf.operator
  value : chip.value = leaf.value
  text : chip.text? query = some leaf.text
  label : (chip.card query).label = leaf.text

theorem shows_of_standsAs {query : String} {chip : Chip} {leaf : Condition}
    (stands : chip.condition.StandsAs query.toList leaf) : chip.Shows query leaf := by
  obtain ⟨front, back, whole, placed⟩ := stands
  obtain ⟨field, operator, value, span⟩ := chip
  obtain ⟨rfl, rfl, rfl, rfl⟩ : field = leaf.field ∧ operator = leaf.operator ∧ value = leaf.value ∧
      span = ⟨byteLength front, byteLength front + byteLength leaf.text.toList⟩ := by
    simpa [condition, Condition.placedAt] using placed
  have covered : slice? query.toList (byteLength front)
      (byteLength front + byteLength leaf.text.toList) = some leaf.text.toList :=
    slice?_eq_some_iff.mpr ⟨front, back, whole, rfl, rfl⟩
  exact ⟨rfl, rfl, rfl, by rw [text?, covered, Option.map_some, String.ofList_toList], rfl⟩

end Chip

namespace Query

/-- If the text of a well-formed filter reads back as an equal filter, the chips in this text show
the conditions of the filter one by one, and the cards are labelled with the texts of the
conditions. -/
theorem chips_printed (filter filter' : Filter) (wellFormed : filter.isWellFormed = true)
    (read : parse filter.text = .ok (some filter')) (same : filter'.equal filter = true) :
    List.Forall₂ (Chip.Shows filter.text) (chips filter.text) filter.conditions ∧
      (cards filter.text).map Chip.Card.label = filter.conditions.map Condition.text := by
  have readable := isReadable_of_parse_text wellFormed read same
  obtain ⟨_, presents⟩ := exists_presents (parse_text wellFormed readable)
  have stands : filter.StandsIn filter.text.toList 0 := filter.standsIn [] [] (by simp)
  rw [Filter.StandsIn, ← Filter.conditions_eq_leaves, ← Filter.conditions_eq_leaves,
    ← presents.chips, List.forall₂_map_left_iff] at stands
  have shown := stands.imp fun chip leaf => Chip.shows_of_standsAs
  refine ⟨shown, ?_⟩
  rw [cards, List.map_map, ← List.forall₂_eq_eq_eq, List.forall₂_map_left_iff,
    List.forall₂_map_right_iff]
  exact shown.imp fun chip leaf shows => shows.label

/-- Behind a list with a character of two bytes and an escaped quote stands a word that would be an
operator in front of the end. -/
theorem chips_printed_list :
    let filter : Filter := .disjunction
      (.negation (.condition ⟨"tags", .notInList, .list [.string "ü \"b", .boolean true], none⟩))
      (.condition ⟨"role", .equals, .string "in", none⟩)
    filter.isWellFormed = true ∧ parse filter.text = .ok (some (filter.placedAt 0)) ∧
      (filter.placedAt 0).equal filter = true ∧
      List.Forall₂ (Chip.Shows filter.text) (chips filter.text) filter.conditions ∧
      (cards filter.text).map Chip.Card.label =
        ["tags:NOT IN (\"ü \\\"b\", true)", "role:in"] := by
  intro filter
  have wellFormed : filter.isWellFormed = true := by decide
  have read := parse_text wellFormed (by decide)
  have same : (filter.placedAt 0).equal filter = true := by decide
  obtain ⟨shown, labels⟩ := chips_printed filter _ wellFormed read same
  refine ⟨wellFormed, read, same, shown, labels.trans ?_⟩
  rw [Filter.conditions_eq_leaves]
  decide

end Query

end FilterBox
