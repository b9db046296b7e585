import FilterBox.Payload
import FilterBox.Proofs.Chip.Placement

/-!
The cards of a query show its conditions, one card for each.
-/

namespace FilterBox

namespace Query

/-- Whether a card shows a condition. -/
def Shows (card : Chip.Card) (leaf : Condition) : Prop :=
  card.field = leaf.field ∧ card.operator = leaf.operator ∧ card.value = leaf.value.toJson

theorem length_cards {query : String} {filter : Filter} (read : parse query = .ok (some filter)) :
    (cards query).length = filter.leaves.length := by
  obtain ⟨tokens, presents⟩ := exists_presents read
  have length := congrArg List.length presents.chips
  rwa [List.length_map, Filter.conditions_eq_leaves, ← List.length_map, ← cards] at length

theorem exists_card {query : String} {filter : Filter} (read : parse query = .ok (some filter))
    {leaf : Condition} (member : leaf ∈ filter.leaves) :
    ∃ card ∈ cards query, Shows card leaf := by
  obtain ⟨tokens, presents⟩ := exists_presents read
  rw [← Filter.conditions_eq_leaves, ← presents.chips] at member
  obtain ⟨chip, here, rfl⟩ := List.mem_map.mp member
  exact ⟨Chip.card query chip, List.mem_map_of_mem here, rfl, rfl, rfl⟩

theorem exists_leaf {query : String} {filter : Filter} (read : parse query = .ok (some filter))
    {card : Chip.Card} (shown : card ∈ cards query) :
    ∃ leaf ∈ filter.leaves, Shows card leaf := by
  obtain ⟨tokens, presents⟩ := exists_presents read
  obtain ⟨chip, here, rfl⟩ := List.mem_map.mp shown
  refine ⟨chip.condition, ?_, rfl, rfl, rfl⟩
  rw [← Filter.conditions_eq_leaves]
  exact presents.condition_mem here

end Query

end FilterBox
