import FilterBox.Payload
import FilterBox.Proofs.Chip.Placement
import FilterBox.Proofs.Text.CodeUnits
import Mathlib.Data.List.Forall2

/-!
The chips of a query as they are sent out, with places in UTF-16.

The code units between the two places of a card are the UTF-16 form of the text that its chip
covers, counted in bytes. The stretches of the cards are not empty, and one lies behind the other.
-/

namespace FilterBox

open Text

/-- Whether a card marks in the UTF-16 form of a query the text of a chip, and no other text. -/
structure Chip.Card.Marks (query : String) (card : Card) (chip : Chip) : Prop where
  nonempty : card.startIndex < card.endIndex
  within : card.endIndex ≤ (codeUnits query.toList).length
  selects : ∃ source, chip.text? query = some source ∧ ∀ text : String,
    (codeUnits query.toList).extract card.startIndex card.endIndex = codeUnits text.toList ↔
      text = source

theorem Chip.marks_card {query : String} {chip : Chip} {source : List Char}
    (nonempty : chip.span.start < chip.span.stop)
    (covered : slice? query.toList chip.span.start chip.span.stop = some source) :
    (chip.card query).Marks query chip where
  nonempty := unitOffset_lt_of_slice? covered nonempty
  within := by
    rw [length_codeUnits]
    exact unitOffset_le ..
  selects := by
    refine ⟨String.ofList source, by rw [text?, covered]; rfl, fun text => ?_⟩
    have selected : (codeUnits query.toList).extract (chip.card query).startIndex
        (chip.card query).endIndex = codeUnits source := extract_codeUnits covered
    rw [selected, codeUnits_injective.eq_iff, eq_comm, ← String.toList_inj, String.toList_ofList]

namespace Query

theorem marks_card {query : String} {chip : Chip} (shown : chip ∈ chips query) :
    (chip.card query).Marks query chip := by
  obtain ⟨filter, read⟩ := exists_filter_of_mem_chips shown
  obtain ⟨tokens, presents⟩ := exists_presents read
  obtain ⟨span, source, place, nonempty, _, covered⟩ :=
    presents.covers _ (presents.condition_mem shown)
  obtain rfl : chip.span = span := Option.some.inj place
  exact Chip.marks_card nonempty covered

theorem Presents.chips_apart {query : String} {filter : Filter} {tokens : List Token}
    (presents : Presents query filter tokens) :
    (Query.chips query).Pairwise fun chip later => chip.span.stop ≤ later.span.start := by
  have ordered := presents.chips ▸ presents.ordered
  exact (List.pairwise_map.mp ordered).imp fun precedes => (Chip.precedes_iff.mp precedes).2

theorem chips_apart (query : String) :
    (chips query).Pairwise fun chip later => chip.span.stop ≤ later.span.start := by
  by_cases read : ∃ filter, parse query = .ok (some filter)
  · obtain ⟨filter, read⟩ := read
    obtain ⟨tokens, presents⟩ := exists_presents read
    exact presents.chips_apart
  · rw [(chips_eq_nil (not_exists.mp read)).1]
    exact .nil

/-- Each card marks the text of its chip in code units, and one card lies behind the other. For
every text, the offset in code units grows with the offset in bytes: between characters it is the
length of what stands in front, inside a character it counts the character, and behind the text it
stays at the end. -/
theorem cards_mark_chips (query : String) :
    List.Forall₂ (Chip.Card.Marks query) (cards query) (chips query) ∧
      (cards query).Pairwise (fun card later => card.endIndex ≤ later.startIndex) ∧
      ∀ text : List Char,
        Monotone (unitOffset text) ∧
        (∀ before after, text = before ++ after →
          unitOffset text (byteLength before) = (codeUnits before).length) ∧
        (∀ before character after offset, text = before ++ character :: after →
          byteLength before < offset → offset < byteLength before + character.utf8Size →
            unitOffset text offset = (codeUnits (before ++ [character])).length) ∧
        ∀ offset, byteLength text ≤ offset → unitOffset text offset = (codeUnits text).length := by
  refine ⟨?_, ?_, fun text => ⟨monotone_unitOffset text, ?_, ?_, ?_⟩⟩
  · rw [cards, List.forall₂_map_left_iff, List.forall₂_same]
    exact fun chip shown => marks_card shown
  · refine List.pairwise_map.mpr ((chips_apart query).imp fun apart => ?_)
    exact monotone_unitOffset query.toList apart
  · rintro before after rfl
    rw [unitOffset_byteLength, length_codeUnits]
  · rintro before character after offset rfl behind inside
    obtain ⟨extra, rfl⟩ := Nat.exists_eq_add_of_lt behind
    rw [Nat.add_assoc, unitOffset_inside before character after (by omega) (by omega),
      length_codeUnits]
  · intro offset beyond
    rw [unitOffset_of_le beyond, length_codeUnits]

/-- Characters of three bytes and one unit, of two bytes and one unit, and of four bytes and two
units stand before the ends of the chips. The last character begins at byte 6 of its chip, and byte
8 lies inside it. -/
theorem cards_mark_chips_emoji :
    (cards "name:日本語 AND city:'Zürich' OR emoji:😀").map
        (fun card => (card.startIndex, card.endIndex)) = [(0, 8), (13, 26), (30, 38)] ∧
      List.Forall₂ (Chip.Card.Marks "name:日本語 AND city:'Zürich' OR emoji:😀")
        (cards "name:日本語 AND city:'Zürich' OR emoji:😀")
        (chips "name:日本語 AND city:'Zürich' OR emoji:😀") ∧
      (cards "name:日本語 AND city:'Zürich' OR emoji:😀").Pairwise
        (fun card later => card.endIndex ≤ later.startIndex) ∧
      unitOffset "emoji:😀x".toList 6 = (codeUnits "emoji:".toList).length ∧
      unitOffset "emoji:😀x".toList 8 = (codeUnits "emoji:😀".toList).length ∧
      unitOffset "emoji:😀x".toList 100 = (codeUnits "emoji:😀x".toList).length := by
  obtain ⟨marks, apart, offsets⟩ := cards_mark_chips "name:日本語 AND city:'Zürich' OR emoji:😀"
  obtain ⟨_, between, inside, beyond⟩ := offsets "emoji:😀x".toList
  have places : (cards "name:日本語 AND city:'Zürich' OR emoji:😀").map
      (fun card => (card.startIndex, card.endIndex)) = [(0, 8), (13, 26), (30, 38)] := by
    rw [cards, chips_eq, parse_eq_outcome]
    decide +kernel
  exact ⟨places, marks, apart,
    between "emoji:".toList "😀x".toList (by decide +kernel),
    inside "emoji:".toList '😀' ['x'] 8 (by decide +kernel) (by decide +kernel) (by decide +kernel),
    beyond 100 (by decide +kernel)⟩

end Query

end FilterBox
