import FilterBox.Proofs.Filter.Unplaced
import FilterBox.Proofs.Text.Place
import Mathlib.Data.List.Forall2

/-!
Where the conditions of a filter stand in its text.

The text is put together of the texts of the conditions, with connectives and parentheses around
them. `Filter.placedAt` gives every condition the place of its own text, wherever the whole stands
(`standsIn`).
-/

namespace FilterBox

open Text

namespace Condition

/-- The condition, read from its own text at an offset. -/
def placedAt (condition : Condition) (offset : Nat) : Condition :=
  { condition with span := some ⟨offset, offset + byteLength condition.text.toList⟩ }

/-- The placed condition is the other one, and its place in the whole text is that of the other's
text. -/
def StandsAs (whole : List Char) (placed condition : Condition) : Prop :=
  ∃ front back, whole = front ++ (condition.text.toList ++ back) ∧
    placed = condition.placedAt (byteLength front)

end Condition

namespace Filter

def groupText (filter : Filter) : List Char :=
  ['('] ++ (filter.text.toList ++ [')'])

/-- The text of the first operand, up to the second one. -/
def joinText (connective : Connective) (left : Filter) : List Char :=
  left.groupText ++ ([' '] ++ (connective.keyword.toList ++ [' ']))

/-- The text of two operands and what joins them. -/
def joinedText (connective : Connective) (left right : Filter) : List Char :=
  left.groupText ++ ([' '] ++ (connective.keyword.toList ++ [' '])) ++ right.groupText

theorem toList_text_conjunction (left right : Filter) :
    (conjunction left right).text.toList = joinedText .and left right := by
  simp [text, joinedText, groupText, Connective.keyword]

theorem toList_text_disjunction (left right : Filter) :
    (disjunction left right).text.toList = joinedText .or left right := by
  simp [text, joinedText, groupText, Connective.keyword]

theorem toList_text_negation (operand : Filter) :
    (negation operand).text.toList =
      (Connective.not.keyword.toList ++ [' ']) ++ operand.groupText := by
  simp [text, groupText, Connective.keyword]

/-- The filter, read from its own text at an offset. Every operand stands behind a parenthesis. -/
def placedAt : Filter → Nat → Filter
  | .condition leaf, offset => .condition (leaf.placedAt offset)
  | .conjunction left right, offset =>
      .conjunction (left.placedAt (offset + 1))
        (right.placedAt (offset + byteLength (left.joinText .and) + 1))
  | .disjunction left right, offset =>
      .disjunction (left.placedAt (offset + 1))
        (right.placedAt (offset + byteLength (left.joinText .or) + 1))
  | .negation operand, offset =>
      .negation
        (operand.placedAt (offset + byteLength (Connective.not.keyword.toList ++ [' ']) + 1))

theorem unplaced_placedAt (filter : Filter) (offset : Nat) :
    (filter.placedAt offset).unplaced = filter.unplaced := by
  induction filter generalizing offset with
  | condition leaf => rfl
  | conjunction left right leftHypothesis rightHypothesis =>
      simp only [placedAt, unplaced, leftHypothesis, rightHypothesis]
  | disjunction left right leftHypothesis rightHypothesis =>
      simp only [placedAt, unplaced, leftHypothesis, rightHypothesis]
  | negation operand inductionHypothesis => simp only [placedAt, unplaced, inductionHypothesis]

/-- Whether the conditions of the filter stand in the whole text as they do in its own text at an
offset. -/
def StandsIn (whole : List Char) (offset : Nat) (filter : Filter) : Prop :=
  List.Forall₂ (Condition.StandsAs whole) (filter.placedAt offset).leaves filter.leaves

variable {whole : List Char}

theorem standsIn_group {filter : Filter}
    (inner : ∀ before after, whole = before ++ (filter.text.toList ++ after) →
      filter.StandsIn whole (byteLength before))
    (before after : List Char) (parts : whole = before ++ (filter.groupText ++ after)) :
    filter.StandsIn whole (byteLength before + 1) := by
  have stands := inner (before ++ ['(']) (')' :: after) (by simp [parts, groupText])
  rwa [byteLength_append] at stands

theorem standsIn_joined {left right : Filter} (connective : Connective)
    (innerLeft : ∀ before after, whole = before ++ (left.text.toList ++ after) →
      left.StandsIn whole (byteLength before))
    (innerRight : ∀ before after, whole = before ++ (right.text.toList ++ after) →
      right.StandsIn whole (byteLength before))
    (before after : List Char)
    (parts : whole = before ++ (joinedText connective left right ++ after)) :
    left.StandsIn whole (byteLength before + 1) ∧
      right.StandsIn whole (byteLength before + byteLength (left.joinText connective) + 1) := by
  rw [joinedText] at parts
  constructor
  · exact standsIn_group innerLeft before
      ([' '] ++ (connective.keyword.toList ++ [' ']) ++ right.groupText ++ after) (by simp [parts])
  · rw [← byteLength_append]
    exact standsIn_group innerRight (before ++ left.joinText connective) after
      (by simp [parts, joinText])

theorem standsIn (filter : Filter) (before after : List Char)
    (parts : whole = before ++ (filter.text.toList ++ after)) :
    filter.StandsIn whole (byteLength before) := by
  induction filter generalizing before after with
  | condition leaf => exact .cons ⟨before, after, parts, rfl⟩ .nil
  | conjunction left right leftHypothesis rightHypothesis =>
      rw [toList_text_conjunction] at parts
      obtain ⟨standsLeft, standsRight⟩ :=
        standsIn_joined .and leftHypothesis rightHypothesis before after parts
      exact List.rel_append standsLeft standsRight
  | disjunction left right leftHypothesis rightHypothesis =>
      rw [toList_text_disjunction] at parts
      obtain ⟨standsLeft, standsRight⟩ :=
        standsIn_joined .or leftHypothesis rightHypothesis before after parts
      exact List.rel_append standsLeft standsRight
  | negation operand inductionHypothesis =>
      rw [toList_text_negation] at parts
      have stands := standsIn_group inductionHypothesis
        (before ++ (Connective.not.keyword.toList ++ [' '])) after (by simp [parts])
      rwa [byteLength_append] at stands

end Filter

end FilterBox
