import FilterBox.Proofs.Filter.Unplaced
import FilterBox.Proofs.Removal.Exchange
import Mathlib.Data.List.Forall2

/-!
What of a value survives the way out in JSON and back.

No finite number changes what it stands for on the way out. On the way back a value equals the one
that was sent unless it held a number that is not finite; loose comparison misses negative zeros as
well, since it sees their sign.
-/

namespace FilterBox.Value

/-- The form in which each value is sent. -/
inductive GoesOutAs : Value → Json → Prop where
  | string (text : String) : GoesOutAs (.string text) (.string text)
  | boolean (flag : Bool) : GoesOutAs (.boolean flag) (.bool flag)
  /-- A whole number of absolute value below 2^63 is the very integer. -/
  | whole {amount : Number} {whole : Int} :
      amount.quantity? = some (whole : ℚ) →
      whole.natAbs < 2 ^ (63 : Nat) →
      GoesOutAs (.number amount) (.integer whole)
  | other {amount : Number} :
      amount.isFinite = true →
      (∀ whole : Int, amount.quantity? = some (whole : ℚ) → 2 ^ (63 : Nat) ≤ whole.natAbs) →
      GoesOutAs (.number amount) (.number amount)
  | infinite {amount : Number} : amount.isFinite = false → GoesOutAs (.number amount) .null
  | list {items : List Value} {forms : List Json} :
      List.Forall₂ GoesOutAs items forms →
      GoesOutAs (.list items) (.array forms)

theorem goesOutAs_number (amount : Number) : GoesOutAs (.number amount) amount.toJson := by
  cases integer : amount.toInteger? with
  | some whole =>
      obtain ⟨quantity, small⟩ := Number.toInteger?_eq_some_iff.mp integer
      rw [Number.toJson, integer]
      exact .whole quantity small
  | none =>
      rw [Number.toJson, integer]
      by_cases finite : amount.isFinite = true
      · rw [if_pos finite]
        refine .other finite fun whole quantity => ?_
        by_contra small
        have found := Number.toInteger?_eq_some_iff.mpr ⟨quantity, Nat.lt_of_not_le small⟩
        simp [integer] at found
      · rw [if_neg finite]
        exact .infinite (Bool.eq_false_iff.mpr finite)

theorem toJson_of_goesOutAs_number {amount : Number} {json : Json}
    (sent : GoesOutAs (.number amount) json) : amount.toJson = json := by
  cases sent with
  | whole quantity small =>
      rw [Number.toJson, Number.toInteger?_eq_some_iff.mpr ⟨quantity, small⟩]
  | other finite large =>
      have noInteger : amount.toInteger? = none := by
        rw [Option.eq_none_iff_forall_ne_some]
        intro whole found
        obtain ⟨quantity, small⟩ := Number.toInteger?_eq_some_iff.mp found
        exact Nat.not_le.mpr small (large whole quantity)
      rw [Number.toJson, noInteger, if_pos finite]
  | infinite infinite =>
      rw [Number.toJson, Number.toInteger?_of_not_finite infinite, if_neg (by simp [infinite])]

theorem forall₂_goesOutAs_iff {items : List Value}
    (itemwise : ∀ item ∈ items, ∀ json, item.GoesOutAs json ↔ item.toJson = json)
    (forms : List Json) : List.Forall₂ GoesOutAs items forms ↔ items.map toJson = forms := by
  induction items generalizing forms with
  | nil => simp [eq_comm]
  | cons item items inductionHypothesis =>
      rw [List.forall_mem_cons] at itemwise
      cases forms with
      | nil => simp
      | cons form forms =>
          rw [List.forall₂_cons, itemwise.1, inductionHypothesis itemwise.2, List.map_cons,
            List.cons.injEq]

theorem goesOutAs_iff {value : Value} {json : Json} :
    value.GoesOutAs json ↔ value.toJson = json := by
  induction value using nestingInduction generalizing json with
  | string text =>
      refine ⟨fun sent => ?_, fun same => same ▸ .string text⟩
      cases sent
      rfl
  | number amount =>
      exact ⟨toJson_of_goesOutAs_number, fun same => same ▸ goesOutAs_number amount⟩
  | boolean flag =>
      refine ⟨fun sent => ?_, fun same => same ▸ .boolean flag⟩
      cases sent
      rfl
  | list items inductionHypothesis =>
      have forms := forall₂_goesOutAs_iff fun item member json => inductionHypothesis item member
      constructor
      · intro sent
        cases sent with
        | list sentItems => simp [toJson, (forms _).mp sentItems]
      · rintro rfl
        rw [toJson, itemsToJson_eq_map]
        exact .list ((forms _).mpr rfl)

theorem toJson_eq_null_iff {value : Value} :
    value.toJson = .null ↔ ∃ amount, value = .number amount ∧ amount.isFinite = false := by
  rw [← goesOutAs_iff]
  constructor
  · intro sent
    cases sent with
    | infinite infinite => exact ⟨_, rfl, infinite⟩
  · rintro ⟨amount, rfl, infinite⟩
    exact .infinite infinite

theorem equal_exchanged_number {amount : Number} :
    (exchanged (.number amount)).equal (.number amount) = true ↔ amount.isFinite = true := by
  by_cases finite : amount.isFinite = true
  · refine iff_of_true ?_ finite
    by_cases plain : amount.isPlain = true
    · rw [exchanged_number plain, equal]
      exact Number.equal_self finite
    · obtain rfl : amount = .signed true .zero := by simpa [Number.isPlain, finite] using plain
      rw [exchanged_negativeZero]
      decide
  · refine iff_of_false ?_ finite
    rw [exchanged_of_not_finite (Bool.eq_false_iff.mpr finite)]
    simp [equal]

theorem equalItems_exchanged_iff {items : List Value} :
    equalItems (items.map exchanged) items = true ↔
      ∀ item ∈ items, item.exchanged.equal item = true := by
  induction items with
  | nil => simp [equalItems]
  | cons item items inductionHypothesis => simp [equalItems, inductionHypothesis]

theorem equal_exchanged_iff {value : Value} :
    value.exchanged.equal value = true ↔ ∀ amount ∈ value.numbers, amount.isFinite = true := by
  induction value using nestingInduction with
  | string text => simp [exchanged, toJson, ofJson, equal]
  | number amount => rw [equal_exchanged_number, numbers_number, List.forall_mem_singleton]
  | boolean flag => simp [exchanged, toJson, ofJson, equal]
  | list items inductionHypothesis =>
      rw [exchanged_list, equal, equalItems_exchanged_iff, numbers_list, List.forall_mem_flatMap]
      exact forall₂_congr fun item member => inductionHypothesis item member

/-- Finite numbers keep what they stand for, and only numbers that are not finite become null. A
value comes back equal if its numbers are finite, and comes back loosely equal if no negative zero
is among them either. -/
theorem value_survives_exactly (value : Value) :
    (∀ json, value.GoesOutAs json ↔ value.toJson = json) ∧
    (value.toJson = .null ↔ ∃ amount, value = .number amount ∧ amount.isFinite = false) ∧
    ((ofJson value.toJson).equal value = true ↔
      ∀ amount ∈ value.numbers, amount.isFinite = true) ∧
    ((ofJson value.toJson).looselyEqual value = true ↔
      ∀ amount ∈ value.numbers, amount.isFinite = true ∧ amount ≠ .signed true .zero) := by
  refine ⟨fun json => goesOutAs_iff, toJson_eq_null_iff, equal_exchanged_iff, ?_⟩
  rw [looselyEqual_iff, eq_comm, ← looselyEqual_iff]
  refine looselyEqual_exchanged_iff.trans ?_
  simp [Number.isPlain]

end FilterBox.Value
