import FilterBox.Payload
import FilterBox.Proofs.Number.Quantity
import FilterBox.Proofs.Number.Written
import FilterBox.Proofs.Printing.Readable
import FilterBox.Proofs.Printing.Scalar
import FilterBox.Proofs.Removal.Matching
import FilterBox.Proofs.Value.Numbers
import Mathlib.Algebra.Order.BigOperators.Group.List

/-!
Values that go out in JSON and come back.

A value comes back as itself unless it holds a number that is not finite or a negative zero. Such a
number does not even come back as something with the same text, and texts decide which condition a
request means.
-/

namespace FilterBox

namespace Number

/-- Finite and not negative zero. -/
def isPlain (amount : Number) : Bool :=
  amount.isFinite && amount ≠ .signed true .zero

end Number

namespace Value

/-- Whether all numbers in the value are plain. -/
def isPlain (value : Value) : Bool :=
  value.scalars.all fun
    | .number amount => amount.isPlain
    | _ => true

/-- The value after it went out in JSON and came back. -/
def exchanged (value : Value) : Value :=
  ofJson value.toJson

end Value

namespace Number

theorem nearest_zero : Magnitude.nearest 0 1 = .zero :=
  Magnitude.nearest_eq_zero (by rw [Nat.zero_mul]; decide)

theorem ofInt_of_toInteger? {amount : Number} {whole : Int} (plain : amount ≠ .signed true .zero)
    (found : amount.toInteger? = some whole) : ofInt whole = amount := by
  cases amount with
  | nan => simp [toInteger?] at found
  | signed negative magnitude =>
      obtain ⟨count, quantity, _, rfl⟩ := signed_toInteger?_eq_some_iff.mp found
      have units := Magnitude.quantity_eq_natCast_iff.mp quantity
      have near : Magnitude.nearest count 1 = magnitude :=
        Magnitude.nearest_eq_self (by decide) (by rw [units, Nat.mul_one])
      cases negative with
      | false => simp [ofInt, near]
      | true =>
          -- With the sign only a positive count is the integer again.
          have nonzero : count ≠ 0 := by
            rintro rfl
            have zero : magnitude = .zero := near.symm.trans nearest_zero
            exact plain (by rw [zero])
          have positive : 0 < count := Nat.pos_of_ne_zero nonzero
          simp [ofInt, near, positive]

end Number

namespace Value

theorem exchanged_number {amount : Number} (plain : amount.isPlain = true) :
    exchanged (.number amount) = .number amount := by
  simp only [Number.isPlain, Bool.and_eq_true, decide_eq_true_eq] at plain
  simp only [exchanged, toJson, Number.toJson]
  cases integer : amount.toInteger? with
  | some whole => simp [ofJson, Number.ofInt_of_toInteger? plain.2 integer]
  | none => simp [plain.1, ofJson]

theorem exchanged_of_not_finite {amount : Number} (infinite : amount.isFinite = false) :
    exchanged (.number amount) = .string "" := by
  have goesOut : amount.toJson = .null := by
    simp [Number.toJson, Number.toInteger?_of_not_finite infinite, infinite]
  simp [exchanged, toJson, goesOut, ofJson]

theorem exchanged_negativeZero :
    exchanged (.number (.signed true .zero)) = .number (.signed false .zero) := by
  have integer : (Number.signed true .zero).toInteger? = some 0 := by decide +kernel
  simp [exchanged, toJson, Number.toJson, integer, ofJson, Number.ofInt, Number.nearest_zero]

theorem length_text_exchanged_number {amount : Number} (other : amount.isPlain = false) :
    (exchanged (.number amount)).text.length < amount.text.length := by
  rw [Number.isPlain, Bool.and_eq_false_iff] at other
  rcases other with infinite | negativeZero
  · rw [exchanged_of_not_finite infinite, text]
    rcases text_of_not_finite infinite with written | written | written <;> rw [written] <;> decide
  · obtain rfl : amount = .signed true .zero := by simpa using negativeZero
    rw [exchanged_negativeZero, text]
    decide +kernel

theorem exchanged_list (items : List Value) :
    exchanged (.list items) = .list (items.map exchanged) := by
  simp [exchanged, toJson, ofJson, Function.comp_def]

theorem exchanged_eq_self {value : Value}
    (plain : ∀ amount ∈ value.numbers, amount.isPlain = true) :
    value.exchanged = value := by
  induction value using nestingInduction with
  | string text => rfl
  | number amount => exact exchanged_number (by simpa using plain)
  | boolean flag => rfl
  | list items inductionHypothesis =>
      simp only [numbers_list, List.forall_mem_flatMap] at plain
      rw [exchanged_list, List.map_congr_left fun item member =>
        inductionHypothesis item member (plain item member), List.map_id']

theorem length_intercalate (separator : String) (texts : List String) :
    (separator.intercalate texts).length =
      (texts.map String.length).sum + separator.length * (texts.length - 1) := by
  induction texts with
  | nil => rfl
  | cons text texts inductionHypothesis =>
      cases texts with
      | nil => simp
      | cons next texts =>
          rw [String.intercalate_cons_cons]
          simp only [String.length_append, inductionHypothesis, List.map_cons, List.sum_cons,
            List.length_cons, Nat.add_sub_cancel, Nat.mul_succ]
          omega

theorem length_text_list (items : List Value) :
    (text (.list items)).length =
      (items.map fun item => item.text.length).sum + 2 * (items.length - 1) + 2 := by
  have separator : (", " : String).length = 2 := rfl
  simp only [text, itemTexts_eq_map, String.length_append, length_intercalate, List.map_map,
    List.length_map, separator, Function.comp_def]
  change 1 + _ + 1 = _
  omega

theorem length_text_exchanged_lt {value : Value}
    (other : ∃ amount ∈ value.numbers, amount.isPlain = false) :
    value.exchanged.text.length < value.text.length := by
  induction value using nestingInduction with
  | string text => simp at other
  | number amount => exact length_text_exchanged_number (by simpa using other)
  | boolean flag => simp at other
  | list items inductionHypothesis =>
      have shorter : ∀ item ∈ items, item.exchanged.text.length ≤ item.text.length := by
        intro item member
        by_cases plain : ∀ amount ∈ item.numbers, amount.isPlain = true
        · rw [exchanged_eq_self plain]
        · exact Nat.le_of_lt (inductionHypothesis item member (by simpa using plain))
      have someShorter : ∃ item ∈ items, item.exchanged.text.length < item.text.length := by
        simp only [numbers_list, List.mem_flatMap] at other
        obtain ⟨amount, ⟨item, member, inItem⟩, notPlain⟩ := other
        exact ⟨item, member, inductionHypothesis item member ⟨amount, inItem, notPlain⟩⟩
      have less := List.sum_lt_sum _ _ shorter someShorter
      rw [exchanged_list, length_text_list, length_text_list, List.map_map, List.length_map]
      change (items.map fun item => item.exchanged.text.length).sum + _ + _ < _
      omega

/-- Texts decide which condition a request means, so exactly the values of plain numbers still mean
theirs. -/
theorem looselyEqual_exchanged_iff {value : Value} :
    value.looselyEqual value.exchanged = true ↔
      ∀ amount ∈ value.numbers, amount.isPlain = true := by
  constructor
  · intro same
    by_contra plain
    have shorter := length_text_exchanged_lt (by simpa using plain)
    rw [← text_eq_of_looselyEqual same] at shorter
    exact Nat.lt_irrefl _ shorter
  · intro plain
    rw [exchanged_eq_self plain]
    exact looselyEqual_self value

theorem isPlain_iff {value : Value} (flat : ∀ scalar ∈ value.scalars, scalar.isList = false) :
    value.isPlain = true ↔ ∀ amount ∈ value.numbers, amount.isPlain = true := by
  cases value with
  | list items =>
      change ∀ item ∈ items, item.isList = false at flat
      rw [isPlain, List.all_eq_true, numbers_list, List.forall_mem_flatMap]
      refine forall₂_congr fun item member => ?_
      have scalar := flat item member
      cases item with
      | list inner => simp [isList] at scalar
      | _ => simp
  | _ => simp [isPlain, scalars]

end Value

end FilterBox
