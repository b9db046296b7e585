import FilterBox.Chip
import FilterBox.Proofs.Filter.Walk
import FilterBox.Proofs.Grammar.Stretches
import FilterBox.Proofs.Token.Accounting
import FilterBox.Proofs.Token.Scanned

/-!
The chips of a query are the conditions of its filter, in the order of the text.

Each condition covers a stretch of the query from its field to its value or to the end of its list,
and the stretches of two conditions do not meet. So no condition is left without a chip, and there
is nothing to sort.
-/

namespace FilterBox

open Text

/-- Whether the condition stands somewhere in a text of the given length in bytes. -/
def Condition.IsPlaced (size : Nat) (condition : Condition) : Prop :=
  ∃ span, condition.span = some span ∧ span.start < span.stop ∧ span.stop ≤ size

namespace Chip

def condition (chip : Chip) : Condition :=
  ⟨chip.field, chip.operator, chip.value, some chip.span⟩

theorem condition_eq_of_ofCondition? {size : Nat} {leaf : Condition} {chip : Chip}
    (made : ofCondition? size leaf = some chip) : chip.condition = leaf := by
  obtain ⟨span, here, guarded⟩ := Option.bind_eq_some_iff.mp made
  obtain ⟨_, _, same⟩ := Option.bind_eq_some_iff.mp guarded
  obtain rfl := Option.some.inj same
  rw [condition, ← here]

theorem exists_ofCondition? {size : Nat} {leaf : Condition} (placed : leaf.IsPlaced size) :
    ∃ chip, ofCondition? size leaf = some chip ∧ chip.condition = leaf := by
  obtain ⟨span, here, nonempty, ends⟩ := placed
  have visible : span.isEmpty = false := by
    simp only [Span.isEmpty, decide_eq_false_iff_not]
    omega
  have shown : (!span.isEmpty && decide (span.stop ≤ size)) = true := by simp [visible, ends]
  have made : ofCondition? size leaf = some ⟨leaf.field, leaf.operator, leaf.value, span⟩ := by
    rw [ofCondition?, here]
    exact congrArg (Option.bind · _) (if_pos shown)
  exact ⟨_, made, condition_eq_of_ofCondition? made⟩

theorem map_condition_filterMap {size : Nat} {leaves : List Condition}
    (placed : ∀ leaf ∈ leaves, leaf.IsPlaced size) :
    (leaves.filterMap (ofCondition? size)).map condition = leaves := by
  induction leaves with
  | nil => rfl
  | cons leaf leaves inductionHypothesis =>
      rw [List.forall_mem_cons] at placed
      obtain ⟨chip, made, same⟩ := exists_ofCondition? placed.1
      rw [List.filterMap_cons_some made, List.map_cons, same, inductionHypothesis placed.2]

theorem precedes_iff {chip later : Chip} : chip.condition.Precedes later.condition ↔
    chip.span.start < later.span.start ∧ chip.span.stop ≤ later.span.start := by
  constructor
  · rintro ⟨span, span', here, here', inOrder⟩
    obtain rfl := Option.some.inj here
    obtain rfl := Option.some.inj here'
    exact inOrder
  · exact fun inOrder => ⟨_, _, rfl, rfl, inOrder⟩

theorem mergeSort_eq {chips : List Chip}
    (ordered : (chips.map condition).Pairwise Condition.Precedes) :
    (chips.mergeSort fun chip chip' => chip.span.start ≤ chip'.span.start) = chips := by
  apply List.mergeSort_of_pairwise
  refine (List.pairwise_map.mp ordered).imp fun precedes => ?_
  exact decide_eq_true (Nat.le_of_lt (precedes_iff.mp precedes).1)

end Chip

theorem Scan.Layout.inOrder {mode : Mode} {offset : Nat} {text : List Char} {tokens : List Token}
    {diagnostics : List Diagnostic} (layout : Layout mode offset text tokens diagnostics) :
    Grammar.InOrder tokens :=
  ⟨fun token member => (layout.bounds token member).2.1, layout.ordered⟩

namespace Query

/-- How a query shows the conditions of its filter. -/
structure Presents (query : String) (filter : Filter) (tokens : List Token) : Prop where
  marked : Query.tokens query = tokens ++ [Token.final (byteLength query.toList)]
  /-- Each condition reaches from its field to its value or to the end of its list. -/
  stretches : Grammar.Stretches tokens filter.conditions
  /-- A condition covers a part of the text that is not empty and begins and ends between
  characters. -/
  covers : ∀ leaf ∈ filter.conditions, ∃ span source, leaf.span = some span ∧
    span.start < span.stop ∧ span.stop ≤ byteLength query.toList ∧
      slice? query.toList span.start span.stop = some source
  ordered : filter.conditions.Pairwise Condition.Precedes
  /-- There is one chip for each condition, in the same order. -/
  chips : (chips query).map Chip.condition = filter.conditions
  texts : ∀ chip ∈ Query.chips query, (chip.text? query).isSome = true
  /-- The service is the value of the first chip on that field. -/
  service : service? query =
    ((Query.chips query).find? fun chip => chip.field = "service").bind fun chip =>
      if chip.value.isList then none else some chip.value.text

theorem exists_slice {text : List Char} {tokens : List Token} {diagnostics : List Diagnostic}
    (layout : Scan.Layout .field 0 text tokens diagnostics) {leaves : List Condition}
    (stretches : Grammar.Stretches tokens leaves) :
    ∀ leaf ∈ leaves, ∃ span source, leaf.span = some span ∧ span.start < span.stop ∧
      span.stop ≤ byteLength text ∧ slice? text span.start span.stop = some source := by
  intro leaf member
  obtain ⟨first, isFirst, last, isLast, place, apart⟩ :=
    stretches.span_eq layout.inOrder leaf member
  obtain ⟨source, _, begins, _⟩ := layout.slice?_eq isFirst
  obtain ⟨source', _, ends, _⟩ := layout.slice?_eq isLast
  obtain ⟨middle, covered⟩ := slice?_of_slices begins ends apart
  have bounds := layout.bounds first isFirst
  have boundsLast := layout.bounds last isLast
  refine ⟨_, _, place, ?_, ?_, covered⟩
  · change first.span.start < last.span.stop
    omega
  · change last.span.stop ≤ byteLength text
    omega

theorem exists_isPlaced {text : List Char} {leaf : Condition}
    (covers : ∃ span source, leaf.span = some span ∧ span.start < span.stop ∧
      span.stop ≤ byteLength text ∧ slice? text span.start span.stop = some source) :
    leaf.IsPlaced (byteLength text) := by
  obtain ⟨span, _, place, nonempty, ends, _⟩ := covers
  exact ⟨span, place, nonempty, ends⟩

theorem map_condition_chips {query : String} {filter : Filter}
    (read : parse query = .ok (some filter))
    (placed : ∀ leaf ∈ filter.conditions, leaf.IsPlaced (byteLength query.toList))
    (ordered : filter.conditions.Pairwise Condition.Precedes) :
    (chips query).map Chip.condition = filter.conditions := by
  have made := Chip.map_condition_filterMap placed
  have sorted := Chip.mergeSort_eq (made ▸ ordered)
  simp only [chips, read, sorted, made]

theorem service?_eq {query : String} {filter : Filter} (read : parse query = .ok (some filter))
    (conditions : (chips query).map Chip.condition = filter.conditions) :
    service? query = ((chips query).find? fun chip => chip.field = "service").bind fun chip =>
      if chip.value.isList then none else some chip.value.text := by
  simp only [service?, read, Filter.find?_eq, ← conditions, List.find?_map, Option.map_map,
    Option.bind_map]
  rfl

theorem Presents.condition_mem {query : String} {filter : Filter} {tokens : List Token}
    (presents : Presents query filter tokens) {chip : Chip} (shown : chip ∈ Query.chips query) :
    chip.condition ∈ filter.conditions := by
  rw [← presents.chips]
  exact List.mem_map_of_mem shown

theorem exists_presents {query : String} {filter : Filter}
    (read : parse query = .ok (some filter)) : ∃ tokens, Presents query filter tokens := by
  obtain ⟨tokens, diagnostics, layout, marked, derived⟩ := exists_derivation read
  have stretches : Grammar.Stretches tokens filter.conditions := by
    rw [Filter.conditions_eq_leaves]
    exact derived.stretches layout.inOrder
  have covers := exists_slice layout stretches
  have ordered := stretches.precedes layout.inOrder
  have conditions := map_condition_chips read
    (fun leaf member => exists_isPlaced (covers leaf member)) ordered
  refine ⟨tokens, marked, stretches, covers, ordered, conditions, fun chip member => ?_,
    service?_eq read conditions⟩
  have leaf : chip.condition ∈ filter.conditions := by
    rw [← conditions]
    exact List.mem_map_of_mem member
  obtain ⟨span, source, place, _, _, covered⟩ := covers _ leaf
  obtain rfl := Option.some.inj place
  rw [Chip.text?, covered]
  rfl

theorem exists_filter_of_mem_chips {query : String} {chip : Chip} (shown : chip ∈ chips query) :
    ∃ filter, parse query = .ok (some filter) := by
  cases read : parse query with
  | error => simp [chips, read] at shown
  | ok result =>
      cases result with
      | none => simp [chips, read] at shown
      | some filter => exact ⟨filter, rfl⟩

theorem chips_eq_nil {query : String} (noFilter : ∀ filter, parse query ≠ .ok (some filter)) :
    chips query = [] ∧ service? query = none := by
  have nothing : chips query = [] := by
    rw [List.eq_nil_iff_forall_not_mem]
    intro chip shown
    obtain ⟨filter, read⟩ := exists_filter_of_mem_chips shown
    exact noFilter filter read
  refine ⟨nothing, ?_⟩
  unfold service?
  split
  next filter read => exact absurd read (noFilter filter)
  next => rfl

theorem chips_eq (query : String) :
    chips query = match parse query with
      | .ok (some filter) =>
          filter.conditions.filterMap (Chip.ofCondition? (byteLength query.toList))
      | _ => [] := by
  by_cases read : ∃ filter, parse query = .ok (some filter)
  · obtain ⟨filter, read⟩ := read
    obtain ⟨tokens, presents⟩ := exists_presents read
    have made := Chip.map_condition_filterMap fun leaf member =>
      exists_isPlaced (presents.covers leaf member)
    simp only [chips, read, Chip.mergeSort_eq (made ▸ presents.ordered)]
  · rw [(chips_eq_nil (not_exists.mp read)).1]
    split
    next filter found => exact absurd ⟨filter, found⟩ read
    next => rfl

/-- The chips of a query are the conditions of its filter. Without a filter there are no chips. -/
theorem chips_present (query : String) :
    (∀ filter, parse query = .ok (some filter) → ∃ tokens, Presents query filter tokens) ∧
      ((∀ filter, parse query ≠ .ok (some filter)) →
        chips query = [] ∧ service? query = none) :=
  ⟨fun _ => exists_presents, chips_eq_nil⟩

/-- Whether the query has a filter, as the machine decides it. -/
def hasFilter (query : String) : Bool :=
  match Parser.outcome (tokens query) with
  | .ok (some _) => true
  | _ => false

theorem hasFilter_iff {query : String} :
    hasFilter query = true ↔ ∃ filter, parse query = .ok (some filter) := by
  rw [parse, Filter.ofTokens_eq_outcome, hasFilter]
  split
  next filter read => simp [read]
  next other => simpa using other

/-- A list and a group stand before the service, with characters of two bytes. The other query
breaks off. -/
theorem chips_present_grouped :
    (∃ filter tokens,
      parse "(x:IN (\"ü\", b) OR service = 'y z') AND NOT service:>5" = .ok (some filter) ∧
        Presents "(x:IN (\"ü\", b) OR service = 'y z') AND NOT service:>5" filter tokens) ∧
    (∀ filter, parse "service:a AND (b" ≠ .ok (some filter)) ∧
      chips "service:a AND (b" = [] ∧ service? "service:a AND (b" = none := by
  obtain ⟨filter, read⟩ := hasFilter_iff.mp (by decide +kernel :
    hasFilter "(x:IN (\"ü\", b) OR service = 'y z') AND NOT service:>5" = true)
  have noFilter : ∀ filter, parse "service:a AND (b" ≠ .ok (some filter) := fun filter read =>
    absurd (hasFilter_iff.mpr ⟨filter, read⟩) (by decide +kernel)
  obtain ⟨tokens, presents⟩ := (chips_present _).1 filter read
  exact ⟨⟨filter, tokens, read, presents⟩, noFilter, (chips_present _).2 noFilter⟩

end Query

end FilterBox
