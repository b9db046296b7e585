/-!
Stretches of a text, in bytes of its UTF-8 form.
-/

namespace FilterBox

/-- The bytes from `start` up to, but not including, `stop`. -/
structure Span where
  start : Nat
  stop : Nat
  deriving DecidableEq

namespace Span

def length (span : Span) : Nat :=
  span.stop - span.start

def isEmpty (span : Span) : Bool :=
  span.stop ≤ span.start

def cover (span other : Span) : Span :=
  ⟨min span.start other.start, max span.stop other.stop⟩

@[simp]
theorem isEmpty_iff_length_eq_zero (span : Span) : span.isEmpty = true ↔ span.length = 0 := by
  simp only [isEmpty, length, decide_eq_true_eq]
  omega

end Span

end FilterBox
