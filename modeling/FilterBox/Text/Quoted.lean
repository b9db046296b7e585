/-!
Texts between quotes.

Only the quote itself can be escaped, by a backslash before it; any other backslash stands for
itself. So a text that ends in a backslash has no quoted form that reads back.
-/

namespace FilterBox.Text

def escapeQuotes (quote : Char) (text : List Char) : List Char :=
  text.flatMap fun character => if character = quote then ['\\', character] else [character]

def quoted (text : List Char) : List Char :=
  '"' :: escapeQuotes '"' text ++ ['"']

/-- A quoted text as read from behind its opening quote: its content, the number of characters
taken, and whether the closing quote was among them. -/
structure Quotation where
  content : List Char
  size : Nat
  closed : Bool
  deriving DecidableEq

namespace Quotation

/-- The quotation with one more character of content, written with the given number of
characters. -/
def push (character : Char) (size : Nat) (quotation : Quotation) : Quotation :=
  ⟨character :: quotation.content, quotation.size + size, quotation.closed⟩

/-- Reads up to the closing quote, or to the end of the text if there is none. -/
def read (quote : Char) : List Char → Quotation
  | [] => ⟨[], 0, false⟩
  | '\\' :: next :: rest =>
      if next = quote then (read quote rest).push quote 2
      else (read quote (next :: rest)).push '\\' 1
  | character :: rest =>
      if character = quote then ⟨[], 1, true⟩ else (read quote rest).push character 1

theorem size_read_le (quote : Char) (text : List Char) : (read quote text).size ≤ text.length := by
  fun_induction read quote text with
  | case1 => simp
  | case2 rest inductionHypothesis => simp [push]; omega
  | case3 next rest _ inductionHypothesis => simp [push] at inductionHypothesis ⊢; omega
  | case4 => simp
  | case5 character rest _ _ inductionHypothesis => simp [push]; omega

end Quotation

end FilterBox.Text
