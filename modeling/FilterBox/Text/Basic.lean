/-!
Characters and plain texts: blanks, controls, trimming, words, and comparison of a text with a
capitalised word whatever the case of its letters.
-/

namespace FilterBox.Text

/-- The Unicode property White_Space. -/
def isSpace (character : Char) : Bool :=
  let code := character.toNat
  (0x09 ≤ code && code ≤ 0x0D) || code = 0x20 || code = 0x85 || code = 0xA0 || code = 0x1680 ||
    (0x2000 ≤ code && code ≤ 0x200A) || code = 0x2028 || code = 0x2029 || code = 0x202F ||
    code = 0x205F || code = 0x3000

/-- The Unicode category Cc. -/
def isControl (character : Char) : Bool :=
  character.toNat ≤ 0x1F || (0x7F ≤ character.toNat && character.toNat ≤ 0x9F)

def trimEnd : List Char → List Char
  | [] => []
  | character :: rest =>
      match trimEnd rest with
      | [] => if isSpace character then [] else [character]
      | kept => character :: kept

def trim (text : List Char) : List Char :=
  trimEnd (text.dropWhile isSpace)

@[simp]
theorem trimEnd_nil : trimEnd [] = [] := rfl

theorem trimEnd_eq_nil_iff {text : List Char} :
    trimEnd text = [] ↔ ∀ character ∈ text, isSpace character = true := by
  induction text with
  | nil => simp
  | cons character rest inductionHypothesis =>
      cases tail : trimEnd rest with
      | nil =>
          have blank := inductionHypothesis.mp tail
          by_cases space : isSpace character = true
          · simpa [trimEnd, tail, space] using blank
          · simp [trimEnd, tail, space]
      | cons head kept =>
          have visible : ¬ ∀ other ∈ rest, isSpace other = true := fun blank => by
            simp [inductionHypothesis.mpr blank] at tail
          simp only [trimEnd, tail, List.mem_cons, forall_eq_or_imp]
          exact ⟨fun impossible => by simp at impossible,
            fun blank => absurd blank.2 visible⟩

def words (text : List Char) : List (List Char) :=
  (text.splitOnP isSpace).filter fun word => !word.isEmpty

/-- Whether the text is the given word, written in capitals, in whatever ASCII case. -/
def spells (word : String) (text : List Char) : Bool :=
  text.map Char.toUpper == word.toList

/-- Whether the text is over, or goes on with a character of the given class. -/
def endsAt (boundary : Char → Bool) : List Char → Bool
  | [] => true
  | character :: _ => boundary character

@[simp]
theorem endsAt_nil (boundary : Char → Bool) : endsAt boundary [] = true := rfl

@[simp]
theorem endsAt_cons (boundary : Char → Bool) (character : Char) (rest : List Char) :
    endsAt boundary (character :: rest) = boundary character := rfl

end FilterBox.Text
