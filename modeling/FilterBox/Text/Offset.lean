/-!
Places in a text, counted in the bytes of its UTF-8 form or in the code units of its UTF-16 form.
-/

namespace FilterBox.Text

-- The sum of no numbers is the core zero, whatever instances are in reach.
attribute [local instance (high)] Zero.ofOfNat0

/-- The length of the UTF-8 form. -/
def byteLength (text : List Char) : Nat :=
  (text.map Char.utf8Size).sum

@[simp]
theorem byteLength_nil : byteLength [] = 0 := rfl

@[simp]
theorem byteLength_cons (character : Char) (rest : List Char) :
    byteLength (character :: rest) = character.utf8Size + byteLength rest := by
  simp [byteLength]

@[simp]
theorem byteLength_append (left right : List Char) :
    byteLength (left ++ right) = byteLength left + byteLength right := by
  simp [byteLength]

/-- Code units of one character in UTF-16: two beyond the basic plane. -/
def unitSize (character : Char) : Nat :=
  if character.toNat < 0x10000 then 1 else 2

/-- The length of the UTF-16 form. -/
def unitLength (text : List Char) : Nat :=
  (text.map unitSize).sum

@[simp]
theorem unitLength_nil : unitLength [] = 0 := rfl

@[simp]
theorem unitLength_cons (character : Char) (rest : List Char) :
    unitLength (character :: rest) = unitSize character + unitLength rest := by
  simp [unitLength]

/-- The text cut in two at a byte offset, if a character begins or the text ends there. -/
def splitAt? : List Char → Nat → Option (List Char × List Char)
  | text, 0 => some ([], text)
  | [], _ + 1 => none
  | character :: rest, offset + 1 =>
      if character.utf8Size ≤ offset + 1 then
        (splitAt? rest (offset + 1 - character.utf8Size)).map fun (before, after) =>
          (character :: before, after)
      else
        none

@[simp]
theorem splitAt?_zero (text : List Char) : splitAt? text 0 = some ([], text) := by
  cases text <;> rfl

theorem splitAt?_append (before after : List Char) :
    splitAt? (before ++ after) (byteLength before) = some (before, after) := by
  induction before with
  | nil => exact splitAt?_zero after
  | cons character before inductionHypothesis =>
      have positive := character.utf8Size_pos
      obtain ⟨offset, size⟩ : ∃ offset, character.utf8Size + byteLength before = offset + 1 :=
        ⟨character.utf8Size + byteLength before - 1, by omega⟩
      have behind : offset + 1 - character.utf8Size = byteLength before := by omega
      rw [List.cons_append, byteLength_cons, size, splitAt?, if_pos (by omega), behind,
        inductionHypothesis, Option.map_some]

theorem eq_append_of_splitAt? {text before after : List Char} {offset : Nat}
    (found : splitAt? text offset = some (before, after)) :
    text = before ++ after ∧ byteLength before = offset := by
  fun_induction splitAt? text offset generalizing before with
  | case1 text =>
      obtain ⟨rfl, rfl⟩ := Prod.mk.inj (Option.some.inj found)
      exact ⟨rfl, rfl⟩
  | case2 => simp at found
  | case3 character rest offset fits inductionHypothesis =>
      obtain ⟨⟨front, back⟩, behind, same⟩ := Option.map_eq_some_iff.mp found
      obtain ⟨rfl, rfl⟩ := Prod.mk.inj same
      obtain ⟨rfl, size⟩ := inductionHypothesis behind
      refine ⟨rfl, ?_⟩
      rw [byteLength_cons]
      omega
  | case4 => simp at found

theorem splitAt?_eq_some_iff {text before after : List Char} {offset : Nat} :
    splitAt? text offset = some (before, after) ↔
      text = before ++ after ∧ byteLength before = offset := by
  constructor
  · exact eq_append_of_splitAt?
  · rintro ⟨rfl, rfl⟩
    exact splitAt?_append before after

/-- The part of the text between two byte offsets; none when they are out of order, out of range or
inside a character. -/
def slice? (text : List Char) (start stop : Nat) : Option (List Char) := do
  guard (start ≤ stop)
  let (_, after) ← splitAt? text start
  let (inside, _) ← splitAt? after (stop - start)
  return inside

/-- The UTF-16 offset of a byte offset: the code units of the characters that begin before it. -/
def unitOffset : List Char → Nat → Nat
  | _, 0 => 0
  | [], _ + 1 => 0
  | character :: rest, offset + 1 =>
      unitSize character + unitOffset rest (offset + 1 - character.utf8Size)

end FilterBox.Text
