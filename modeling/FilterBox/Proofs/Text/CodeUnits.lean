import FilterBox.Proofs.Text.Place
import Mathlib.Order.Monotone.Basic

/-!
A text in UTF-16, and where its byte offsets come to lie there.

The offset of a byte counts the code units of the shortest beginning of the text that reaches the
byte. So between characters it is the length of what stands in front, and cutting the code units
where the offsets lie and encoding what is cut from the text give the same.
-/

namespace FilterBox.Text

/-- The code units of a character: beyond the basic plane a high and a low surrogate. -/
def charUnits (character : Char) : List UInt16 :=
  if character.toNat < 0x10000 then
    [.ofNat character.toNat]
  else
    [.ofNat (0xD800 + (character.toNat - 0x10000) / 0x400),
      .ofNat (0xDC00 + (character.toNat - 0x10000) % 0x400)]

/-- The UTF-16 form. -/
def codeUnits (text : List Char) : List UInt16 :=
  text.flatMap charUnits

theorem length_charUnits (character : Char) :
    (charUnits character).length = unitSize character := by
  unfold charUnits unitSize
  split <;> rfl

@[simp]
theorem codeUnits_nil : codeUnits [] = [] := rfl

@[simp]
theorem codeUnits_cons (character : Char) (rest : List Char) :
    codeUnits (character :: rest) = charUnits character ++ codeUnits rest :=
  List.flatMap_cons

@[simp]
theorem codeUnits_append (left right : List Char) :
    codeUnits (left ++ right) = codeUnits left ++ codeUnits right :=
  List.flatMap_append

@[simp]
theorem length_codeUnits (text : List Char) : (codeUnits text).length = unitLength text := by
  induction text with
  | nil => rfl
  | cons character rest inductionHypothesis =>
      rw [codeUnits_cons, List.length_append, length_charUnits, inductionHypothesis,
        unitLength_cons]

@[simp]
theorem unitLength_append (left right : List Char) :
    unitLength (left ++ right) = unitLength left + unitLength right := by
  rw [← length_codeUnits, codeUnits_append, List.length_append, length_codeUnits, length_codeUnits]

theorem unitSize_pos (character : Char) : 0 < unitSize character := by
  unfold unitSize
  split <;> decide

theorem unitLength_pos {text : List Char} (nonempty : text ≠ []) : 0 < unitLength text := by
  obtain ⟨character, rest, rfl⟩ := List.exists_cons_of_ne_nil nonempty
  have positive := unitSize_pos character
  rw [unitLength_cons]
  omega

theorem toNat_valid (character : Char) :
    character.toNat < 0xD800 ∨ (0xDFFF < character.toNat ∧ character.toNat < 0x110000) :=
  character.valid

theorem ofNat_inj_of_lt {number number' : Nat} (small : number < 0x10000)
    (small' : number' < 0x10000)
    (same : UInt16.ofNat number = UInt16.ofNat number') : number = number' := by
  have values := congrArg UInt16.toNat same
  rwa [UInt16.toNat_ofNat_of_lt' small, UInt16.toNat_ofNat_of_lt' small'] at values

theorem charUnits_append_inj {character character' : Char} {units units' : List UInt16}
    (same : charUnits character ++ units = charUnits character' ++ units') :
    character = character' ∧ units = units' := by
  have valid := toNat_valid character
  have valid' := toNat_valid character'
  unfold charUnits at same
  split at same <;> split at same
  next basic basic' =>
    obtain ⟨unit, rest⟩ := List.cons.inj same
    exact ⟨Char.toNat_inj.mp (ofNat_inj_of_lt basic basic' unit), rest⟩
  next basic beyond =>
    have unit := ofNat_inj_of_lt (by omega) (by omega) (List.cons.inj same).1
    omega
  next beyond basic =>
    have unit := ofNat_inj_of_lt (by omega) (by omega) (List.cons.inj same).1
    omega
  next beyond beyond' =>
    obtain ⟨high, others⟩ := List.cons.inj same
    obtain ⟨low, rest⟩ := List.cons.inj others
    have highs := ofNat_inj_of_lt (by omega) (by omega) high
    have lows := ofNat_inj_of_lt (by omega) (by omega) low
    exact ⟨Char.toNat_inj.mp (by omega), rest⟩

theorem charUnits_ne_nil (character : Char) : charUnits character ≠ [] := by
  rw [← List.length_pos_iff, length_charUnits]
  exact unitSize_pos character

/-- No two texts have the same UTF-16 form. -/
theorem codeUnits_injective : Function.Injective codeUnits := by
  intro text
  induction text with
  | nil =>
      intro text' same
      cases text' with
      | nil => rfl
      | cons character rest => simp [charUnits_ne_nil] at same
  | cons character rest inductionHypothesis =>
      intro text' same
      cases text' with
      | nil => simp [charUnits_ne_nil] at same
      | cons character' rest' =>
          rw [codeUnits_cons, codeUnits_cons] at same
          obtain ⟨rfl, others⟩ := charUnits_append_inj same
          rw [inductionHypothesis others]

example : codeUnits "ü😀".toList = [0xFC, 0xD83D, 0xDE00] := by decide

@[simp]
theorem unitOffset_zero (text : List Char) : unitOffset text 0 = 0 := by
  cases text <;> rfl

@[simp]
theorem unitOffset_nil (offset : Nat) : unitOffset [] offset = 0 := by
  cases offset <;> rfl

theorem unitOffset_cons_of_pos (character : Char) (rest : List Char) {offset : Nat}
    (positive : 0 < offset) : unitOffset (character :: rest) offset =
      unitSize character + unitOffset rest (offset - character.utf8Size) := by
  cases offset with
  | zero => omega
  | succ => rfl

theorem unitOffset_append (before after : List Char) (offset : Nat) :
    unitOffset (before ++ after) (byteLength before + offset) =
      unitLength before + unitOffset after offset := by
  induction before with
  | nil => simp
  | cons character rest inductionHypothesis =>
      have positive := character.utf8Size_pos
      have inside : character.utf8Size + byteLength rest + offset - character.utf8Size =
          byteLength rest + offset := by
        omega
      rw [List.cons_append, byteLength_cons, unitOffset_cons_of_pos _ _ (by omega), inside,
        inductionHypothesis, unitLength_cons, Nat.add_assoc]

theorem unitOffset_byteLength (before after : List Char) :
    unitOffset (before ++ after) (byteLength before) = unitLength before := by
  simpa using unitOffset_append before after 0

theorem unitOffset_inside (before : List Char) (character : Char) (after : List Char) {offset : Nat}
    (positive : 0 < offset) (inside : offset ≤ character.utf8Size) :
    unitOffset (before ++ character :: after) (byteLength before + offset) =
      unitLength (before ++ [character]) := by
  rw [unitOffset_append, unitOffset_cons_of_pos _ _ positive, Nat.sub_eq_zero_of_le inside]
  simp

theorem unitOffset_of_le {text : List Char} {offset : Nat} (beyond : byteLength text ≤ offset) :
    unitOffset text offset = unitLength text := by
  obtain ⟨more, rfl⟩ := Nat.exists_eq_add_of_le beyond
  simpa using unitOffset_append text [] more

theorem monotone_unitOffset (text : List Char) : Monotone (unitOffset text) := by
  induction text with
  | nil => exact fun _ _ _ => by simp
  | cons character rest inductionHypothesis =>
      intro offset offset' inOrder
      cases offset with
      | zero => simp
      | succ offset =>
          rw [unitOffset_cons_of_pos _ _ offset.succ_pos,
            unitOffset_cons_of_pos _ _ (Nat.lt_of_lt_of_le offset.succ_pos inOrder)]
          exact Nat.add_le_add_left (inductionHypothesis (Nat.sub_le_sub_right inOrder _)) _

theorem unitOffset_le (text : List Char) (offset : Nat) :
    unitOffset text offset ≤ unitLength text := by
  rw [← unitOffset_of_le (Nat.le_max_right offset (byteLength text))]
  exact monotone_unitOffset text (Nat.le_max_left ..)

theorem unitOffset_of_slice? {text source : List Char} {start stop : Nat}
    (cut : slice? text start stop = some source) :
    unitOffset text stop = unitOffset text start + unitLength source := by
  obtain ⟨before, after, rfl, rfl, rfl⟩ := slice?_eq_some_iff.mp cut
  rw [unitOffset_append, unitOffset_byteLength, unitOffset_byteLength]

theorem unitOffset_lt_of_slice? {text source : List Char} {start stop : Nat}
    (cut : slice? text start stop = some source) (nonempty : start < stop) :
    unitOffset text start < unitOffset text stop := by
  have visible : source ≠ [] := by
    rintro rfl
    obtain ⟨_, _, _, _, ends⟩ := slice?_eq_some_iff.mp cut
    simp only [byteLength_nil, Nat.add_zero] at ends
    omega
  have positive := unitLength_pos visible
  rw [unitOffset_of_slice? cut]
  omega

theorem extract_codeUnits {text source : List Char} {start stop : Nat}
    (cut : slice? text start stop = some source) :
    (codeUnits text).extract (unitOffset text start) (unitOffset text stop) = codeUnits source := by
  have ends := unitOffset_of_slice? cut
  obtain ⟨before, after, rfl, rfl, rfl⟩ := slice?_eq_some_iff.mp cut
  rw [ends, unitOffset_byteLength, ← length_codeUnits, ← length_codeUnits]
  simp [List.extract]

end FilterBox.Text
