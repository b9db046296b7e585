import FilterBox.Text.Offset

/-!
Which characters stand where in a text, and which stretches of it can be cut out.
-/

namespace FilterBox.Text

/-- In a text that begins at an offset, the character stands at a place. -/
def StandsAt (offset : Nat) (text : List Char) (place : Nat) (character : Char) : Prop :=
  ∃ before after, text = before ++ character :: after ∧ offset + byteLength before = place

theorem byteLength_pos {text : List Char} (nonempty : text ≠ []) : 0 < byteLength text := by
  obtain ⟨character, rest, rfl⟩ := List.exists_cons_of_ne_nil nonempty
  have positive := character.utf8Size_pos
  rw [byteLength_cons]
  omega

theorem eq_nil_of_byteLength {text : List Char} (nothing : byteLength text = 0) : text = [] := by
  cases text with
  | nil => rfl
  | cons character rest =>
      have positive := byteLength_pos (List.cons_ne_nil character rest)
      omega

theorem StandsAt.bounds {offset place : Nat} {text : List Char} {character : Char}
    (stands : StandsAt offset text place character) :
    offset ≤ place ∧ place < offset + byteLength text := by
  obtain ⟨before, after, rfl, rfl⟩ := stands
  have positive := character.utf8Size_pos
  simp only [byteLength_append, byteLength_cons]
  omega

theorem StandsAt.mem {offset place : Nat} {text : List Char} {character : Char}
    (stands : StandsAt offset text place character) : character ∈ text := by
  obtain ⟨before, after, rfl, _⟩ := stands
  simp

theorem standsAt_append_iff {offset place : Nat} {front back : List Char} {character : Char} :
    StandsAt offset (front ++ back) place character ↔
      StandsAt offset front place character ∨
        StandsAt (offset + byteLength front) back place character := by
  constructor
  · rintro ⟨before, after, parts, rfl⟩
    rcases List.append_eq_append_iff.mp parts with ⟨middle, rfl, rfl⟩ | ⟨middle, rfl, behind⟩
    · exact .inr ⟨middle, after, rfl, by rw [byteLength_append]; omega⟩
    · cases middle with
      | nil => exact .inr ⟨[], after, by simpa using behind.symm, by simp⟩
      | cons first later =>
          obtain ⟨rfl, rfl⟩ := List.cons.inj behind
          exact .inl ⟨before, later, rfl, rfl⟩
  · rintro (⟨before, after, rfl, rfl⟩ | ⟨before, after, rfl, rfl⟩)
    · exact ⟨before, after ++ back, by simp, rfl⟩
    · exact ⟨front ++ before, after, by simp, by rw [byteLength_append]; omega⟩

theorem standsAt_cons_iff {offset place : Nat} {first : Char} {rest : List Char}
    {character : Char} :
    StandsAt offset (first :: rest) place character ↔
      (character = first ∧ place = offset) ∨
        StandsAt (offset + first.utf8Size) rest place character := by
  constructor
  · rintro ⟨before, after, parts, rfl⟩
    cases before with
    | nil => exact .inl ⟨(List.cons.inj parts).1.symm, rfl⟩
    | cons head before =>
        obtain ⟨rfl, rfl⟩ := List.cons.inj parts
        exact .inr ⟨before, after, rfl, by rw [byteLength_cons]; omega⟩
  · rintro (⟨rfl, rfl⟩ | ⟨before, after, rfl, rfl⟩)
    · exact ⟨[], rest, rfl, rfl⟩
    · exact ⟨first :: before, after, rfl, by rw [byteLength_cons]; omega⟩

@[simp]
theorem not_standsAt_nil (offset place : Nat) (character : Char) :
    ¬ StandsAt offset [] place character := by
  rintro ⟨before, after, parts, _⟩
  simp at parts

theorem slice?_of_le {text : List Char} {start stop : Nat} (ordered : start ≤ stop) :
    slice? text start stop =
      (splitAt? text start).bind fun parts =>
        (splitAt? parts.2 (stop - start)).bind fun inner => some inner.1 :=
  congrArg (Option.bind · _) (if_pos ordered)

theorem slice?_of_lt {text : List Char} {start stop : Nat} (reversed : stop < start) :
    slice? text start stop = none :=
  congrArg (Option.bind · _) (if_neg (Nat.not_le.mpr reversed))

theorem slice?_eq_some_iff {text source : List Char} {start stop : Nat} :
    slice? text start stop = some source ↔
      ∃ before after, text = before ++ (source ++ after) ∧ byteLength before = start ∧
        start + byteLength source = stop := by
  rcases Nat.lt_or_ge stop start with reversed | ordered
  · rw [slice?_of_lt reversed]
    constructor
    · intro impossible
      simp at impossible
    · rintro ⟨before, after, _, _, ends⟩
      omega
  · simp only [slice?_of_le ordered, Option.bind_eq_some_iff, Option.some.injEq, Prod.exists,
      splitAt?_eq_some_iff]
    constructor
    · rintro ⟨before, behind, ⟨rfl, rfl⟩, inside, after, ⟨rfl, size⟩, rfl⟩
      exact ⟨before, after, rfl, rfl, by omega⟩
    · rintro ⟨before, after, rfl, rfl, rfl⟩
      exact ⟨before, source ++ after, ⟨rfl, rfl⟩, source, after, ⟨rfl, by omega⟩, rfl⟩

theorem prefix_of_byteLength_le {text front front' : List Char} (begins : front <+: text)
    (begins' : front' <+: text) (shorter : byteLength front ≤ byteLength front') :
    front <+: front' := by
  rcases List.prefix_or_prefix_of_prefix begins begins' with inFront | ⟨middle, rfl⟩
  · exact inFront
  · rw [byteLength_append] at shorter
    obtain rfl : middle = [] := eq_nil_of_byteLength (by omega)
    exact ⟨[], by simp⟩

theorem append_inj_of_byteLength {front front' back back' : List Char}
    (same : front ++ back = front' ++ back') (size : byteLength front = byteLength front') :
    front = front' ∧ back = back' := by
  rcases List.append_eq_append_iff.mp same with ⟨middle, rfl, rfl⟩ | ⟨middle, rfl, rfl⟩
  · rw [byteLength_append] at size
    obtain rfl : middle = [] := eq_nil_of_byteLength (by omega)
    exact ⟨by simp, rfl⟩
  · rw [byteLength_append] at size
    obtain rfl : middle = [] := eq_nil_of_byteLength (by omega)
    exact ⟨by simp, rfl⟩

/-- What begins with one stretch of a text and ends with a later one is a stretch as well. -/
theorem slice?_of_slices {text source source' : List Char} {start stop start' stop' : Nat}
    (first : slice? text start stop = some source) (last : slice? text start' stop' = some source')
    (inOrder : stop ≤ start') :
    ∃ middle, slice? text start stop' = some (source ++ (middle ++ source')) := by
  obtain ⟨before, after, whole, rfl, rfl⟩ := slice?_eq_some_iff.mp first
  obtain ⟨before', after', whole', rfl, rfl⟩ := slice?_eq_some_iff.mp last
  have begins : before ++ source <+: text := ⟨after, by rw [whole, List.append_assoc]⟩
  have begins' : before' <+: text := ⟨source' ++ after', whole'.symm⟩
  obtain ⟨middle, rfl⟩ := prefix_of_byteLength_le begins begins'
    (by rw [byteLength_append]; exact inOrder)
  refine ⟨middle, slice?_eq_some_iff.mpr ⟨before, after', ?_, rfl, ?_⟩⟩
  · rw [whole']
    simp only [List.append_assoc]
  · simp only [byteLength_append]
    omega

end FilterBox.Text
