import FilterBox.Proofs.Printing.Atoms
import FilterBox.Proofs.Printing.Places
import FilterBox.Proofs.Printing.Stretches

/-!
Reading back the text of one condition.

In front of the end of its expression a readable condition is read as itself. Any other condition
gives tokens that clash with it.
-/

namespace FilterBox

open Text Lexeme Scan

theorem Grammar.Items.cons {token comma : Token} {tokens : List Token} {items : List Value}
    (isValue : token.kind = .value) (isComma : comma.kind = .comma)
    (derived : Items tokens items) :
    Items (token :: comma :: tokens) (token.value :: items) := by
  induction derived with
  | one isLast => exact .more (.one isValue) isComma isLast
  | more _ isSeparator isLast inductionHypothesis =>
      exact .more inductionHypothesis isSeparator isLast

theorem Scan.Reads.clash {mode next : Mode} {offset : Nat} {text rest : List Char}
    {tokens : List Token} {expected : List Atom} (read : Reads mode offset text tokens next rest)
    (before : List Atom) (count : (tokens.filterMap Token.atom?).length = before.length)
    (clash : Atom.Clash
      ((go next (offset + byteLength text) rest).tokens.filterMap Token.atom?) expected) :
    Atom.Clash ((go mode offset (text ++ rest)).tokens.filterMap Token.atom?)
      (before ++ expected) := by
  rw [read, List.filterMap_append]
  exact clash.append_left count

namespace Value

theorem misreads_clash {value : Value} (scalar : value.isList = false)
    (unreadable : value.isReadable = false) {mode : Mode} (expected : mode ≠ .field)
    {rest : List Char} (ends : endsAt endsValue rest = true) (offset : Nat) (more : List Atom) :
    Atom.Clash
      ((go mode offset (value.queryText.toList ++ rest)).tokens.filterMap Token.atom?)
      (.value value :: more) := by
  obtain ⟨token, later, tokens, kind, differs⟩ := misreads scalar unreadable expected ends offset
  have atom : token.atom? = some (.value token.value) := by simp [Token.atom?, kind]
  rw [tokens, List.filterMap_cons_some atom]
  exact .here differs

def itemsText (items : List Value) : List Char :=
  [',', ' '].intercalate (items.map fun item => item.queryText.toList)

theorem itemsText_singleton (item : Value) : itemsText [item] = item.queryText.toList := by
  simp [itemsText]

theorem itemsText_cons_cons (item next : Value) (items : List Value) :
    itemsText (item :: next :: items) =
      item.queryText.toList ++ [',', ' '] ++ itemsText (next :: items) := by
  simp only [itemsText, List.map_cons, List.intercalate_cons_cons]

theorem queryText_list (items : List Value) :
    (queryText (.list items)).toList = ['('] ++ (itemsText items ++ [')']) := by
  simp [queryText, itemsText, Function.comp_def]

theorem reads_separated {item : Value} (scalar : item.isList = false)
    (readable : item.isReadable = true) (rest : List Char) (offset : Nat) :
    ∃ token comma : Token,
      Reads .item offset (item.queryText.toList ++ [',', ' ']) [token, comma] .item rest ∧
        token.kind = .value ∧ token.value = item ∧ comma.kind = .comma := by
  have ends : endsAt endsValue ([',', ' '] ++ rest) = true := rfl
  obtain ⟨token, read, kind, value, _⟩ := reads scalar readable .item (by decide) ends offset
  obtain ⟨comma, readComma, commaKind⟩ :=
    Reads.comma ([' '] ++ rest) (offset + byteLength item.queryText.toList)
  exact ⟨token, comma, read.append (readComma.append (Reads.space ..)), kind, value, commaKind⟩

theorem reads_items {items : List Value} (nonempty : items ≠ [])
    (scalar : ∀ item ∈ items, item.isList = false)
    (readable : ∀ item ∈ items, item.isReadable = true) (rest : List Char) (offset : Nat) :
    ∃ tokens, Reads .item offset (itemsText items) tokens .item (')' :: rest) ∧
      Grammar.Items tokens items := by
  induction items generalizing offset with
  | nil => simp at nonempty
  | cons item items inductionHypothesis =>
      rw [List.forall_mem_cons] at scalar readable
      cases items with
      | nil =>
          have ends : endsAt endsValue (')' :: rest) = true := rfl
          obtain ⟨token, read, kind, value, _⟩ :=
            reads scalar.1 readable.1 .item (by decide) ends offset
          rw [itemsText_singleton]
          exact ⟨[token], read, value ▸ .one kind⟩
      | cons next items =>
          obtain ⟨token, comma, read, kind, value, commaKind⟩ :=
            reads_separated scalar.1 readable.1 (itemsText (next :: items) ++ ')' :: rest) offset
          obtain ⟨tokens, readLater, derived⟩ := inductionHypothesis (by simp) scalar.2 readable.2 _
          rw [itemsText_cons_cons]
          exact ⟨[token, comma] ++ tokens, read.append readLater,
            value ▸ derived.cons kind commaKind⟩

theorem misreads_items {items : List Value} (scalar : ∀ item ∈ items, item.isList = false)
    (unreadable : ∃ item ∈ items, item.isReadable = false) (rest : List Char) (offset : Nat) :
    Atom.Clash
      ((go .item offset (itemsText items ++ ')' :: rest)).tokens.filterMap Token.atom?)
      (items.map .value) := by
  induction items generalizing offset with
  | nil => simp at unreadable
  | cons item items inductionHypothesis =>
      rw [List.forall_mem_cons] at scalar
      cases readable : item.isReadable with
      | false =>
          obtain ⟨tail, written, ends⟩ : ∃ tail,
              itemsText (item :: items) ++ ')' :: rest = item.queryText.toList ++ tail ∧
                endsAt endsValue tail = true := by
            cases items with
            | nil => exact ⟨_, by rw [itemsText_singleton], rfl⟩
            | cons next items =>
                exact ⟨_, by rw [itemsText_cons_cons, List.append_assoc, List.append_assoc], rfl⟩
          rw [written]
          exact misreads_clash scalar.1 readable (by simp) ends offset _
      | true =>
          cases items with
          | nil => simp [readable] at unreadable
          | cons next items =>
              obtain ⟨token, comma, read, kind, _, commaKind⟩ :=
                reads_separated scalar.1 readable (itemsText (next :: items) ++ ')' :: rest) offset
              have later := inductionHypothesis scalar.2 (by simpa [readable] using unreadable)
                (offset + byteLength (item.queryText.toList ++ [',', ' ']))
              rw [itemsText_cons_cons, List.append_assoc]
              exact read.clash [.value item]
                (by simp [Token.atom?, kind, commaKind]) later

theorem reads_list {items : List Value} (nonempty : items ≠ [])
    (scalar : ∀ item ∈ items, item.isList = false)
    (readable : ∀ item ∈ items, item.isReadable = true) (rest : List Char) (offset : Nat) :
    ∃ (opening : Token) (tokens : List Token) (closing : Token),
      Reads .list offset (queryText (.list items)).toList (opening :: tokens ++ [closing]) .field
        rest ∧
      opening.kind = .leftParen ∧ Grammar.Items tokens items ∧ closing.kind = .rightParen ∧
      ∃ start, offset ≤ start ∧
        closing.span = ⟨start, offset + byteLength (queryText (.list items)).toList⟩ := by
  obtain ⟨opening, readOpening, opens⟩ :=
    Reads.opening .list (itemsText items ++ [')'] ++ rest) offset
  obtain ⟨tokens, readItems, derived⟩ :=
    reads_items nonempty scalar readable rest (offset + byteLength ['('])
  obtain ⟨closing, readClosing, closes, place⟩ := Reads.closing .item rest
    (offset + byteLength ['('] + byteLength (itemsText items))
  rw [queryText_list]
  refine ⟨opening, tokens, closing, readOpening.append (readItems.append readClosing), opens,
    derived, closes, offset + byteLength ['('] + byteLength (itemsText items), by omega, ?_⟩
  rw [place, byteLength_append, byteLength_append, ← Nat.add_assoc, ← Nat.add_assoc]

theorem misreads_list {items : List Value} (scalar : ∀ item ∈ items, item.isList = false)
    (unreadable : ∃ item ∈ items, item.isReadable = false) (rest : List Char) (offset : Nat) :
    Atom.Clash
      ((go .list offset ((queryText (.list items)).toList ++ rest)).tokens.filterMap Token.atom?)
      (items.map .value) := by
  obtain ⟨opening, readOpening, opens⟩ :=
    Reads.opening .list (itemsText items ++ ')' :: rest) offset
  have whole : (queryText (.list items)).toList ++ rest =
      ['('] ++ (itemsText items ++ ')' :: rest) := by simp [queryText_list]
  rw [whole]
  exact readOpening.clash [] (by simp [Token.atom?, opens])
    (misreads_items scalar unreadable rest _)

end Value

namespace Condition

theorem cases_isWellFormed {condition : Condition} (wellFormed : condition.isWellFormed = true) :
    Unfinished.isFieldName condition.field.toList = true ∧
      ((condition.operator.takesList = false ∧ condition.value.isList = false) ∨
        ∃ items, condition.operator.takesList = true ∧ condition.value = .list items ∧
          items ≠ [] ∧ ∀ item ∈ items, item.isList = false) := by
  rw [isWellFormed, Bool.and_eq_true] at wellFormed
  refine ⟨wellFormed.1, ?_⟩
  cases value : condition.value with
  | list items => simpa [value, Value.isList, and_assoc] using wellFormed.2
  | _ => exact .inl ⟨by simpa [value] using wellFormed.2, rfl⟩

def gap (condition : Condition) : List Char :=
  if condition.operator.isWord then [' '] else []

def headText (condition : Condition) : List Char :=
  condition.field.toList ++ (condition.operator.symbol.toList ++ condition.gap)

theorem toList_text (condition : Condition) :
    condition.text.toList = condition.headText ++ condition.value.queryText.toList := by
  cases word : condition.operator.isWord <;> simp [text, headText, gap, word]

/-- In front of this rest the value is drawn into the operator before it. -/
def Drawn (condition : Condition) (rest : List Char) : Prop :=
  ∃ word, condition.bareText? = some word ∧
    (Value.beginsOperator word = true ∨ rest = [] ∧ Value.isOperatorWord word = true)

theorem bareText?_eq_some {condition : Condition} {word : List Char}
    (bare : condition.bareText? = some word) :
    condition.operator = .equals ∧ IsBare word ∧ condition.value.queryText.toList = word := by
  unfold bareText? at bare
  split at bare
  next text operator value =>
    split at bare
    next => simp at bare
    next plain =>
      simp only [Option.some.injEq] at bare
      simp only [Bool.not_eq_true] at plain
      rw [operator, value, Value.queryText_string_bare plain, ← bare]
      exact ⟨rfl, isBare_of_needsQuotes plain, rfl⟩
  next => simp at bare

theorem apart_number (amount : Number) (rest : List Char) :
    Apart .equals (amount.text.toList ++ rest) := by
  cases finite : amount.isFinite with
  | true =>
      obtain ⟨first, later, written, signed⟩ := (Number.isNumeral_text finite).head
      rw [written, List.cons_append]
      rcases signed with rfl | digit
      · exact apart_equals_of_head (by decide) (by decide)
      · apply apart_equals_of_head
        · cases letter : first.isAlpha with
          | false => rfl
          | true => simp [isDigit_of_isAlpha letter] at digit
        · simp only [List.mem_cons, List.not_mem_nil, or_false, not_or]
          refine ⟨?_, ?_, ?_⟩ <;> rintro rfl <;> simp at digit
  | false =>
      rcases Value.text_of_not_finite finite with written | written | written <;>
        rw [written] <;> exact ⟨rfl, rfl⟩

theorem apart_equals {condition : Condition} {rest : List Char}
    (operator : condition.operator = .equals) (scalar : condition.value.isList = false)
    (closes : endsAt (· = ')') rest = true) (clear : ¬ condition.Drawn rest) :
    Apart .equals (condition.value.queryText.toList ++ rest) := by
  cases value : condition.value with
  | string text =>
      cases quotes : Value.needsQuotes text.toList with
      | true =>
          rw [Value.queryText_string_quoted quotes, quoted_append]
          exact apart_equals_of_head (by decide) (by decide)
      | false =>
          have bare : condition.bareText? = some text.toList := by
            simp [bareText?, operator, value, quotes]
          rw [Value.queryText_string_bare quotes]
          refine apart_bare (isBare_of_needsQuotes quotes) closes ?_ fun lone => ?_
          · rw [Bool.eq_false_iff]
            exact fun begins => clear ⟨_, bare, .inl begins⟩
          · rw [Bool.eq_false_iff]
            exact fun spelled => clear ⟨_, bare, .inr ⟨lone, spelled⟩⟩
  | number amount => exact apart_number amount rest
  | boolean flag => cases flag <;> exact ⟨rfl, rfl⟩
  | list items => simp [value, Value.isList] at scalar

theorem apart {condition : Condition} {rest : List Char}
    (wellFormed : condition.isWellFormed = true) (closes : endsAt (· = ')') rest = true)
    (clear : ¬ condition.Drawn rest) :
    Apart condition.operator (condition.gap ++ (condition.value.queryText.toList ++ rest)) := by
  obtain ⟨_, shape⟩ := cases_isWellFormed wellFormed
  have scalar : condition.operator.takesList = false → condition.value.isList = false := by
    rcases shape with ⟨_, scalar⟩ | ⟨items, takesList, _⟩
    · exact fun _ => scalar
    · simp [takesList]
  cases operator : condition.operator with
  | equals =>
      rw [operator] at scalar
      simpa [gap, operator, Operator.isWord] using apart_equals operator (scalar rfl) closes clear
  | greater | less =>
      rw [operator] at scalar
      obtain ⟨first, later, written, _, unequal⟩ := Value.head_queryText (scalar rfl)
      simp [Apart, gap, operator, Operator.isWord, written, unequal]
  | notEquals | greaterOrEqual | lessOrEqual => trivial
  | like | notLike | inList | notInList => simp [Apart, gap, operator, Operator.isWord]

theorem reads_field {condition : Condition}
    (named : Unfinished.isFieldName condition.field.toList = true) (rest : List Char)
    (offset : Nat) :
    ∃ field : Token,
      Reads .field offset condition.field.toList [field] .field
        (condition.operator.symbol.toList ++ rest) ∧
      field.kind = .field ∧ field.text = condition.field ∧
      field.span = ⟨offset, offset + byteLength condition.field.toList⟩ := by
  obtain ⟨behind, colon⟩ : ∃ behind, condition.operator.symbol.toList = ':' :: behind := by
    cases condition.operator <;> exact ⟨_, rfl⟩
  rw [colon, List.cons_append]
  exact Reads.field named (behind ++ rest) offset

theorem reads_head {condition : Condition} {rest : List Char}
    (named : Unfinished.isFieldName condition.field.toList = true)
    (apart : Apart condition.operator (condition.gap ++ rest)) (offset : Nat) :
    ∃ field operator : Token,
      Reads .field offset condition.headText [field, operator]
        (if condition.operator.takesList then .list else .value) rest ∧
      field.kind = .field ∧ field.text = condition.field ∧
      field.span = ⟨offset, offset + byteLength condition.field.toList⟩ ∧
      operator.kind = .operator ∧ operator.operator = condition.operator := by
  obtain ⟨field, readField, fieldKind, fieldText, place⟩ :=
    reads_field named (condition.gap ++ rest) offset
  obtain ⟨operator, readOperator, operatorKind, stands⟩ :=
    Reads.symbol apart .field (offset + byteLength condition.field.toList)
  rw [← List.append_assoc] at readField
  have blank : ∀ mode place, Reads mode place condition.gap [] mode rest := by
    intro mode place
    unfold gap
    cases condition.operator.isWord with
    | true => exact Reads.space ..
    | false => rfl
  exact ⟨field, operator, readField.append (readOperator.append (blank ..)), fieldKind, fieldText,
    place, operatorKind, stands⟩

theorem cover_eq {condition : Condition} {field last : Token} {offset start : Nat}
    (begins : field.span = ⟨offset, offset + byteLength condition.field.toList⟩)
    (behind : offset ≤ start)
    (ends : last.span = ⟨start, offset + byteLength condition.text.toList⟩) :
    field.span.cover last.span = ⟨offset, offset + byteLength condition.text.toList⟩ := by
  have within : byteLength condition.field.toList ≤ byteLength condition.text.toList := by
    rw [toList_text, headText, byteLength_append, byteLength_append]
    omega
  simp only [begins, ends, Span.cover, Nat.min_eq_left behind,
    Nat.max_eq_right (Nat.add_le_add_left within offset)]

/-- In front of the end of its expression a condition of readable scalars, not drawn into its
operator, is read as itself, at the place of its text. -/
theorem reads {condition : Condition} {rest : List Char}
    (wellFormed : condition.isWellFormed = true) (closes : endsAt (· = ')') rest = true)
    (clear : ¬ condition.Drawn rest)
    (readable : ∀ scalar ∈ condition.value.scalars, scalar.isReadable = true) (offset : Nat) :
    ∃ tokens, Reads .field offset condition.text.toList tokens .field rest ∧
      Grammar.Derives .operand tokens (.condition (condition.placedAt offset)) := by
  obtain ⟨named, shape⟩ := cases_isWellFormed wellFormed
  obtain ⟨field, operator, readHead, fieldKind, fieldText, begins, operatorKind, stands⟩ :=
    reads_head named (apart wellFormed closes clear) offset
  rcases shape with ⟨takesOne, scalar⟩ | ⟨items, takesList, isItems, nonempty, scalar⟩
  · rw [Value.scalars_of_scalar scalar] at readable
    rw [takesOne] at readHead
    have ends : endsAt endsValue rest = true := (endsAt_of_closing closes).1
    obtain ⟨value, read, valueKind, same, place⟩ :=
      Value.reads scalar (readable _ List.mem_cons_self) .value (by decide) ends
        (offset + byteLength condition.headText)
    have derived :=
      Grammar.Derives.comparison fieldKind operatorKind (by rw [stands, takesOne]) valueKind
    rw [Nat.add_assoc, ← byteLength_append, ← toList_text] at place
    rw [fieldText, stands, same, cover_eq begins (Nat.le_add_right ..) place] at derived
    exact ⟨_, toList_text condition ▸ readHead.append read, derived⟩
  · rw [isItems] at readable
    rw [takesList] at readHead
    obtain ⟨opening, tokens, closing, readList, opens, items', closes', start, behind, place⟩ :=
      Value.reads_list nonempty scalar readable rest
        (offset + byteLength condition.headText)
    have derived :=
      Grammar.Derives.membership fieldKind operatorKind (by rw [stands, takesList]) opens
      items' closes'
    rw [← isItems] at readList place derived
    rw [Nat.add_assoc, ← byteLength_append, ← toList_text] at place
    rw [fieldText, stands, cover_eq begins (by omega) place] at derived
    exact ⟨_, toList_text condition ▸ readHead.append readList, derived⟩

theorem misreads_drawn {condition : Condition} {rest : List Char}
    (named : Unfinished.isFieldName condition.field.toList = true)
    (closes : endsAt (· = ')') rest = true) (drawn : condition.Drawn rest) (offset : Nat) :
    Atom.Clash
      ((go .field offset (condition.text.toList ++ rest)).tokens.filterMap Token.atom?)
      condition.atoms := by
  obtain ⟨word, bare, begins⟩ := drawn
  obtain ⟨isEquals, bareWord, written⟩ := bareText?_eq_some bare
  obtain ⟨field, readField, fieldKind, _⟩ := reads_field named (word ++ rest) offset
  obtain ⟨size, text, found, differs⟩ := draws_bare .field bareWord closes begins
  obtain ⟨stop, tokens, _⟩ :=
    tokens_go_lexeme (by decide) found (offset + byteLength condition.field.toList)
  have whole : condition.text.toList ++ rest =
      condition.field.toList ++ (condition.operator.symbol.toList ++ (word ++ rest)) := by
    simp [toList_text, headText, gap, isEquals, Operator.isWord, written]
  -- The field agrees, and the operator behind it is not the one of the condition.
  rw [whole]
  refine readField.clash [.field condition.field] (by simp [Token.atom?, fieldKind]) ?_
  have operatorAtom : ∀ token : Token, token.kind = .operator → token.text = String.ofList text →
      token.atom? = some (.operator ((Operator.ofSymbol? (String.ofList text)).getD .equals)) := by
    intro token kind same
    simp [Token.atom?, kind, Token.operator, same]
  rw [isEquals]
  change Atom.Clash (List.filterMap _ (go _ _ (':' :: (word ++ rest))).tokens) _
  rw [tokens, List.filterMap_cons_some (operatorAtom _ rfl rfl)]
  exact .here (by simpa [Atom.equal] using differs)

theorem misreads_scalar {condition : Condition} {rest : List Char}
    (wellFormed : condition.isWellFormed = true) (closes : endsAt (· = ')') rest = true)
    (clear : ¬ condition.Drawn rest)
    (unreadable : ∃ scalar ∈ condition.value.scalars, scalar.isReadable = false) (offset : Nat) :
    Atom.Clash
      ((go .field offset (condition.text.toList ++ rest)).tokens.filterMap Token.atom?)
      condition.atoms := by
  obtain ⟨named, shape⟩ := cases_isWellFormed wellFormed
  obtain ⟨field, operator, readHead, fieldKind, _, _, operatorKind, _⟩ :=
    reads_head named (apart wellFormed closes clear) offset
  rw [toList_text, List.append_assoc]
  refine readHead.clash [.field condition.field, .operator condition.operator]
    (by simp [Token.atom?, fieldKind, operatorKind]) ?_
  rcases shape with ⟨takesOne, scalar⟩ | ⟨items, takesList, isItems, _, scalar⟩
  · rw [Value.scalars_of_scalar scalar] at unreadable ⊢
    obtain ⟨_, member, unreadable⟩ := unreadable
    obtain rfl := List.mem_singleton.mp member
    rw [takesOne]
    exact Value.misreads_clash scalar unreadable (by simp) (endsAt_of_closing closes).1 _ _
  · rw [isItems] at unreadable ⊢
    rw [takesList]
    exact Value.misreads_list scalar unreadable rest _

/-- A condition that is drawn into its operator, or that has a scalar that is not readable, clashes
with what is read. -/
theorem misreads {condition : Condition} {rest : List Char}
    (wellFormed : condition.isWellFormed = true) (closes : endsAt (· = ')') rest = true)
    (unreadable : condition.Drawn rest ∨
      ∃ scalar ∈ condition.value.scalars, scalar.isReadable = false) (offset : Nat) :
    Atom.Clash
      ((go .field offset (condition.text.toList ++ rest)).tokens.filterMap Token.atom?)
      condition.atoms := by
  by_cases drawn : condition.Drawn rest
  · exact misreads_drawn (cases_isWellFormed wellFormed).1 closes drawn offset
  · exact misreads_scalar wellFormed closes drawn (unreadable.resolve_left drawn) offset

end Condition

end FilterBox
