import FilterBox.Proofs.Lexeme.Value
import FilterBox.Proofs.Number.Written
import FilterBox.Proofs.Printing.Readable
import FilterBox.Proofs.Token.Reading

/-!
Reading the written forms of scalars.

A readable scalar gives one token that stands for it. Any other scalar gives one token too, or a
token that runs on beyond it, and that stands for a different value.
-/

namespace FilterBox.Value

open Text Lexeme Scan

theorem text_of_not_finite {amount : Number} (infinite : amount.isFinite = false) :
    amount.text = "NaN" ∨ amount.text = "inf" ∨ amount.text = "-inf" := by
  cases amount with
  | nan => exact .inl rfl
  | signed negative magnitude =>
      have endless : magnitude.isFinite = false := infinite
      cases negative <;> simp [Number.text, endless]

theorem isBare_text_of_not_finite {amount : Number} (infinite : amount.isFinite = false) :
    IsBare amount.text.toList := by
  apply isBare_of_needsQuotes
  rcases text_of_not_finite infinite with written | written | written <;> rw [written] <;> decide

theorem queryText_string_quoted {text : String} (quotes : needsQuotes text.toList = true) :
    (queryText (.string text)).toList = quoted text.toList := by
  simp [queryText, quotes]

theorem queryText_string_bare {text : String} (plain : needsQuotes text.toList = false) :
    (queryText (.string text)).toList = text.toList := by
  simp [queryText, plain]

theorem IsBare.head {word : List Char} (bare : IsBare word) :
    ∃ first later, word = first :: later ∧ endsValue first = false ∧ first ≠ '=' := by
  obtain ⟨first, later, rfl⟩ := List.exists_cons_of_ne_nil bare.nonempty
  exact ⟨first, later, rfl, bare.inside first (by simp), by simpa using bare.unequal⟩

theorem head_queryText {value : Value} (scalar : value.isList = false) :
    ∃ first later, value.queryText.toList = first :: later ∧ endsValue first = false ∧
      first ≠ '=' := by
  cases value with
  | string text =>
      cases quotes : needsQuotes text.toList with
      | true => exact ⟨'"', _, queryText_string_quoted quotes, by decide, by decide⟩
      | false =>
          rw [queryText_string_bare quotes]
          exact IsBare.head (isBare_of_needsQuotes quotes)
  | number amount =>
      cases finite : amount.isFinite with
      | true =>
          obtain ⟨first, later, written, signed⟩ := (Number.isNumeral_text finite).head
          refine ⟨first, later, written, ?_⟩
          rcases signed with rfl | digit
          · decide
          · refine ⟨endsValue_of_isDigit digit, ?_⟩
            rintro rfl
            simp at digit
      | false => exact IsBare.head (isBare_text_of_not_finite finite)
  | boolean flag => cases flag <;> exact ⟨_, _, rfl, by decide, by decide⟩
  | list items => simp [isList] at scalar

theorem first?_queryText {value : Value} (scalar : value.isList = false) {mode : Mode}
    (expected : mode ≠ .field) (rest : List Char) :
    first? mode (value.queryText.toList ++ rest) = value? (value.queryText.toList ++ rest) := by
  obtain ⟨first, later, written, inside, unequal⟩ := head_queryText scalar
  rw [written]
  apply first?_eq_value? expected
  simp only [List.mem_cons, List.not_mem_nil, or_false, not_or]
  refine ⟨?_, ?_, ?_, ?_, unequal⟩ <;> rintro rfl <;> simp [endsValue] at inside

theorem value?_queryText {value : Value} (scalar : value.isList = false)
    (readable : value.isReadable = true) {rest : List Char} (ends : endsAt endsValue rest = true) :
    ∃ valueKind content,
      value? (value.queryText.toList ++ rest) =
        some ⟨.value, valueKind, value.queryText.toList.length, content, true⟩ ∧
      ∀ token : Token, token.valueKind = valueKind → token.text = String.ofList content →
        token.value = value := by
  cases value with
  | string text =>
      refine ⟨some .string, text.toList, ?_, ?_⟩
      · cases quotes : needsQuotes text.toList with
        | true =>
            have final : text.toList.getLast? ≠ some '\\' := by
              simpa [isReadable, quotes] using readable
            rw [queryText_string_quoted quotes]
            exact value?_quoted final rest
        | false =>
            rw [queryText_string_bare quotes]
            exact value?_bare (isBare_of_needsQuotes quotes) ends
      · intro token kind written
        simp [Token.value, kind, written]
  | number amount =>
      refine ⟨some .number, _, value?_numeral (Number.isNumeral_text readable) ends, ?_⟩
      intro token kind written
      have same : Number.ofText? (queryText (.number amount)) = some amount :=
        Number.ofText?_text readable
      simp [Token.value, kind, written, same]
  | boolean flag =>
      refine ⟨some .boolean, _, value?_boolean (by cases flag <;> decide) ends, ?_⟩
      intro token kind written
      cases flag <;> simp [Token.value, kind, written, queryText, spells]
  | list items => simp [isList] at scalar

theorem value?_queryText_misread {value : Value} (scalar : value.isList = false)
    (unreadable : value.isReadable = false) {rest : List Char}
    (ends : endsAt endsValue rest = true) :
    ∃ size content closed,
      value? (value.queryText.toList ++ rest) =
        some ⟨.value, some .string, size, content, closed⟩ ∧
      ∀ token : Token, token.valueKind = some .string → token.text = String.ofList content →
        token.value.equal value = false := by
  cases value with
  | string text =>
      simp only [isReadable, Bool.not_eq_false', Bool.and_eq_true, decide_eq_true_eq] at unreadable
      obtain ⟨quotes, final⟩ := unreadable
      obtain ⟨size, content, closed, read, other⟩ := value?_quoted_backslash final rest
      rw [queryText_string_quoted quotes]
      refine ⟨size, content, closed, read, ?_⟩
      intro token kind written
      have differs : String.ofList content ≠ text := by
        rintro rfl
        simp at other
      simp [Token.value, kind, written, Value.equal, differs]
  | number amount =>
      refine ⟨_, _, _, value?_bare (isBare_text_of_not_finite unreadable) ends, ?_⟩
      intro token kind written
      simp [Token.value, kind, Value.equal]
  | boolean flag => simp [isReadable] at unreadable
  | list items => simp [isList] at scalar

end FilterBox.Value
