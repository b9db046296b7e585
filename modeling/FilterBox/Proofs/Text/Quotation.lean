import FilterBox.Text.Quoted

/-!
Reading texts between quotes.

`read_escapeQuotes_append` reads the escaped form of a text in front of any continuation. It only
asks that a backslash at the end of the text does not meet a quote, which is what happens to the
quoted form of such a text. Nothing else is read up to a closing quote
(`exists_escapeQuotes_of_closed`), so what holds of closed quotations is proved of escaped forms.
-/

namespace FilterBox.Text

@[simp]
theorem escapeQuotes_nil (quote : Char) : escapeQuotes quote [] = [] := rfl

theorem escapeQuotes_cons_self (quote : Char) (rest : List Char) :
    escapeQuotes quote (quote :: rest) = '\\' :: quote :: escapeQuotes quote rest := by
  simp [escapeQuotes]

theorem escapeQuotes_cons_of_ne {quote character : Char} (other : character ≠ quote)
    (rest : List Char) :
    escapeQuotes quote (character :: rest) = character :: escapeQuotes quote rest := by
  simp [escapeQuotes, other]

theorem escapeQuotes_append (quote : Char) (first second : List Char) :
    escapeQuotes quote (first ++ second) =
    escapeQuotes quote first ++ escapeQuotes quote second := by
  simp [escapeQuotes]

theorem quoted_append (text rest : List Char) :
    quoted text ++ rest = '"' :: (escapeQuotes '"' text ++ '"' :: rest) := by
  simp [quoted]

theorem length_quoted (text : List Char) :
    (quoted text).length = (escapeQuotes '"' text).length + 1 + 1 := by
  simp [quoted]

namespace Quotation

theorem read_escaped (quote : Char) (rest : List Char) :
    read quote ('\\' :: quote :: rest) = (read quote rest).push quote 2 := by
  simp [read]

theorem read_closing {quote : Char} (isQuote : quote ≠ '\\') (rest : List Char) :
    read quote (quote :: rest) = ⟨[], 1, true⟩ := by
  rw [read.eq_def]
  split
  next => contradiction
  next same _ => simp_all
  next character later _ same =>
    cases same
    simp

theorem read_cons {quote character : Char} {rest : List Char} (other : character ≠ quote)
    (unescaping : character = '\\' → rest.head? ≠ some quote) :
    read quote (character :: rest) = (read quote rest).push character 1 := by
  rw [read.eq_def]
  split
  next => contradiction
  next next later same =>
    cases same
    have apart : next ≠ quote := by simpa using unescaping rfl
    simp [apart]
  next first later _ same =>
    cases same
    simp [other]

theorem head?_escapeQuotes_append {quote : Char} (isQuote : quote ≠ '\\') {text tail : List Char}
    (apart : text = [] → tail.head? ≠ some quote) :
    (escapeQuotes quote text ++ tail).head? ≠ some quote := by
  cases text with
  | nil => simpa using apart rfl
  | cons character rest =>
      by_cases same : character = quote
      · subst same
        simpa [escapeQuotes_cons_self] using isQuote.symm
      · simpa [escapeQuotes_cons_of_ne same] using same

/-- The escaped form of a text reads back in front of any continuation, except that a backslash at
its end must not meet a quote. -/
theorem read_escapeQuotes_append {quote : Char} (isQuote : quote ≠ '\\') {text tail : List Char}
    (apart : text.getLast? = some '\\' → tail.head? ≠ some quote) :
    read quote (escapeQuotes quote text ++ tail) =
      ⟨text ++ (read quote tail).content, (escapeQuotes quote text).length + (read quote tail).size,
        (read quote tail).closed⟩ := by
  induction text with
  | nil => simp
  | cons character rest inductionHypothesis =>
      have apartRest : rest.getLast? = some '\\' → tail.head? ≠ some quote := by
        intro final
        apply apart
        rw [List.getLast?_cons, final]
        rfl
      replace inductionHypothesis := inductionHypothesis apartRest
      by_cases same : character = quote
      · subst same
        rw [escapeQuotes_cons_self, List.cons_append, List.cons_append, read_escaped,
          inductionHypothesis]
        simp only [push, List.cons_append, List.length_cons, Quotation.mk.injEq, true_and, and_true]
        omega
      · -- A backslash escapes only a quote, and here none can follow.
        have unescaping : character = '\\' →
            (escapeQuotes quote rest ++ tail).head? ≠ some quote := by
          rintro rfl
          apply head?_escapeQuotes_append isQuote
          rintro rfl
          exact apart rfl
        rw [escapeQuotes_cons_of_ne same, List.cons_append, read_cons same unescaping,
          inductionHypothesis]
        simp only [push, List.cons_append, List.length_cons, Quotation.mk.injEq, true_and, and_true]
        omega

theorem read_escapeQuotes_closed {quote : Char} (isQuote : quote ≠ '\\') {text : List Char}
    (readable : text.getLast? ≠ some '\\') (rest : List Char) :
    read quote (escapeQuotes quote text ++ quote :: rest) =
      ⟨text, (escapeQuotes quote text).length + 1, true⟩ := by
  rw [read_escapeQuotes_append isQuote fun final => absurd final readable, read_closing isQuote]
  simp

theorem content_read_escapeQuotes_backslash {quote : Char} (isQuote : quote ≠ '\\')
    (text rest : List Char) :
    (read quote (escapeQuotes quote (text ++ ['\\']) ++ quote :: rest)).content =
      text ++ quote :: (read quote rest).content := by
  rw [escapeQuotes_append, escapeQuotes_cons_of_ne isQuote.symm, List.append_assoc,
    escapeQuotes_nil, List.singleton_append,
    read_escapeQuotes_append isQuote fun _ => by simpa using isQuote.symm, read_escaped]
  rfl

theorem getLast?_cons_ne {character final : Char} {text : List Char}
    (inside : text.getLast? ≠ some final) (alone : text = [] → character ≠ final) :
    (character :: text).getLast? ≠ some final := by
  cases text with
  | nil => simpa using alone rfl
  | cons next later => rwa [List.getLast?_cons_cons]

/-- What is read up to a closing quote is the escaped form of some text. That text does not end in a
backslash, which would have taken the closing quote with it. -/
theorem exists_escapeQuotes_of_closed {quote : Char} (isQuote : quote ≠ '\\') {text : List Char}
    (closed : (read quote text).closed = true) :
    ∃ content rest, text = escapeQuotes quote content ++ quote :: rest ∧
      content.getLast? ≠ some '\\' := by
  fun_induction read quote text with
  | case1 => simp at closed
  | case2 later inductionHypothesis =>
      obtain ⟨content, rest, rfl, final⟩ := inductionHypothesis closed
      refine ⟨quote :: content, rest, ?_, getLast?_cons_ne final fun _ => isQuote⟩
      rw [escapeQuotes_cons_self]
      rfl
  | case3 next later other inductionHypothesis =>
      obtain ⟨content, rest, same, final⟩ := inductionHypothesis closed
      refine ⟨'\\' :: content, rest, ?_, getLast?_cons_ne final ?_⟩
      · rw [escapeQuotes_cons_of_ne isQuote.symm, same]
        rfl
      · rintro rfl
        exact absurd (List.cons.inj same).1 other
  | case4 later => exact ⟨[], later, rfl, by simp⟩
  | case5 character later lone other inductionHypothesis =>
      obtain ⟨content, rest, rfl, final⟩ := inductionHypothesis closed
      refine ⟨character :: content, rest, ?_, getLast?_cons_ne final ?_⟩
      · rw [escapeQuotes_cons_of_ne other]
        rfl
      · rintro rfl rfl
        exact lone quote rest rfl rfl

theorem read_append_of_closed {quote : Char} (isQuote : quote ≠ '\\') {text : List Char}
    (closed : (read quote text).closed = true) (rest : List Char) :
    read quote (text ++ rest) = read quote text := by
  obtain ⟨content, behind, rfl, final⟩ := exists_escapeQuotes_of_closed isQuote closed
  rw [List.append_assoc, List.cons_append, read_escapeQuotes_closed isQuote final,
    read_escapeQuotes_closed isQuote final]

theorem size_read_of_open {quote : Char} {text : List Char}
    (isOpen : (read quote text).closed = false) : (read quote text).size = text.length := by
  fun_induction read quote text with
  | case1 => rfl
  | case2 later inductionHypothesis =>
      simpa [push] using inductionHypothesis isOpen
  | case3 next later _ inductionHypothesis =>
      simpa [push] using inductionHypothesis isOpen
  | case4 => simp at isOpen
  | case5 character later _ _ inductionHypothesis =>
      simpa [push] using inductionHypothesis isOpen

theorem read_take_size {quote : Char} (isQuote : quote ≠ '\\') (text : List Char) :
    read quote (text.take (read quote text).size) = read quote text := by
  cases closed : (read quote text).closed with
  | false => rw [size_read_of_open closed, List.take_length]
  | true =>
      obtain ⟨content, rest, rfl, final⟩ := exists_escapeQuotes_of_closed isQuote closed
      have taken : (escapeQuotes quote content ++ quote :: rest).take
          ((escapeQuotes quote content).length + 1) = escapeQuotes quote content ++ [quote] := by
        rw [List.take_length_add_append]
        rfl
      rw [read_escapeQuotes_closed isQuote final, taken, read_escapeQuotes_closed isQuote final]

theorem getLast?_of_closed {quote : Char} (isQuote : quote ≠ '\\') {text : List Char}
    (closed : (read quote text).closed = true) (whole : (read quote text).size = text.length) :
    text.getLast? = some quote := by
  obtain ⟨content, rest, rfl, final⟩ := exists_escapeQuotes_of_closed isQuote closed
  simp only [read_escapeQuotes_closed isQuote final, List.length_append, List.length_cons] at whole
  obtain rfl : rest = [] := List.eq_nil_of_length_eq_zero (by omega)
  exact List.getLast?_concat ..

theorem content_eq_of_open {quote : Char} {text : List Char}
    (isOpen : (read quote text).closed = false) (plain : quote ∉ (read quote text).content) :
    (read quote text).content = text := by
  fun_induction read quote text with
  | case1 => rfl
  | case2 later => simp [push] at plain
  | case3 next later _ inductionHypothesis =>
      have rest := inductionHypothesis isOpen fun member => plain (List.mem_cons_of_mem _ member)
      rw [push, rest]
  | case4 => simp at isOpen
  | case5 character later _ _ inductionHypothesis =>
      have rest := inductionHypothesis isOpen fun member => plain (List.mem_cons_of_mem _ member)
      rw [push, rest]

theorem closed_of_not_mem {quote : Char} {text : List Char} (plain : quote ∉ text) :
    (read quote text).closed = false := by
  fun_induction read quote text with
  | case1 => rfl
  | case2 => simp at plain
  | case3 next later _ inductionHypothesis =>
      exact inductionHypothesis fun member => plain (List.mem_cons_of_mem _ member)
  | case4 => simp at plain
  | case5 character later _ _ inductionHypothesis =>
      exact inductionHypothesis fun member => plain (List.mem_cons_of_mem _ member)

theorem closed_append_of_open {quote : Char} (isQuote : quote ≠ '\\') {text more : List Char}
    (isOpen : (read quote text).closed = false) (plain : quote ∉ more) :
    (read quote (text ++ more)).closed = false := by
  fun_induction read quote text with
  | case1 => exact closed_of_not_mem plain
  | case2 later inductionHypothesis =>
      rw [List.cons_append, List.cons_append, read_escaped]
      exact inductionHypothesis isOpen
  | case3 next later other inductionHypothesis =>
      have unescaping : '\\' = '\\' → (next :: later ++ more).head? ≠ some quote := by
        simpa using other
      rw [List.cons_append, read_cons isQuote.symm unescaping]
      exact inductionHypothesis isOpen
  | case4 => simp at isOpen
  | case5 character later lone other inductionHypothesis =>
      have unescaping : character = '\\' → (later ++ more).head? ≠ some quote := by
        rintro rfl begins
        cases later with
        | nil => exact plain (List.mem_of_head? begins)
        | cons next later => exact lone next later rfl rfl
      rw [List.cons_append, read_cons other unescaping]
      exact inductionHypothesis isOpen

end Quotation

end FilterBox.Text
