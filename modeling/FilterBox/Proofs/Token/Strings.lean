import FilterBox.Proofs.Text.Place
import FilterBox.Proofs.Token.Layout
import Mathlib.Data.Set.Function

/-!
Strings as they are written, in quotes or bare, and read where a value is expected.

The literals in quotes and the strings that end in no backslash correspond one to one
(`Lexeme.quotations_exact`). A string that is left bare is one token, itself, up to any boundary
(`Scan.bare_read_alone`).
-/

namespace FilterBox

open Text

namespace Lexeme

def enclosed (quote : Char) (text : List Char) : List Char :=
  quote :: escapeQuotes quote text ++ [quote]

theorem enclosed_append (quote : Char) (text rest : List Char) :
    enclosed quote text ++ rest = quote :: (escapeQuotes quote text ++ quote :: rest) := by
  simp [enclosed]

theorem length_enclosed (quote : Char) (text : List Char) :
    (enclosed quote text).length = (escapeQuotes quote text).length + 1 + 1 := by
  simp [enclosed]

theorem quoted?_closed_iff {source : List Char} {lexeme : Lexeme} :
    quoted? source = some lexeme ∧ lexeme.closed = true ↔
      ∃ quote content rest, (quote = '"' ∨ quote = '\'') ∧ content.getLast? ≠ some '\\' ∧
        source = enclosed quote content ++ rest ∧
        lexeme = ⟨.value, some .string, (enclosed quote content).length, content, true⟩ := by
  constructor
  · rintro ⟨found, closed⟩
    obtain ⟨quote, inner, rfl, isQuote, rfl⟩ := quoted?_eq_some_iff.mp found
    obtain ⟨content, rest, rfl, final⟩ :=
      Quotation.exists_escapeQuotes_of_closed (ne_backslash_of_isQuote isQuote) closed
    refine ⟨quote, content, rest, isQuote, final, (enclosed_append ..).symm, ?_⟩
    rw [Quotation.read_escapeQuotes_closed (ne_backslash_of_isQuote isQuote) final, length_enclosed]
  · rintro ⟨quote, content, rest, isQuote, final, rfl, rfl⟩
    refine ⟨quoted?_eq_some_iff.mpr ⟨quote, _, enclosed_append .., isQuote, ?_⟩, rfl⟩
    rw [Quotation.read_escapeQuotes_closed (ne_backslash_of_isQuote isQuote) final, length_enclosed]

/-- The texts that are one string between such quotes and nothing else. -/
def literals (quote : Char) : Set (List Char) :=
  {literal | literal.head? = some quote ∧ ∃ lexeme, quoted? literal = some lexeme ∧
    lexeme.closed = true ∧ lexeme.size = literal.length}

theorem mem_literals_iff {quote : Char} (isQuote : quote = '"' ∨ quote = '\'')
    {literal : List Char} :
    literal ∈ literals quote ↔
      ∃ content, content.getLast? ≠ some '\\' ∧ enclosed quote content = literal := by
  constructor
  · rintro ⟨begins, lexeme, found, closed, whole⟩
    obtain ⟨quote', content, rest, _, final, rfl, rfl⟩ := quoted?_closed_iff.mp ⟨found, closed⟩
    obtain rfl : quote' = quote := by simpa [enclosed] using begins
    obtain rfl : rest = [] := by simpa using whole
    exact ⟨content, final, (List.append_nil _).symm⟩
  · rintro ⟨content, final, rfl⟩
    have read := quoted?_closed_iff.mpr
      ⟨quote, content, [], isQuote, final, (List.append_nil _).symm, rfl⟩
    exact ⟨rfl, _, read.1, read.2, rfl⟩

theorem eq_of_enclosed_eq {quote : Char} (isQuote : quote = '"' ∨ quote = '\'')
    {content content' : List Char} (final : content.getLast? ≠ some '\\')
    (final' : content'.getLast? ≠ some '\\')
    (same : enclosed quote content = enclosed quote content') :
    content = content' := by
  have read := quoted?_closed_iff.mpr
    ⟨quote, content, [], isQuote, final, (List.append_nil _).symm, rfl⟩
  have read' := quoted?_closed_iff.mpr
    ⟨quote, content', [], isQuote, final', (List.append_nil _).symm, rfl⟩
  have lexemes := read.1.symm.trans (same ▸ read'.1)
  exact congrArg Lexeme.text (Option.some.inj lexemes)

/-- The quoted form of a string is read up to its closing quote, as that string, exactly when the
string ends in no backslash. Every quotation that is closed is the quoted form of the string that it
is read as. So the strings that end in no backslash and the literals in either kind of quotes
correspond one to one. -/
theorem quotations_exact :
    (∀ text rest, quoted? (quoted text ++ rest) =
        some ⟨.value, some .string, (quoted text).length, text, true⟩ ↔
      text.getLast? ≠ some '\\') ∧
    (∀ source lexeme, quoted? source = some lexeme → lexeme.closed = true →
      lexeme.text.getLast? ≠ some '\\' ∧ ∃ quote rest, (quote = '"' ∨ quote = '\'') ∧
        source = quote :: escapeQuotes quote lexeme.text ++ [quote] ++ rest ∧
        lexeme.size = (quote :: escapeQuotes quote lexeme.text ++ [quote]).length) ∧
    ∀ quote, quote = '"' ∨ quote = '\'' →
      Set.BijOn (enclosed quote) {text | text.getLast? ≠ some '\\'} (literals quote) := by
  refine ⟨fun text rest => ⟨fun found => ?_, fun final => ?_⟩, fun source lexeme found closed => ?_,
    fun quote isQuote => ⟨fun text final => ?_, fun text final text' final' same => ?_,
      fun literal isLiteral => ?_⟩⟩
  · obtain ⟨_, content, _, _, final, _, same⟩ := quoted?_closed_iff.mp ⟨found, rfl⟩
    obtain rfl : text = content := congrArg Lexeme.text same
    exact final
  · exact (quoted?_closed_iff.mpr ⟨'"', text, rest, .inl rfl, final, rfl, rfl⟩).1
  · obtain ⟨quote, content, rest, isQuote, final, parts, rfl⟩ :=
      quoted?_closed_iff.mp ⟨found, closed⟩
    exact ⟨final, quote, rest, isQuote, parts, rfl⟩
  · exact (mem_literals_iff isQuote).mpr ⟨text, final, rfl⟩
  · exact eq_of_enclosed_eq isQuote final final' same
  · exact (mem_literals_iff isQuote).mp isLiteral

/-- In `'a\"\'b' c` the other quote keeps its backslash. -/
theorem quotations_exact_apostrophe :
    quoted? "'a\\\"\\'b' c".toList =
        some ⟨.value, some .string, 8, "a\\\"'b".toList, true⟩ ∧
      "a\\\"'b".toList.getLast? ≠ some '\\' ∧
      Set.BijOn (enclosed '\'') {text | text.getLast? ≠ some '\\'} (literals '\'') :=
  have found : quoted? "'a\\\"\\'b' c".toList =
      some ⟨.value, some .string, 8, "a\\\"'b".toList, true⟩ := rfl
  ⟨found, (quotations_exact.2.1 _ _ found rfl).1, quotations_exact.2.2 '\'' (.inr rfl)⟩

theorem IsBare.isLiteral {word : List Char} (bare : IsBare word) :
    Lexeme.isLiteral word = false := by
  simp [Lexeme.isLiteral, bare.notNumeral, bare.notTrue, bare.notFalse]

theorem IsBare.isFirst {word rest : List Char} {mode : Mode} (bare : IsBare word)
    (expected : mode ≠ .field) (ends : endsAt endsValue rest = true) :
    IsFirst mode word rest ⟨.value, some .string, word.length, word, true⟩ := by
  have inside : ∀ character ∈ word, endsWord character = false := by
    intro character member
    simp [endsWord, bare.inside character member, bare.shown character member]
  have plain : Lexeme.isLiteral word = true → endsAt endsValue rest = false := by
    intro literal
    simp [bare.isLiteral] at literal
  exact .value bare.unequal (fun isField => absurd isField expected)
    (.bare bare.nonempty bare.unquoted inside
      (endsAt_of_imp ends fun _ => endsWord_of_endsValue) plain)

end Lexeme

/-- Where a value is expected, a string that needs no quotes is read as one token, itself, whatever
follows the boundary behind it. Nothing is reported for it, and the scan goes on at the boundary. -/
theorem Scan.bare_read_alone {text : String} (plain : Value.needsQuotes text.toList = false)
    {rest : List Char} (ends : endsAt Lexeme.endsValue rest = true) {mode : Mode}
    (expected : mode ≠ .field) (front : List Char) :
    let start := byteLength front
    let stop := start + byteLength text.toList
    let later := go (if mode = .item then .item else .field) stop rest
    slice? (front ++ (text.toList ++ rest)) start stop = some text.toList ∧
      go mode start (text.toList ++ rest) =
        ⟨⟨.value, text, some .string, ⟨start, stop⟩⟩ :: later.tokens, later.diagnostics⟩ := by
  refine ⟨slice?_eq_some_iff.mpr ⟨front, rest, rfl, rfl, rfl⟩, ?_⟩
  have first := (Lexeme.isBare_of_needsQuotes plain).isFirst expected ends
  rw [go_of_isFirst first]
  simp [Lexeme.placed, Lexeme.nextMode]

/-- In the list of `v:IN (1.2.3)` the numeral at the front of `1.2.3` is not taken for the value. -/
theorem Scan.bare_read_alone_version :
    Value.needsQuotes "1.2.3".toList = false ∧ endsAt Lexeme.endsValue ")".toList = true ∧
      slice? ("v:IN (".toList ++ ("1.2.3".toList ++ ")".toList)) 6 11 = some "1.2.3".toList ∧
      go .item 6 ("1.2.3".toList ++ ")".toList) =
        ⟨⟨.value, "1.2.3", some .string, ⟨6, 11⟩⟩ :: (go .item 11 ")".toList).tokens,
          (go .item 11 ")".toList).diagnostics⟩ :=
  have plain : Value.needsQuotes "1.2.3".toList = false := by decide
  have ends : endsAt Lexeme.endsValue ")".toList = true := by decide
  ⟨plain, ends, bare_read_alone plain ends (by decide) "v:IN (".toList⟩

end FilterBox
