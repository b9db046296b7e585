import FilterBox.Proofs.Grammar.Recognition
import FilterBox.Proofs.Token.Layout

/-!
Reading a query by way of its tokens.

The tokens before the final mark are no marks themselves, and fields have the form of a name. A
query has a filter exactly when the grammar derives one from its tokens.
-/

namespace FilterBox

open Text

namespace Scan.Layout

theorem named {mode : Mode} {offset : Nat} {text : List Char} {tokens : List Token}
    {diagnostics : List Diagnostic} (layout : Layout mode offset text tokens diagnostics) :
    ∀ token ∈ tokens, token.kind = .field → Unfinished.isFieldName token.text.toList = true := by
  intro token member isField
  obtain ⟨_, _, _, _, _, _, first, rfl⟩ := layout.exists_word token member
  rw [Lexeme.placed, String.toList_ofList]
  exact first.named isField

end Scan.Layout

namespace Query

theorem exists_layout (query : String) :
    ∃ tokens diagnostics, Scan.Layout .field 0 query.toList tokens diagnostics ∧
      Query.tokens query = tokens ++ [Token.final (byteLength query.toList)] := by
  obtain ⟨tokens, diagnostics, layout, scanned⟩ := Scan.layout_go .field 0 query.toList
  rw [Nat.zero_add] at scanned
  exact ⟨tokens, diagnostics, layout, by rw [Query.tokens, scan, scanned]⟩

theorem eq_final_or_exists_word {query : String} {token : Token} (member : token ∈ tokens query) :
    token = Token.final (byteLength query.toList) ∨
      ∃ before word after mode lexeme, query.toList = before ++ (word ++ after) ∧
        Lexeme.IsFirst mode word after lexeme ∧ token = lexeme.placed (byteLength before) word := by
  obtain ⟨tokens, diagnostics, layout, marked⟩ := exists_layout query
  rw [marked, List.mem_append, List.mem_singleton] at member
  rcases member with member | final
  · right
    simpa only [Nat.zero_add] using layout.exists_word token member
  · exact .inl final

/-- A token that is not the final mark is laid out with the tokens in front of it and behind it. -/
theorem exists_layout_of_ne_final {query : String} {front back : List Token} {token : Token}
    (scanned : Query.tokens query = front ++ token :: back)
    (ordinary : token ≠ Token.final (byteLength query.toList)) :
    ∃ later, back = later ++ [Token.final (byteLength query.toList)] ∧
      Scan.Layout .field 0 query.toList (front ++ token :: later) (scan query).diagnostics := by
  obtain ⟨tokens, diagnostics, layout, marked⟩ := Scan.layout_go .field 0 query.toList
  rw [Nat.zero_add] at marked
  have same : front ++ token :: back = tokens ++ [Token.final (byteLength query.toList)] := by
    rw [← scanned, Query.tokens, scan, marked]
  rcases List.eq_nil_or_concat back with rfl | ⟨later, last, rfl⟩
  · obtain ⟨_, single⟩ := List.append_inj' same rfl
    exact absurd (List.singleton_inj.mp single) ordinary
  · rw [List.concat_eq_append, ← List.cons_append, ← List.append_assoc] at same
    obtain ⟨rfl, single⟩ := List.append_inj' same rfl
    obtain rfl := List.singleton_inj.mp single
    refine ⟨later, List.concat_eq_append, ?_⟩
    rwa [scan, marked]

theorem parse_eq_ok_some_iff {query : String} {tokens : List Token} {place : Nat}
    (scanned : Query.tokens query = tokens ++ [Token.final place])
    (ordinary : ∀ token ∈ tokens, token.kind ≠ .endOfInput) {filter : Filter} :
    parse query = .ok (some filter) ↔ Grammar.Derives .expression tokens filter := by
  rw [parse, scanned]
  exact Grammar.ofTokens_append_final_iff_derives ordinary

theorem exists_derivation {query : String} {filter : Filter}
    (read : parse query = .ok (some filter)) :
    ∃ tokens diagnostics, Scan.Layout .field 0 query.toList tokens diagnostics ∧
      Query.tokens query = tokens ++ [Token.final (byteLength query.toList)] ∧
        Grammar.Derives .expression tokens filter := by
  obtain ⟨tokens, diagnostics, layout, marked⟩ := exists_layout query
  exact ⟨tokens, diagnostics, layout, marked,
    (parse_eq_ok_some_iff marked layout.ordinary).mp read⟩

end Query

end FilterBox
