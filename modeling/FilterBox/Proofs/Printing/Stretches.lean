import FilterBox.Proofs.Lexeme.Structure
import FilterBox.Proofs.Printing.Scalar

/-!
Reading the stretches that conditions and filters are printed from.
-/

namespace FilterBox

open Text Lexeme Scan

namespace Scan.Reads

theorem sign {character : Char} {rest : List Char} {kind : Token.Kind} (mode : Mode)
    (visible : isSpace character = false)
    (found : sign? (character :: rest) = some (verbatim kind none (character :: rest) 1))
    (offset : Nat) :
    ∃ token : Token,
      Reads mode offset [character] [token]
        (nextMode mode (verbatim kind none (character :: rest) 1)) rest ∧
        token.kind = kind ∧ token.span = ⟨offset, offset + byteLength [character]⟩ := by
  have first : first? mode ([character] ++ rest) = some ⟨kind, none, 1, [character], true⟩ := by
    simp [first?, found, verbatim]
  have begins : endsAt isSpace [character] = false := visible
  obtain ⟨token, read, same, _, _, place⟩ := lexeme begins first offset
  exact ⟨token, read, same, place⟩

theorem opening (mode : Mode) (rest : List Char) (offset : Nat) :
    ∃ token : Token,
      Reads mode offset ['('] [token] (if mode = .list then .item else .field) rest ∧
        token.kind = .leftParen := by
  have found : sign? ('(' :: rest) = some (verbatim .leftParen none ('(' :: rest) 1) := rfl
  obtain ⟨token, read, kind, _⟩ := sign mode (by decide) found offset
  exact ⟨token, read, kind⟩

theorem closing (mode : Mode) (rest : List Char) (offset : Nat) :
    ∃ token : Token, Reads mode offset [')'] [token] .field rest ∧ token.kind = .rightParen ∧
      token.span = ⟨offset, offset + byteLength [')']⟩ := by
  have found : sign? (')' :: rest) = some (verbatim .rightParen none (')' :: rest) 1) := rfl
  exact sign mode (by decide) found offset

theorem comma (rest : List Char) (offset : Nat) :
    ∃ token : Token, Reads .item offset [','] [token] .item rest ∧ token.kind = .comma := by
  have found : sign? (',' :: rest) = some (verbatim .comma none (',' :: rest) 1) := rfl
  obtain ⟨token, read, kind, _⟩ := sign .item (by decide) found offset
  exact ⟨token, read, kind⟩

theorem connective (connective : Connective) (rest : List Char) (offset : Nat) :
    ∃ token : Token,
      Reads .field offset connective.keyword.toList [token] .field (' ' :: rest) ∧
        token.connective? = some connective := by
  let keyword := connective.keyword.toList
  have found : first? .field (keyword ++ ' ' :: rest) =
      some ⟨.connective, none, keyword.length, keyword, true⟩ := by
    cases connective <;> rfl
  obtain ⟨token, read, kind, text, _⟩ := lexeme (by cases connective <;> rfl) found offset
  refine ⟨token, read, ?_⟩
  rw [Token.connective?, if_pos kind, text, String.ofList_toList]
  cases connective <;> rfl

theorem keyword (which : Connective) (rest : List Char) (offset : Nat) :
    ∃ mark : Token,
      Reads .field offset (which.keyword.toList ++ [' ']) [mark] .field rest ∧
        mark.connective? = some which := by
  obtain ⟨mark, read, spelled⟩ := connective which rest offset
  exact ⟨mark, read.append (space ..), spelled⟩

theorem field {name : String} (named : Unfinished.isFieldName name.toList = true)
    (rest : List Char) (offset : Nat) :
    ∃ token : Token,
      Reads .field offset name.toList [token] .field (':' :: rest) ∧
        token.kind = .field ∧ token.text = name ∧
        token.span = ⟨offset, offset + byteLength name.toList⟩ := by
  have visible : endsAt isSpace name.toList = false := by
    simp only [Unfinished.isFieldName, Bool.and_eq_true, List.all_eq_true] at named
    cases written : name.toList with
    | nil => simp [written] at named
    | cons first later =>
        exact isSpace_of_endsValue (endsValue_of_isFieldCharacter
          (named.2 first (by rw [written]; exact List.mem_cons_self)))
  obtain ⟨token, read, kind, text, _, place⟩ := lexeme visible (first?_field named rest) offset
  exact ⟨token, read, kind, by rw [text, String.ofList_toList], place⟩

/-- The symbol of an operator before a text that is apart from it stands for the operator. -/
theorem symbol {operator : Operator} {rest : List Char} (apart : Apart operator rest) (mode : Mode)
    (offset : Nat) :
    ∃ token : Token,
      Reads mode offset operator.symbol.toList [token]
        (if operator.takesList then .list else .value) rest ∧
      token.kind = .operator ∧ token.operator = operator := by
  obtain ⟨token, read, kind, text, _⟩ :=
    lexeme (by cases operator <;> rfl) (first?_symbol mode apart) offset
  simp only [nextMode, String.ofList_toList, Operator.ofSymbol?_symbol] at read
  refine ⟨token, read, kind, ?_⟩
  rw [Token.operator, text, String.ofList_toList, Operator.ofSymbol?_symbol]
  rfl

end Scan.Reads

namespace Value

theorem endsAt_queryText {value : Value} (scalar : value.isList = false) :
    endsAt isSpace value.queryText.toList = false := by
  obtain ⟨first, later, written, inside, _⟩ := head_queryText scalar
  rw [written]
  exact isSpace_of_endsValue inside

theorem reads {value : Value} (scalar : value.isList = false) (readable : value.isReadable = true)
    (mode : Mode) (expected : mode ≠ .field) {rest : List Char}
    (ends : endsAt endsValue rest = true) (offset : Nat) :
    ∃ token : Token,
      Reads mode offset value.queryText.toList [token] (if mode = .item then .item else .field)
        rest ∧
      token.kind = .value ∧ token.value = value ∧
      token.span = ⟨offset, offset + byteLength value.queryText.toList⟩ := by
  obtain ⟨valueKind, content, found, stands⟩ := value?_queryText scalar readable ends
  rw [← first?_queryText scalar expected] at found
  obtain ⟨token, read, kind, text, tokenKind, place⟩ :=
    Reads.lexeme (endsAt_queryText scalar) found offset
  exact ⟨token, read, kind, stands token tokenKind text, place⟩

theorem misreads {value : Value} (scalar : value.isList = false)
    (unreadable : value.isReadable = false) {mode : Mode} (expected : mode ≠ .field)
    {rest : List Char} (ends : endsAt endsValue rest = true) (offset : Nat) :
    ∃ (token : Token) (later : List Token),
      (go mode offset (value.queryText.toList ++ rest)).tokens = token :: later ∧
      token.kind = .value ∧ token.value.equal value = false := by
  obtain ⟨size, content, closed, found, differs⟩ := value?_queryText_misread scalar unreadable ends
  obtain ⟨first, behind, written, inside, _⟩ := head_queryText scalar
  rw [← first?_queryText scalar expected, written, List.cons_append] at found
  obtain ⟨stop, tokens, _⟩ := tokens_go_lexeme (isSpace_of_endsValue inside) found offset
  rw [written, List.cons_append]
  exact ⟨_, _, tokens, rfl, differs _ rfl rfl⟩

end Value

end FilterBox
