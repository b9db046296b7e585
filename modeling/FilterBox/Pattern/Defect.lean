import FilterBox.Pattern.Basic

/-!
What may be wrong with the text of a pattern.
-/

namespace FilterBox.Pattern

inductive Flaw
  | backreference
  | codeOutOfRange
  | digitNotHexadecimal
  | escapeUnfinished
  | escapeUnknown
  | flagDangling
  | flagRepeated
  | flagsUnfinished
  | flagUnknown
  | groupUnclosed
  | groupUnopened
  | invalidEncoding
  | lookAround
  | nameEmpty
  | nameInvalid
  | nameRepeated
  | nameUnfinished
  | negationRepeated
  | nesting (limit : Nat)
  | numberTooLarge
  | propertyInvalid
  | propertyUnknown
  | rangeEndNotLiteral
  | rangeReversed
  | repetitionUnclosed
  | repetitionWithoutCount
  | repetitionWithoutOperand
  | setItemNotCharacter
  | setUnclosed
  | unicodeOff
  | wordBoundaryUnclosed
  | wordBoundaryUnfinished

def Flaw.message : Flaw → String
  | backreference => "backreferences are not supported"
  | codeOutOfRange => "hexadecimal literal is not a Unicode scalar value"
  | digitNotHexadecimal => "invalid hexadecimal digit"
  | escapeUnfinished => "incomplete escape sequence, reached end of pattern prematurely"
  | escapeUnknown => "unrecognized escape sequence"
  | flagDangling => "dangling flag negation operator"
  | flagRepeated => "duplicate flag"
  | flagsUnfinished => "expected flag but got end of regex"
  | flagUnknown => "unrecognized flag"
  | groupUnclosed => "unclosed group"
  | groupUnopened => "unopened group"
  | invalidEncoding => "pattern can match invalid UTF-8"
  | lookAround => "look-around, including look-ahead and look-behind, is not supported"
  | nameEmpty => "empty capture group name"
  | nameInvalid => "invalid capture group character"
  | nameRepeated => "duplicate capture group name"
  | nameUnfinished => "unclosed capture group name"
  | negationRepeated => "flag negation operator repeated"
  | nesting limit => s!"exceed the maximum number of nested parentheses/brackets ({limit})"
  | numberTooLarge => "decimal literal invalid"
  | propertyInvalid => "invalid Unicode character class"
  | propertyUnknown => "Unicode property not found"
  | rangeEndNotLiteral => "invalid range boundary, must be a literal"
  | rangeReversed => "invalid character class range, the start must be <= the end"
  | repetitionUnclosed => "unclosed counted repetition"
  | repetitionWithoutCount => "repetition quantifier expects a valid decimal"
  | repetitionWithoutOperand => "repetition operator missing expression"
  | setItemNotCharacter => "invalid escape sequence found in character class"
  | setUnclosed => "unclosed character class"
  | unicodeOff => "Unicode not allowed here"
  | wordBoundaryUnclosed =>
      "special word boundary assertion is either unclosed or contains an invalid character"
  | wordBoundaryUnfinished =>
      "found either the beginning of a special word boundary or a bounded repetition on a \\b " ++
        "with an opening brace, but no closing brace"

/-- What is wrong and where; the earlier place is that of something which may occur only once. -/
structure Defect where
  flaw : Flaw
  extent : Extent
  earlier : Option Extent

def fail {Content : Type} (flaw : Flaw) (extent : Extent) : Except Defect Content :=
  .error ⟨flaw, extent, none⟩

end FilterBox.Pattern
