import FilterBox.Lexeme
import FilterBox.Text.Escape
import FilterBox.Text.Offset

/-!
Splitting a query into tokens. It never fails: what no token can begin with is left out and
reported.
-/

namespace FilterBox

open Text

/-- Something that was put up with in a query. -/
inductive Diagnostic
  /-- A character that no token begins with was left out. -/
  | dropped (character : Char) (position : Nat)
  /-- A quoted value that begins here runs to the end of the query. -/
  | unterminated (position : Nat)
  deriving DecidableEq

namespace Diagnostic

/-- Only control characters are ever dropped, so all but NUL are shown by their code. -/
def message : Diagnostic → String
  | dropped character position =>
      let shown := if character = '\x00' then "\\0" else codeEscape character
      s!"dropped character '{shown}' at byte {position}"
  | unterminated position => s!"unterminated quoted value starting at byte {position}"

end Diagnostic

/-- The tokens of a query with the final mark, and what was put up with, both in the order of the
text. -/
structure Scan where
  tokens : List Token
  diagnostics : List Diagnostic

namespace Scan

/-- Scans the rest of a query that goes on at a byte offset. A lexeme holds at least the character
that it begins with. -/
def go (mode : Mode) (offset : Nat) : List Char → Scan
  | [] => ⟨[Token.final offset], []⟩
  | character :: rest =>
      if isSpace character then
        go mode (offset + character.utf8Size) rest
      else
        match Lexeme.first? mode (character :: rest) with
        | none =>
            let later := go mode (offset + character.utf8Size) rest
            ⟨later.tokens, .dropped character offset :: later.diagnostics⟩
        | some lexeme =>
            let stop := offset + byteLength ((character :: rest).take lexeme.size)
            let token : Token :=
              ⟨lexeme.kind, String.ofList lexeme.text, lexeme.valueKind, ⟨offset, stop⟩⟩
            let later := go (lexeme.nextMode mode) stop (rest.drop (lexeme.size - 1))
            ⟨token :: later.tokens,
              if lexeme.closed then later.diagnostics
              else .unterminated offset :: later.diagnostics⟩
termination_by text => text.length
decreasing_by
  all_goals
    simp only [List.length_cons, List.length_drop]
    omega

end Scan

namespace Query

def scan (query : String) : Scan :=
  Scan.go .field 0 query.toList

def tokens (query : String) : List Token :=
  (scan query).tokens

end Query

end FilterBox
