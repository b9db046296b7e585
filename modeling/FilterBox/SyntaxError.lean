import FilterBox.Token.Basic

/-!
Why a token list is no filter.
-/

namespace FilterBox

inductive Expectation
  | token (kind : Token.Kind)
  | operand
  deriving DecidableEq

def Expectation.describe : Expectation → String
  | token kind => kind.describe
  | operand => "field or '('"

structure Mismatch where
  expected : Expectation
  found : Token.Kind
  deriving DecidableEq

def Mismatch.message (mismatch : Mismatch) : String :=
  s!"expected {mismatch.expected.describe}, found {mismatch.found.describe}"

/-- The first token that cannot be read, with the byte offset of its start. -/
structure SyntaxError extends Mismatch where
  position : Nat
  deriving DecidableEq

namespace SyntaxError

def describe (error : SyntaxError) : String :=
  s!"{error.message} (at byte {error.position})"

def isEndOfInput (error : SyntaxError) : Bool :=
  error.found = .endOfInput

end SyntaxError

end FilterBox
