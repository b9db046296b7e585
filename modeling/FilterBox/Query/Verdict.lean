import FilterBox.Filter.Parser
import FilterBox.Query.Unfinished

/-!
Judging a query while it is typed: what may still become a query is accepted.
-/

namespace FilterBox

open Text

inductive Verdict
  | accepted
  | rejected (mismatch : Mismatch)
  deriving DecidableEq

namespace Verdict

def isAccepted : Verdict → Bool
  | accepted => true
  | rejected _ => false

def message? : Verdict → Option String
  | accepted => none
  | rejected mismatch => some mismatch.message

end Verdict

namespace Token

def leavesOpen (token : Token) : Bool :=
  match token.kind with
  | .operator | .connective | .field | .leftParen | .comma => true
  | .value | .rightParen | .endOfInput => false

def openParens (tokens : List Token) : Int :=
  tokens.countP (·.kind = .leftParen) - tokens.countP (·.kind = .rightParen)

/-- Whether the tokens stop inside a condition, a group or a list: more has to follow the last
token, or a parenthesis is open. -/
def endMidway (tokens : List Token) : Bool :=
  (tokens.reverse.find? fun token => token.kind ≠ .endOfInput).any leavesOpen ||
    0 < openParens tokens

end Token

namespace Query

/-- A query is rejected only if it neither is a filter nor looks like the beginning of one. -/
def verdict (query : String) : Verdict :=
  if (trim query.toList).isEmpty || looksUnfinished query then
    .accepted
  else
    match parse query with
    | .ok _ => .accepted
    | .error error =>
        if error.isEndOfInput && Token.endMidway (tokens query) then
          .accepted
        else
          .rejected error.toMismatch

end Query

end FilterBox
