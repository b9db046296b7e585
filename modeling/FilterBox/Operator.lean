import FilterBox.Text.Basic

/-!
How a condition compares its field with its value, and how conditions combine.

An operator has a name, used when conditions are exchanged, and a symbol, used in query text.
-/

namespace FilterBox

open Text

inductive Operator
  | equals
  | notEquals
  | greater
  | less
  | greaterOrEqual
  | lessOrEqual
  | like
  | notLike
  | inList
  | notInList
  deriving DecidableEq

namespace Operator

def all : List Operator :=
  [equals, notEquals, greater, less, greaterOrEqual, lessOrEqual, like, notLike, inList, notInList]

def name : Operator → String
  | equals => "EQUALS"
  | notEquals => "NOT_EQUALS"
  | greater => "GREATER_THAN"
  | less => "LESS_THAN"
  | greaterOrEqual => "GREATER_THAN_OR_EQUAL"
  | lessOrEqual => "LESS_THAN_OR_EQUAL"
  | like => "LIKE"
  | notLike => "NOT_LIKE"
  | inList => "IN"
  | notInList => "NOT_IN"

def symbol : Operator → String
  | equals => ":"
  | notEquals => ":!="
  | greater => ":>"
  | less => ":<"
  | greaterOrEqual => ":>="
  | lessOrEqual => ":<="
  | like => ":LIKE"
  | notLike => ":NOT LIKE"
  | inList => ":IN"
  | notInList => ":NOT IN"

/-- Whether a parenthesised list follows rather than one value. -/
def takesList : Operator → Bool
  | inList | notInList => true
  | _ => false

/-- A symbol that ends in a word needs a blank before its value. -/
def isWord : Operator → Bool
  | like | notLike | inList | notInList => true
  | _ => false

/-- Reads a name in any ASCII case, with blanks around it. -/
def ofName? (text : String) : Option Operator :=
  all.find? fun operator => spells operator.name (trim text.toList)

/-- Reads a symbol in any ASCII case and any spacing between its words; `=` is another spelling of
`:`. -/
def ofSymbol? (text : String) : Option Operator :=
  let spaced := (words text.toList).intersperse [' '] |>.flatten
  if spaced = ['='] then some equals else all.find? fun operator => spells operator.symbol spaced

def ofText? (text : String) : Option Operator :=
  (ofName? text).or (ofSymbol? text)

end Operator

inductive Connective
  | and
  | or
  | not
  deriving DecidableEq

namespace Connective

def all : List Connective :=
  [and, or, not]

def keyword : Connective → String
  | and => "AND"
  | or => "OR"
  | not => "NOT"

def ofKeyword? (text : String) : Option Connective :=
  all.find? fun connective => spells connective.keyword text.toList

end Connective

end FilterBox
