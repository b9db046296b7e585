import FilterBox.Filter.Basic
import FilterBox.SyntaxError
import FilterBox.Token.Scan

/-!
Reading a filter from tokens, by recursive descent.

    expression  :=  product (OR product)*
    product     :=  factor (AND factor)*
    factor      :=  NOT factor  |  operand
    operand     :=  '(' expression ')'  |  field operator value  |  field operator list
    list        :=  '(' value (',' value)* ')'

`OR` and `AND` group to the left. Each reader begins at an index and says where it ends. Tokens made
by hand may lack the final mark: running off the end reads as one.
-/

namespace FilterBox

namespace Parser

/-- What was read of the tokens from an index on, and the index behind the last of them. -/
structure Read (tokens : Array Token) (start : Nat) (α : Type) where
  value : α
  next : Nat
  forward : start < next
  inside : next ≤ tokens.size

namespace Read

variable {tokens : Array Token} {start : Nat} {α β γ : Type}

theorem shorter (read : Read tokens start α) : tokens.size - read.next < tokens.size - start := by
  have forward := read.forward
  have inside := read.inside
  omega

def give (read : Read tokens start α) (value : β) : Read tokens start β :=
  { read with value }

def extend (first : Read tokens start α) (second : Read tokens first.next β) (value : γ) :
    Read tokens start γ :=
  ⟨value, second.next, Nat.lt_trans first.forward second.forward, second.inside⟩

end Read

section Cursor

variable (tokens : Array Token) (index : Nat)

def peek : Token.Kind :=
  match tokens[index]? with
  | some token => token.kind
  | none => .endOfInput

def position : Nat :=
  match tokens[index]? with
  | some token => token.span.start
  | none => (tokens.back?.map fun token => token.span.stop).getD 0

def unexpected (expected : Expectation) : SyntaxError :=
  ⟨⟨expected, peek tokens index⟩, position tokens index⟩

theorem lt_size_of_peek (stands : peek tokens index ≠ .endOfInput) : index < tokens.size := by
  unfold peek at stands
  split at stands
  next found => exact (Array.getElem?_eq_some_iff.mp found).1
  next => contradiction

def skip (stands : peek tokens index ≠ .endOfInput) : Read tokens index Unit :=
  ⟨(), index + 1, index.lt_succ_self, lt_size_of_peek tokens index stands⟩

def expect (kind : Token.Kind) : Except SyntaxError (Read tokens index Token) :=
  match found : tokens[index]? with
  | some token =>
      if token.kind = kind then
        .ok ⟨token, index + 1, index.lt_succ_self, (Array.getElem?_eq_some_iff.mp found).1⟩
      else
        .error (unexpected tokens index (.token kind))
  | none => .error (unexpected tokens index (.token kind))

def consume? (connective : Connective) : Option (Read tokens index Unit) :=
  match found : tokens[index]? with
  | some token =>
      if token.connective? = some connective then
        some ⟨(), index + 1, index.lt_succ_self, (Array.getElem?_eq_some_iff.mp found).1⟩
      else
        none
  | none => none

end Cursor

section Condition

variable (tokens : Array Token)

def single (index : Nat) : Except SyntaxError (Read tokens index (Value × Span)) := do
  let token ← expect tokens index .value
  return token.give (token.value.value, token.value.span)

def items (start : Nat) (read : Read tokens start (List Value)) :
    Except SyntaxError (Read tokens start (List Value)) :=
  match stands : peek tokens read.next with
  | .comma => do
      let comma := skip tokens read.next (by simp [stands])
      let item ← expect tokens comma.next .value
      items start (read.extend (comma.extend item ()) (read.value ++ [item.value.value]))
  | _ => .ok read
termination_by tokens.size - read.next
decreasing_by exact (comma.extend item ()).shorter

def list (index : Nat) : Except SyntaxError (Read tokens index (Value × Span)) := do
  let opening ← expect tokens index .leftParen
  let first ← expect tokens opening.next .value
  let items ← items tokens opening.next (first.give [first.value.value])
  let closing ← expect tokens items.next .rightParen
  return opening.extend (items.extend closing ()) (.list items.value, closing.value.span)

def condition (index : Nat) : Except SyntaxError (Read tokens index Filter) := do
  let field ← expect tokens index .field
  let sign ← expect tokens field.next .operator
  let operator := sign.value.operator
  let operand ←
    if operator.takesList then list tokens sign.next else single tokens sign.next
  let (value, last) := operand.value
  return field.extend (sign.extend operand ())
    (.condition ⟨field.value.text, operator, value, some (field.value.span.cover last)⟩)

end Condition

variable (tokens : Array Token)

mutual

def expression (index : Nat) : Except SyntaxError (Read tokens index Filter) := do
  let left ← product index
  disjuncts index left
termination_by (tokens.size - index, 3)
decreasing_by
  · exact .right _ (by decide)
  · exact .left _ _ left.shorter

def disjuncts (start : Nat) (left : Read tokens start Filter) :
    Except SyntaxError (Read tokens start Filter) :=
  match consume? tokens left.next .or with
  | some mark => do
      let right ← product mark.next
      disjuncts start (left.extend (mark.extend right ()) (.disjunction left.value right.value))
  | none => .ok left
termination_by (tokens.size - left.next, 0)
decreasing_by
  · exact .left _ _ mark.shorter
  · exact .left _ _ (mark.extend right ()).shorter

def product (index : Nat) : Except SyntaxError (Read tokens index Filter) := do
  let left ← factor index
  conjuncts index left
termination_by (tokens.size - index, 2)
decreasing_by
  · exact .right _ (by decide)
  · exact .left _ _ left.shorter

def conjuncts (start : Nat) (left : Read tokens start Filter) :
    Except SyntaxError (Read tokens start Filter) :=
  match consume? tokens left.next .and with
  | some mark => do
      let right ← factor mark.next
      conjuncts start (left.extend (mark.extend right ()) (.conjunction left.value right.value))
  | none => .ok left
termination_by (tokens.size - left.next, 0)
decreasing_by
  · exact .left _ _ mark.shorter
  · exact .left _ _ (mark.extend right ()).shorter

def factor (index : Nat) : Except SyntaxError (Read tokens index Filter) :=
  match consume? tokens index .not with
  | some mark => do
      let operand ← factor mark.next
      return mark.extend operand (.negation operand.value)
  | none => operand index
termination_by (tokens.size - index, 1)
decreasing_by
  · exact .left _ _ mark.shorter
  · exact .right _ (by decide)

def operand (index : Nat) : Except SyntaxError (Read tokens index Filter) :=
  match stands : peek tokens index with
  | .leftParen => do
      let opening := skip tokens index (by simp [stands])
      let inner ← expression opening.next
      let closing ← expect tokens inner.next .rightParen
      return opening.extend (inner.extend closing ()) inner.value
  | .field => condition tokens index
  | _ => .error (unexpected tokens index .operand)
termination_by (tokens.size - index, 0)
decreasing_by exact .left _ _ opening.shorter

end

end Parser

/-- Reads a filter; no tokens make no filter. -/
def Filter.ofTokens (tokens : List Token) : Except SyntaxError (Option Filter) :=
  let tokens := tokens.toArray
  if Parser.peek tokens 0 = .endOfInput then
    .ok none
  else do
    let read ← Parser.expression tokens 0
    if Parser.peek tokens read.next = .endOfInput then
      return some read.value
    else
      throw (Parser.unexpected tokens read.next (.token .endOfInput))

namespace Query

def parse (query : String) : Except SyntaxError (Option Filter) :=
  Filter.ofTokens (tokens query)

end Query

end FilterBox
