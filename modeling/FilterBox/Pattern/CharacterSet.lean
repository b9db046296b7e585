import FilterBox.Pattern.Escape

/-!
Reading a set of characters between brackets.

    set        :=  '[' ['^'] '-'* [']'] operand (operator operand)* ']'
    operand    :=  item*
    operator   :=  '&&'  |  '--'  |  '~~'
    item       :=  set  |  '[:' ['^'] name ':]'  |  leaf  |  leaf '-' leaf

Operators group to the left. The reader holds the open brackets on a stack.
-/

namespace FilterBox.Pattern

def setNames : List String :=
  ["alnum", "alpha", "ascii", "blank", "cntrl", "digit", "graph", "lower", "print", "punct",
    "space", "upper", "word", "xdigit"]

/-- Reads a name in colons and brackets. What looks like one but has no known name is a set like any
other. -/
def readNamed? : List Char → Option (CharacterSet × List Char)
  | '[' :: ':' :: inner =>
      let negated := inner.head? = some '^'
      let inner := if negated then inner.tail else inner
      match inner.span (· ≠ ':') with
      | (name, ':' :: ']' :: later) =>
          if setNames.contains (String.ofList name) then
            let start := inner.length + if negated then 3 else 2
            some (.named ⟨start, later.length⟩ negated, later)
          else
            none
      | _ => none
  | _ => none

/-- An open bracket: its opening, the operand to the left of the last operator, the place behind
that operator and the items since then, last first. -/
structure Bracket where
  opening : Extent
  negated : Bool
  left : Option CharacterSet
  start : Place
  items : List CharacterSet

namespace Bracket

def add (bracket : Bracket) (item : CharacterSet) : Bracket :=
  { bracket with items := item :: bracket.items }

def operand (bracket : Bracket) : CharacterSet :=
  match bracket.items.reverse with
  | [] => .empty ⟨bracket.start, bracket.start⟩
  | [item] => item
  | first :: items =>
      .union (first.extent.through ((items.getLast?.getD first).extent)) (first :: items)

def content (bracket : Bracket) : CharacterSet :=
  match bracket.left with
  | none => bracket.operand
  | some left => .operation left bracket.operand

def operate (bracket : Bracket) (place : Place) : Bracket :=
  { bracket with left := some bracket.content, start := place, items := [] }

def close (bracket : Bracket) (place : Place) : CharacterSet :=
  .bracketed ⟨bracket.opening.start, place⟩ bracket.negated bracket.content

def unclosed {Content : Type} (bracket : Bracket) : Except Defect Content :=
  fail .setUnclosed bracket.opening

/-- Reads the opening of a set. Dashes at the start stand for themselves, and so does a closing
bracket there, because a set cannot be empty. -/
def read (spaced : Bool) (text rest : List Char) : Except Defect (Bracket × List Char) := do
  let cut {Content : Type} : Except Defect Content := fail .setUnclosed (.between text [])
  let inner ← match skipGap spaced rest with
    | [] => cut
    | '^' :: inner => pure (true, skipGap spaced inner)
    | inner => pure (false, inner)
  let (negated, inner) := inner
  match readRun spaced (· = '-') inner with
  | ([], []) => cut
  | (_, []) => fail .setUnclosed (.point text)
  | ([], ']' :: later) =>
      let item := literal ⟨']', .between (']' :: later) later⟩
      match skipGap spaced later with
      | [] => cut
      | later => return (⟨.between text later, negated, none, inner.length, [item]⟩, later)
  | (dashes, later) =>
      let items := (dashes.map literal).reverse
      return (⟨.between text later, negated, none, inner.length, items⟩, later)
where
  literal (character : Placed Char) : CharacterSet :=
    .leaf ⟨.literal ⟨character.content, false⟩, character.extent⟩

end Bracket

def readMember (spaced : Bool) (first : Char) (rest : List Char) :
    Except Defect (Placed Leaf × List Char) :=
  if first = '\\' then
    readLeaf spaced first rest
  else
    .ok (⟨.literal ⟨first, false⟩, .between (first :: rest) rest⟩, rest)

def item (leaf : Placed Leaf) : Except Defect CharacterSet :=
  match leaf.content with
  | .anyCharacter | .anchor | .wordBoundary => fail .setItemNotCharacter leaf.extent
  | .literal _ | .shorthand _ | .property _ => .ok (.leaf leaf)

def rangeEnd (leaf : Placed Leaf) : Except Defect (Placed Literal) :=
  match leaf.content with
  | .literal literal => .ok ⟨literal, leaf.extent⟩
  | _ => fail .rangeEndNotLiteral leaf.extent

/-- Whether what follows a dash makes it stand for itself. In spaced text one number sign with the
blanks around it is looked past. -/
def isPlainDash (spaced : Bool) (text : List Char) : Bool :=
  let seen :=
    if spaced then
      match text.dropWhile Text.isSpace with
      | '#' :: rest => rest.dropWhile Text.isSpace
      | rest => rest
    else
      text
  seen.head? = some ']' || seen.head? = some '-'

def readItem (spaced : Bool) (bracket : Bracket) (first : Char) (rest : List Char) :
    Except Defect (CharacterSet × List Char) := do
  let (low, later) ← readMember spaced first rest
  match skipGap spaced later with
  | [] => bracket.unclosed
  | '-' :: later =>
      if isPlainDash spaced later then
        return (← item low, '-' :: later)
      else
        match skipGap spaced later with
        | [] => bracket.unclosed
        | second :: later => do
            let (high, later) ← readMember spaced second later
            let low ← rangeEnd low
            let high ← rangeEnd high
            if low.content.character ≤ high.content.character then
              return (.range low high, later)
            else
              fail .rangeReversed (low.extent.through high.extent)
  | later => return (← item low, later)

/-- The brackets that are open, the innermost apart. -/
structure SetReader where
  bracket : Bracket
  outer : List Bracket

namespace SetReader

def step (spaced : Bool) (reader : SetReader) (first : Char) (rest : List Char) :
    Except Defect ((SetReader ⊕ CharacterSet) × List Char) :=
  let operator (later : List Char) :=
    .ok (.inl { reader with bracket := reader.bracket.operate later.length }, later)
  match first, rest with
  | '[', _ =>
      match readNamed? (first :: rest) with
      | some (set, later) =>
          .ok (.inl { reader with bracket := reader.bracket.add set }, later)
      | none => do
          let (bracket, later) ← Bracket.read spaced (first :: rest) rest
          return (.inl ⟨bracket, reader.bracket :: reader.outer⟩, later)
  | ']', _ =>
      let set := reader.bracket.close rest.length
      match reader.outer with
      | [] => .ok (.inr set, rest)
      | bracket :: outer => .ok (.inl ⟨bracket.add set, outer⟩, rest)
  | '&', '&' :: later | '-', '-' :: later | '~', '~' :: later => operator later
  | _, _ => do
      let (item, later) ← readItem spaced reader.bracket first rest
      return (.inl { reader with bracket := reader.bracket.add item }, later)

/-- Reads to the end of the set. Each part has a character, so the length of the text is fuel
enough. -/
def run (spaced : Bool) : Nat → SetReader → List Char → Except Defect (CharacterSet × List Char)
  | 0, reader, _ => reader.bracket.unclosed
  | fuel + 1, reader, text =>
      match skipGap spaced text with
      | [] => reader.bracket.unclosed
      | first :: rest => do
          match ← reader.step spaced first rest with
          | (.inl reader, later) => run spaced fuel reader later
          | (.inr set, later) => return (set, later)

end SetReader

def readSet (spaced : Bool) (text rest : List Char) : Except Defect (CharacterSet × List Char) := do
  let (bracket, later) ← Bracket.read spaced text rest
  SetReader.run spaced later.length ⟨bracket, []⟩ later

end FilterBox.Pattern
