import FilterBox.Pattern.CharacterSet
import FilterBox.Text.Numeric

/-!
Reading a pattern.

    pattern     :=  branch ('|' branch)*
    branch      :=  part*
    part        :=  leaf  |  set  |  '(' pattern ')'  |  '(?' flags ')'  |  part repetition
    repetition  :=  ('?' | '*' | '+') ['?']

A group may have a name or flags of its own at its start. The reader is a machine with a stack of
open groups.
-/

namespace FilterBox.Pattern

open Text

-- A power is the core one, whatever instances are in reach.
attribute [local instance (high)] instPowNat

/-- What is wrong with the count that a brace begins: there is no brace to close it, but a missing
or very large number is noticed first. The rest is what follows the opening brace. -/
def countDefect (spaced : Bool) (text rest : List Char) : Defect :=
  let number := (skipGap spaced rest).dropWhile isSpace
  let (digits, later) := readRun spaced Char.isDigit number
  let behind := later.dropWhile isSpace
  let value := Nat.ofDigitChars 10 (digits.map Placed.content) 0
  if behind.isEmpty then ⟨.repetitionUnclosed, .between text [], none⟩
  else if digits.isEmpty then ⟨.repetitionWithoutCount, .point number, none⟩
  else if 2 ^ (32 : Nat) ≤ value then ⟨.numberTooLarge, .between number later, none⟩
  else ⟨.repetitionUnclosed, .between text behind, none⟩

def dropName : List Char → List Char
  | [] => []
  | first :: rest =>
      if first = '_' || isAlphabetic first then
        rest.dropWhile fun character =>
          character = '_' || character = '.' || character = '[' || character = ']' ||
            isAlphanumeric character
      else
        first :: rest

/-- Reads the name of a group, which none of the names so far may be, and the sign that closes
it. -/
def readName (names : List (Placed (List Char))) (text : List Char) :
    Except Defect (Placed (List Char) × List Char) :=
  match dropName text with
  | [] => fail .nameUnfinished (.point [])
  | '>' :: later =>
      let extent := Extent.between text ('>' :: later)
      let name := text.take (extent.start - extent.stop)
      match names.find? (·.content = name) with
      | some earlier => .error ⟨.nameRepeated, extent, some earlier.extent⟩
      | none =>
          if name.isEmpty then fail .nameEmpty extent else .ok (⟨name, extent⟩, later)
  | other :: later => fail .nameInvalid (.between (other :: later) later)

/-- Reads flags up to the sign behind them, given those before them, last first. A dash stands
between the flags to be turned on and those to be turned off; it comes as no flag. -/
def readFlags (earlier : List (Placed (Option Flag))) :
    List Char → Except Defect (List (Placed (Option Flag)) × List Char)
  | [] => fail .flagsUnfinished (.point [])
  | first :: rest => do
      if first = ':' || first = ')' then
        match earlier with
        | ⟨none, extent⟩ :: _ => fail .flagDangling extent
        | _ => return (earlier.reverse, first :: rest)
      else
        let extent := Extent.between (first :: rest) rest
        let flag := Flag.ofLetter? first
        if flag.isNone && first ≠ '-' then
          fail .flagUnknown extent
        else
          match earlier.find? (·.content = flag) with
          | some seen =>
              let flaw := if flag.isNone then Flaw.negationRepeated else .flagRepeated
              .error ⟨flaw, extent, some seen.extent⟩
          | none => readFlags (⟨flag, extent⟩ :: earlier) rest

def settingOf (value : Bool) : List (Option Flag) → Setting
  | [] => []
  | none :: rest => settingOf false rest
  | some flag :: rest => (flag, value) :: settingOf value rest

/-- An unfinished alternation: where it begins, its finished branches, where the branch after them
begins and the parts of that. Branches and parts come last first. -/
structure Level where
  start : Place
  branches : List Pattern
  place : Place
  parts : List Pattern

namespace Level

def empty (place : Place) : Level :=
  ⟨place, [], place, []⟩

def add (level : Level) (part : Pattern) : Level :=
  { level with parts := part :: level.parts }

def branch (level : Level) (stop : Place) : Pattern :=
  match level.parts.reverse with
  | [] => .empty ⟨level.place, stop⟩
  | [part] => part
  | parts => .concatenation ⟨level.place, stop⟩ parts

def pattern (level : Level) (stop : Place) : Pattern :=
  match level.branches.reverse with
  | [] => level.branch stop
  | branches => .alternation ⟨level.start, stop⟩ (branches ++ [level.branch stop])

def alternate (level : Level) (stop place : Place) : Level :=
  { level with branches := level.branch stop :: level.branches, place, parts := [] }

def operand? (level : Level) : Option (Pattern × List Pattern) :=
  match level.parts with
  | [] | .flags .. :: _ => none
  | operand :: parts => some (operand, parts)

end Level

/-- An open group: its opening and setting, and the level around it with whether that is spaced. -/
structure OpenGroup where
  opening : Extent
  setting : Setting
  spaced : Bool
  level : Level

structure Reader where
  spaced : Bool
  names : List (Placed (List Char))
  level : Level
  groups : List OpenGroup

namespace Reader

def start (text : List Char) : Reader :=
  ⟨false, [], .empty text.length, []⟩

def add (reader : Reader) (part : Pattern) : Reader :=
  { reader with level := reader.level.add part }

def enter (reader : Reader) (opening : Extent) (setting : Setting) (inner : List Char) : Reader :=
  { reader with
    spaced := setting.apply .spaced reader.spaced
    level := .empty inner.length
    groups := ⟨opening, setting, reader.spaced, reader.level⟩ :: reader.groups }

/-- Reads the start of a group, or flags that stand by themselves; the rest is what follows the
parenthesis. -/
def openGroup (reader : Reader) (text rest : List Char) : Except Defect (Reader × List Char) :=
  let opening := Extent.between text rest
  match skipGap reader.spaced rest with
  | '?' :: '=' :: later | '?' :: '!' :: later | '?' :: '<' :: '=' :: later
  | '?' :: '<' :: '!' :: later => fail .lookAround (.between text later)
  | '?' :: 'P' :: '<' :: inner | '?' :: '<' :: inner => do
      let (name, later) ← readName reader.names inner
      return (enter { reader with names := name :: reader.names } opening [] later, later)
  | ['?'] => fail .groupUnclosed opening
  | '?' :: inner => do
      let (items, behind) ← readFlags [] inner
      let setting := settingOf true (items.map Placed.content)
      let later := behind.tail
      if behind.head? = some ':' then
        return (reader.enter opening setting later, later)
      else if items.isEmpty then
        fail .repetitionWithoutOperand (.point ('?' :: inner))
      else
        let part := Pattern.flags (.between text later) setting
        return ({ reader.add part with spaced := setting.apply .spaced reader.spaced }, later)
  | inner => .ok (reader.enter opening [] inner, inner)

def closeGroup (reader : Reader) (text rest : List Char) : Except Defect Reader :=
  match reader.groups with
  | [] => fail .groupUnopened (.between text rest)
  | inner :: groups =>
      let body := reader.level.pattern text.length
      let part := Pattern.group ⟨inner.opening.start, rest.length⟩ inner.setting body
      .ok { reader with spaced := inner.spaced, level := inner.level.add part, groups }

def operand (reader : Reader) (text : List Char) : Except Defect (Pattern × List Pattern) :=
  match reader.level.operand? with
  | some operand => .ok operand
  | none => fail .repetitionWithoutOperand (.point text)

def step (reader : Reader) (first : Char) (rest : List Char) :
    Except Defect (Reader × List Char) := do
  let text := first :: rest
  match first with
  | '(' => reader.openGroup text rest
  | ')' => return (← reader.closeGroup text rest, rest)
  | '|' => return ({ reader with level := reader.level.alternate text.length rest.length }, rest)
  | '[' =>
      let (set, later) ← readSet reader.spaced text rest
      return (reader.add (.characters set), later)
  | '?' | '*' | '+' =>
      let (operand, parts) ← reader.operand text
      let later := if rest.head? = some '?' then rest.tail else rest
      let part := Pattern.repetition ⟨operand.extent.start, later.length⟩ operand
      return ({ reader with level.parts := part :: parts }, later)
  | '\x7b' =>
      let _ ← reader.operand text
      .error (countDefect reader.spaced text rest)
  | _ =>
      let (part, later) ← readLeaf reader.spaced first rest
      return (reader.add (.leaf part), later)

def conclude (reader : Reader) : Except Defect Pattern :=
  match reader.groups with
  | [] => .ok (reader.level.pattern 0)
  | innermost :: _ => fail .groupUnclosed innermost.opening

/-- Reads to the end. Each part has a character, so the length of the text is fuel enough. -/
def run : Nat → Reader → List Char → Except Defect Pattern
  | 0, reader, _ => reader.conclude
  | fuel + 1, reader, text =>
      match skipGap reader.spaced text with
      | [] => reader.conclude
      | first :: rest => do
          let (reader, later) ← reader.step first rest
          run fuel reader later

end Reader

def ofText (text : List Char) : Except Defect Pattern :=
  Reader.run text.length (.start text) text

end FilterBox.Pattern
