import FilterBox.Pattern.Defect

/-!
What is wrong with a pattern beyond its syntax: nesting that is too deep, and parts that do not go
with the flags around them. Without the flag for Unicode a pattern speaks of bytes, and then nothing
may stand for a byte that is no character.
-/

namespace FilterBox

def firstAtDepths (left right : List Extent) : List Extent :=
  left ++ right.drop left.length

mutual

def CharacterSet.depths : CharacterSet → List Extent
  | .empty _ | .leaf _ | .range .. | .named .. => []
  | .bracketed extent _ content => extent :: content.depths
  | .union extent items => extent :: CharacterSet.depthsOfAll items
  | .operation left right =>
      left.extent.through right.extent :: firstAtDepths left.depths right.depths

def CharacterSet.depthsOfAll : List CharacterSet → List Extent
  | [] => []
  | set :: sets => firstAtDepths set.depths (CharacterSet.depthsOfAll sets)

end

mutual

def Pattern.depths : Pattern → List Extent
  | .empty _ | .leaf _ | .flags .. => []
  | .characters set => set.depths
  | .repetition extent operand => extent :: operand.depths
  | .group extent _ body => extent :: body.depths
  | .concatenation extent parts => extent :: Pattern.depthsOfAll parts
  | .alternation extent branches => extent :: Pattern.depthsOfAll branches

def Pattern.depthsOfAll : List Pattern → List Extent
  | [] => []
  | pattern :: patterns => firstAtDepths pattern.depths (Pattern.depthsOfAll patterns)

end

namespace Pattern

def depthLimit : Nat :=
  250

def checkDepth (pattern : Pattern) : Except Defect Unit :=
  match pattern.depths[depthLimit]? with
  | none => .ok ()
  | some extent => fail (.nesting depthLimit) extent

def checkLiteral (unicode inSet : Bool) (literal : Placed Literal) : Except Defect Unit :=
  if unicode || literal.content.character.toNat < 0x80 then .ok ()
  else if literal.content.isByte then fail .invalidEncoding literal.extent
  else if inSet then fail .unicodeOff literal.extent
  else .ok ()

def checkComplement (unicode negated : Bool) (extent : Extent) : Except Defect Unit :=
  if negated && !unicode then fail .invalidEncoding extent else .ok ()

def isCategory (name : Char) : Bool :=
  ['c', 'l', 'm', 'n', 'p', 's', 'z'].contains name.toLower

def checkLeaf (unicode inSet : Bool) (part : Placed Leaf) : Except Defect Unit :=
  match part.content with
  | .literal literal => checkLiteral unicode inSet ⟨literal, part.extent⟩
  | .anyCharacter => checkComplement unicode true part.extent
  | .anchor | .wordBoundary => .ok ()
  | .shorthand negated => checkComplement unicode negated part.extent
  | .property name =>
      if !unicode then fail .unicodeOff part.extent
      else if isCategory name then .ok ()
      else fail .propertyUnknown part.extent

end Pattern

open Pattern

mutual

def CharacterSet.check (unicode : Bool) : CharacterSet → Except Defect Unit
  | .empty _ => .ok ()
  | .leaf part => checkLeaf unicode true part
  | .range first last => do
      checkLiteral unicode true first
      checkLiteral unicode true last
  | .named extent negated => checkComplement unicode negated extent
  | .bracketed extent negated content => do
      content.check unicode
      checkComplement unicode negated extent
  | .union _ items => CharacterSet.checkAll unicode items
  | .operation left right => do
      left.check unicode
      right.check unicode

def CharacterSet.checkAll (unicode : Bool) : List CharacterSet → Except Defect Unit
  | [] => .ok ()
  | set :: sets => do
      set.check unicode
      CharacterSet.checkAll unicode sets

end

namespace Pattern

/-- What is known at a place in a pattern: whether the flag for Unicode is on, and whether a
boundary between words of all scripts has come before. -/
structure Survey where
  unicode : Bool
  boundary : Bool

end Pattern

mutual

/-- Checks a pattern from left to right. Flags hold to the end of the group they stand in. -/
def Pattern.survey (before : Survey) : Pattern → Except Defect Survey
  | .empty _ => .ok before
  | .leaf part => do
      checkLeaf before.unicode false part
      match part.content with
      | .wordBoundary => return { before with boundary := before.boundary || before.unicode }
      | _ => return before
  | .characters set => do
      set.check before.unicode
      return before
  | .flags _ setting =>
      .ok { before with unicode := setting.apply .unicode before.unicode }
  | .repetition _ operand => operand.survey before
  | .group _ setting body => do
      let after ← body.survey { before with unicode := setting.apply .unicode before.unicode }
      return { after with unicode := before.unicode }
  | .concatenation _ parts => Pattern.surveyAll before parts
  | .alternation _ branches => Pattern.surveyAll before branches

def Pattern.surveyAll (before : Survey) : List Pattern → Except Defect Survey
  | [] => .ok before
  | pattern :: patterns => do
      let after ← pattern.survey before
      Pattern.surveyAll after patterns

end

/-- Checks a whole pattern and tells whether it has a boundary between words of all scripts. -/
def Pattern.check (pattern : Pattern) : Except Defect Bool := do
  pattern.checkDepth
  return (← pattern.survey ⟨true, false⟩).boundary

end FilterBox
