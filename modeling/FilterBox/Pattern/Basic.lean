/-!
Regular expressions over characters, each part with its extent in the text it was read from.

A pattern stands between braces in a list with commas. So neither a closing brace nor a comma occurs
in its text, and whatever would need one cannot be written: a counted repetition, a property with a
long name, a code between braces.
-/

namespace FilterBox

abbrev Place := Nat

structure Extent where
  start : Place
  stop : Place

namespace Extent

def between (text rest : List Char) : Extent :=
  ⟨text.length, rest.length⟩

def point (text : List Char) : Extent :=
  between text text

def through (first last : Extent) : Extent :=
  ⟨first.start, last.stop⟩

end Extent

/-- Something with its extent in the text it was read from. -/
structure Placed (Content : Type) where
  content : Content
  extent : Extent

namespace Pattern

/-- The manners of matching that a pattern turns on and off. -/
inductive Flag
  | caseless
  | multiline
  | dotAll
  | lazy
  | unicode
  | returns
  | spaced
  deriving DecidableEq

def Flag.ofLetter? : Char → Option Flag
  | 'i' => some caseless
  | 'm' => some multiline
  | 's' => some dotAll
  | 'U' => some lazy
  | 'u' => some unicode
  | 'R' => some returns
  | 'x' => some spaced
  | _ => none

abbrev Setting := List (Flag × Bool)

def Setting.apply (setting : Setting) (flag : Flag) (before : Bool) : Bool :=
  (setting.lookup flag).getD before

/-- A character that stands for itself; given by two hexadecimal digits it may stand for a byte. -/
structure Literal where
  character : Char
  isByte : Bool

inductive Leaf
  | literal (literal : Literal)
  | anyCharacter
  /-- The start or the end of a line or of the text. -/
  | anchor
  /-- A place where a word starts or ends, or one where none does. -/
  | wordBoundary
  /-- Digits, blanks or word characters, or all others. -/
  | shorthand (negated : Bool)
  /-- A property of characters with a name of one letter. -/
  | property (name : Char)

end Pattern

/-- A set of characters as it is written between brackets. -/
inductive CharacterSet
  | empty (extent : Extent)
  | leaf (leaf : Placed Pattern.Leaf)
  | range (first last : Placed Pattern.Literal)
  /-- A set with a name between colons. -/
  | named (extent : Extent) (negated : Bool)
  | bracketed (extent : Extent) (negated : Bool) (content : CharacterSet)
  | union (extent : Extent) (items : List CharacterSet)
  /-- The intersection or a difference of two sets. -/
  | operation (left right : CharacterSet)

def CharacterSet.extent : CharacterSet → Extent
  | empty extent | named extent _ | bracketed extent _ _ | union extent _ => extent
  | leaf placed => placed.extent
  | range first last => first.extent.through last.extent
  | operation left right => left.extent.through right.extent

inductive Pattern
  | empty (extent : Extent)
  | leaf (leaf : Placed Pattern.Leaf)
  | characters (set : CharacterSet)
  /-- Flags that are turned on or off from here to the end of the group. -/
  | flags (extent : Extent) (setting : Pattern.Setting)
  | repetition (extent : Extent) (operand : Pattern)
  | group (extent : Extent) (setting : Pattern.Setting) (body : Pattern)
  | concatenation (extent : Extent) (parts : List Pattern)
  | alternation (extent : Extent) (branches : List Pattern)

def Pattern.extent : Pattern → Extent
  | empty extent | flags extent _ | repetition extent _ | group extent _ _ | concatenation extent _
  | alternation extent _ => extent
  | leaf placed => placed.extent
  | characters set => set.extent

end FilterBox
