import FilterBox.Pattern.Defect
import FilterBox.Text.Basic
import FilterBox.Text.Escape

/-!
Reading the least parts of a pattern, above all what begins with a backslash.

In spaced text blanks mean nothing, nor does anything from a number sign to the end of its line.
-/

namespace FilterBox.Pattern

open Text

/-- The characters of a class at the front of a text, and what follows them. Spaced text may have
gaps before, between and behind them. -/
def readRun (spaced : Bool) (inside : Char → Bool) (text : List Char) :
    List (Placed Char) × List Char :=
  go false text
where
  go (remark : Bool) : List Char → List (Placed Char) × List Char
    | [] => ([], [])
    | character :: rest =>
        if remark then go (character ≠ '\n') rest
        else if spaced && isSpace character then go false rest
        else if spaced && character = '#' then go true rest
        else if inside character then
          let (others, later) := go false rest
          (⟨character, .between (character :: rest) rest⟩ :: others, later)
        else ([], character :: rest)

def skipGap (spaced : Bool) (text : List Char) : List Char :=
  (readRun spaced (fun _ => false) text).2

def readDigits (spaced : Bool) : Nat → Nat → List Char → Except Defect (Nat × List Char)
  | 0, code, text => .ok (code, text)
  | _ + 1, _, [] => fail .escapeUnfinished (.point [])
  | count + 1, code, digit :: rest =>
      match hexDigit? digit with
      | some value => readDigits spaced count (16 * code + value) (skipGap spaced rest)
      | none => fail .digitNotHexadecimal (.between (digit :: rest) rest)

/-- Reads the code of a character. The text starts at the backslash, the rest behind the letter that
tells how many digits there are. -/
def readCode (spaced : Bool) (count : Nat) (text rest : List Char) :
    Except Defect (Placed Leaf × List Char) :=
  match skipGap spaced rest with
  | '\x7b' :: inner =>
      match (readRun spaced (fun digit => (hexDigit? digit).isSome) inner).2 with
      | [] => fail .escapeUnfinished (.between ('\x7b' :: inner) [])
      | other :: later => fail .digitNotHexadecimal (.between (other :: later) later)
  | digits => do
      let (code, later) ← readDigits spaced count 0 digits
      if code.isValidChar then
        return (⟨.literal ⟨.ofNat code, count = 2⟩, .between text later⟩, later)
      else
        fail .codeOutOfRange (.between digits later)

/-- Reads the name of a property. The text starts at the backslash, the rest behind the letter. -/
def readProperty (spaced : Bool) (text rest : List Char) :
    Except Defect (Placed Leaf × List Char) :=
  match skipGap spaced rest with
  | [] | '\x7b' :: _ => fail .escapeUnfinished (.point [])
  | '\\' :: later => fail .propertyInvalid (.between ('\\' :: later) later)
  | name :: later =>
      let later := skipGap spaced later
      .ok (⟨.property name, .between text later⟩, later)

/-- A brace behind a word boundary begins the name of a kind of boundary or, if no letter comes
first, a count. -/
def readWordBoundary (spaced : Bool) (text rest : List Char) :
    Except Defect (Placed Leaf × List Char) :=
  let boundary := (⟨.wordBoundary, .between text rest⟩, rest)
  match rest with
  | '\x7b' :: inner =>
      match readRun spaced (fun character => character.isAlpha || character = '-') inner with
      | ([], []) => fail .wordBoundaryUnfinished (.between text [])
      | ([], _) => .ok boundary
      | (_, later) => fail .wordBoundaryUnclosed (.between rest later)
  | _ => .ok boundary

def readEscape (spaced : Bool) (text rest : List Char) :
    Except Defect (Placed Leaf × List Char) :=
  match rest with
  | [] => fail .escapeUnfinished (.between text [])
  | letter :: later =>
      let leaf (leaf : Leaf) := .ok (⟨leaf, .between text later⟩, later)
      let literal (character : Char) := leaf (.literal ⟨character, false⟩)
      match letter with
      | 'x' => readCode spaced 2 text later
      | 'u' => readCode spaced 4 text later
      | 'U' => readCode spaced 8 text later
      | 'p' | 'P' => readProperty spaced text later
      | 'd' | 's' | 'w' => leaf (.shorthand false)
      | 'D' | 'S' | 'W' => leaf (.shorthand true)
      | 'a' => literal '\x07'
      | 'f' => literal '\x0c'
      | 'n' => literal '\n'
      | 'r' => literal '\r'
      | 't' => literal '\t'
      | 'v' => literal '\x0b'
      | 'A' | 'z' => leaf .anchor
      | 'b' => readWordBoundary spaced text later
      | 'B' | '<' | '>' => leaf .wordBoundary
      | _ =>
          if letter.isDigit then fail .backreference (.between text later)
          else if letter.isAlpha || 0x80 ≤ letter.toNat then
            fail .escapeUnknown (.between text later)
          else literal letter

/-- Reads a part that has no signs of its own around it; the rest is what follows its first
character. -/
def readLeaf (spaced : Bool) (first : Char) (rest : List Char) :
    Except Defect (Placed Leaf × List Char) :=
  let text := first :: rest
  match first with
  | '\\' => readEscape spaced text rest
  | '.' => .ok (⟨.anyCharacter, .between text rest⟩, rest)
  | '^' | '$' => .ok (⟨.anchor, .between text rest⟩, rest)
  | _ => .ok (⟨.literal ⟨first, false⟩, .between text rest⟩, rest)

end FilterBox.Pattern
