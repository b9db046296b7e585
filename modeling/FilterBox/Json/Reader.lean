import FilterBox.Json.Numeral
import FilterBox.Text.Escape

/-!
Reading JSON text.

The text is split into signs and scalars, and a machine with a stack of open arrays and objects puts
them together. Objects come out in the order of their keys.
-/

namespace FilterBox

open Text

namespace Json

def hexCode? (first second third fourth : Char) : Option Nat := do
  let first ← hexDigit? first
  let second ← hexDigit? second
  let third ← hexDigit? third
  let fourth ← hexDigit? fourth
  return ((first * 16 + second) * 16 + third) * 16 + fourth

def unescape? : Char → Option Char
  | '"' => some '"'
  | '\\' => some '\\'
  | '/' => some '/'
  | 'b' => some '\x08'
  | 'f' => some '\x0c'
  | 'n' => some '\n'
  | 'r' => some '\r'
  | 't' => some '\t'
  | _ => none

/-- Reads up to the closing quote and gives the content and what follows. A character beyond the
basic plane may be escaped as its two surrogates; a surrogate by itself is no character. -/
def readString? : List Char → Option (List Char × List Char)
  | '"' :: rest => some ([], rest)
  | '\\' :: 'u' :: first :: second :: third :: fourth :: rest => do
      let code ← hexCode? first second third fourth
      if 0xD800 ≤ code && code < 0xDC00 then
        match rest with
        | '\\' :: 'u' :: first :: second :: third :: fourth :: rest => do
            let low ← hexCode? first second third fourth
            guard (0xDC00 ≤ low && low < 0xE000)
            let (content, rest) ← readString? rest
            return (Char.ofNat (0x10000 + (code - 0xD800) * 0x400 + (low - 0xDC00)) :: content,
              rest)
        | _ => none
      else
        guard (!(0xDC00 ≤ code && code < 0xE000))
        let (content, rest) ← readString? rest
        return (Char.ofNat code :: content, rest)
  | '\\' :: escaped :: rest => do
      let character ← unescape? escaped
      let (content, rest) ← readString? rest
      return (character :: content, rest)
  | character :: rest => do
      guard (0x20 ≤ character.toNat && character ≠ '\\')
      let (content, rest) ← readString? rest
      return (character :: content, rest)
  | [] => none

inductive Piece
  | openArray
  | closeArray
  | openObject
  | closeObject
  | comma
  | colon
  | scalar (value : Json)

def isBlank (character : Char) : Bool :=
  character = ' ' || character = '\n' || character = '\t' || character = '\r'

def piece? : List Char → Option (Piece × List Char)
  | '[' :: rest => some (.openArray, rest)
  | ']' :: rest => some (.closeArray, rest)
  | '\x7b' :: rest => some (.openObject, rest)
  | '\x7d' :: rest => some (.closeObject, rest)
  | ',' :: rest => some (.comma, rest)
  | ':' :: rest => some (.colon, rest)
  | 'n' :: 'u' :: 'l' :: 'l' :: rest => some (.scalar .null, rest)
  | 't' :: 'r' :: 'u' :: 'e' :: rest => some (.scalar (.bool true), rest)
  | 'f' :: 'a' :: 'l' :: 's' :: 'e' :: rest => some (.scalar (.bool false), rest)
  | '"' :: rest =>
      (readString? rest).map fun (content, rest) =>
        (.scalar (.string (String.ofList content)), rest)
  | text => do
      let (numeral, rest) ← Numeral.read? text
      return (.scalar (← numeral.value?), rest)

def pieces? (text : List Char) : Option (List Piece) :=
  match text with
  | [] => some []
  | character :: rest =>
      if isBlank character then
        pieces? rest
      else
        match piece? (character :: rest) with
        | none => none
        | some (piece, later) =>
            if later.length ≤ rest.length then (pieces? later).map (piece :: ·) else none
termination_by text.length
decreasing_by
  all_goals
    simp only [List.length_cons]
    omega

namespace Reader

/-- An array or object whose next part is being read; the finished parts of an array come last
first. -/
inductive Frame
  | array (items : List Json)
  | object (fields : List (String × Json)) (key : String)

inductive Stage
  | value
  | firstItem
  | firstKey
  | key (fields : List (String × Json))
  | colon (fields : List (String × Json)) (key : String)
  | complete (value : Json)

structure State where
  stage : Stage
  frames : List Frame

def depthLimit : Nat :=
  127

def State.begin? (frames : List Frame) : Piece → Option State
  | .scalar value => some ⟨.complete value, frames⟩
  | .openArray =>
      if frames.length < depthLimit then some ⟨.firstItem, .array [] :: frames⟩ else none
  | .openObject => if frames.length < depthLimit then some ⟨.firstKey, frames⟩ else none
  | _ => none

def State.step? : State → Piece → Option State
  | ⟨.value, frames⟩, piece => begin? frames piece
  | ⟨.firstItem, .array [] :: frames⟩, .closeArray => some ⟨.complete (.array []), frames⟩
  | ⟨.firstItem, frames⟩, piece => begin? frames piece
  | ⟨.firstKey, frames⟩, .closeObject => some ⟨.complete (.object []), frames⟩
  | ⟨.firstKey, frames⟩, .scalar (.string key) => some ⟨.colon [] key, frames⟩
  | ⟨.key fields, frames⟩, .scalar (.string key) => some ⟨.colon fields key, frames⟩
  | ⟨.colon fields key, frames⟩, .colon => some ⟨.value, .object fields key :: frames⟩
  | ⟨.complete value, .array items :: frames⟩, .comma =>
      some ⟨.value, .array (value :: items) :: frames⟩
  | ⟨.complete value, .array items :: frames⟩, .closeArray =>
      some ⟨.complete (.array (value :: items).reverse), frames⟩
  | ⟨.complete value, .object fields key :: frames⟩, .comma =>
      some ⟨.key (insertField key value fields), frames⟩
  | ⟨.complete value, .object fields key :: frames⟩, .closeObject =>
      some ⟨.complete (.object (insertField key value fields)), frames⟩
  | _, _ => none

end Reader

def ofText? (text : String) : Option Json := do
  let pieces ← pieces? text.toList
  match ← pieces.foldlM Reader.State.step? ⟨.value, []⟩ with
  | ⟨.complete value, []⟩ => some value
  | _ => none

end Json

end FilterBox
