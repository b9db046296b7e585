import FilterBox.Number.Text
import FilterBox.Pattern.Report
import FilterBox.Text.Numeric
import FilterBox.Text.Offset

/-!
Texts that choose what is to be logged: directives between commas.

    directive  :=  level  |  [target] ['[' span ']'] ['=' [level]]
    span       :=  [name] ['{' field '}']
    field      :=  name ['=' value]

A directive is read without the blanks around it, but its parts are cut from the whole of it at the
offsets found in this way. So blanks in front shift the parts, and blanks behind belong to the last
one.
-/

namespace FilterBox.CommandLine.LogFilter

open Text

inductive Defect
  | directive
  | level
  /-- The value of a field is no pattern that can be put to use. -/
  | field (complaints : List String)

/-- The texts in which a defect is reported. A defect within a part is its own cause. -/
def Defect.messages : Defect → List String
  | directive => ["invalid filter directive"]
  | level =>
      List.replicate 2
        ("error parsing level filter: expected one of \"off\", \"error\", \"warn\", \"info\", " ++
          "\"debug\", \"trace\", or a number 0-5")
  | field complaints => ("invalid field filter: " ++ complaints.headD "") :: complaints

def isLevel (text : List Char) : Bool :=
  let digits := if text.head? = some '+' then text.tail else text
  ["OFF", "ERROR", "WARN", "INFO", "DEBUG", "TRACE"].any (spells · text) ||
    (!digits.isEmpty && digits.all Char.isDigit && Nat.ofDigitChars 10 digits 0 ≤ 5)

def checkLevel (directive : List Char) (start : Nat) : Except Defect Unit :=
  match splitAt? directive start with
  | some (_, level) => if level.isEmpty || isLevel level then .ok () else .error .level
  | none => .error .directive

def checkField (field : List Char) : Except Defect Unit :=
  match field.splitOnP (· = '=') with
  | _ :: value :: _ =>
      let text := String.ofList value
      if text = "true" || text = "false" || (Number.ofText? text).isSome then
        .ok ()
      else
        match Pattern.complaints value with
        | [] => .ok ()
        | complaints => .error (.field complaints)
  | _ => .ok ()

def checkFieldBetween (directive : List Char) (start stop : Nat) : Except Defect Unit :=
  match slice? directive start stop with
  | none | some [] => .error .directive
  | some field => checkField field

/-- How far a directive has been read, with the byte offset at which the present part begins. -/
inductive Stage
  | start
  | target
  | span
  | field (start : Nat)
  | fieldEnd
  | spanEnd
  | level (start : Nat)

def isTargetStart (character : Char) : Bool :=
  character = '-' || character = ':' || character = '_' || isAlphanumeric character

def Stage.step (directive : List Char) (offset : Nat) : Stage → Char → Except Defect Stage
  | .start, '[' => .ok .span
  | .start, character => if isTargetStart character then .ok .target else .error .directive
  | .target, '=' => .ok (.level (offset + 1))
  | .target, '[' => .ok .span
  | .target, _ => .ok .target
  | .span, ']' => .ok .spanEnd
  | .span, '\x7b' => .ok (.field (offset + 1))
  | .span, _ => .ok .span
  | .field first, '\x7d' => do
      checkFieldBetween directive first offset
      return .fieldEnd
  | .field first, _ => .ok (.field first)
  | .fieldEnd, ']' => .ok .spanEnd
  | .spanEnd, '=' => .ok (.level (offset + 1))
  | .level first, _ => .ok (.level first)
  | _, _ => .error .directive

def Stage.conclude (directive : List Char) : Stage → Except Defect Unit
  | .target | .spanEnd => .ok ()
  | .level first => checkLevel directive first
  | _ => .error .directive

/-- Takes the remaining characters, the first of which is at the given byte offset. -/
def Stage.run (directive : List Char) (offset : Nat) (stage : Stage) :
    List Char → Except Defect Unit
  | [] => stage.conclude directive
  | character :: rest => do
      let next ← stage.step directive offset character
      next.run directive (offset + character.utf8Size) rest

def checkDirective (directive : List Char) : Except Defect Unit :=
  Stage.start.run directive 0 (trim directive)

/-- What is wrong with the first directive that is not in order. Between commas may be nothing. -/
def defect? (text : String) : Option Defect :=
  let directives := (text.toList.splitOnP (· = ',')).filter fun directive => !directive.isEmpty
  directives.findSome? fun directive =>
    match checkDirective directive with
    | .ok _ => none
    | .error defect => some defect

end FilterBox.CommandLine.LogFilter
