import FilterBox.CommandLine.Arguments
import FilterBox.CommandLine.LogFilter
import FilterBox.Json.Reader
import FilterBox.RemovalRequest

/-!
What the commands print.
-/

namespace FilterBox.CommandLine

open Text

/-- What is left of a run: the exit code and the two outputs. -/
structure Outcome where
  code : UInt32
  output : String
  errors : String

namespace Outcome

def lines (lines : List String) : Outcome :=
  ⟨0, String.join (lines.map (· ++ "\n")), ""⟩

def json (value : Json) : Outcome :=
  lines [value.pretty 0]

def hang (width : Nat) (text : String) : String :=
  String.ofList (text.toList.flatMap fun character =>
    if character = '\n' then '\n' :: List.replicate width ' ' else [character])

/-- A run that fails for a reason which may have causes, each the cause of the one before. Several
causes are counted. -/
def failure (reason : String) (causes : List String) : Outcome :=
  let account := match causes with
    | [] => ""
    | [cause] => "\n\nCaused by:\n    " ++ hang 4 cause
    | causes =>
        let lines := causes.zipIdx.map fun (cause, place) => s!"\n    {place}: " ++ hang 7 cause
        "\n\nCaused by:" ++ String.join lines
  ⟨1, "", "Error: " ++ reason ++ account ++ "\n"⟩

def usage : Outcome :=
  ⟨2, "", "Usage: [--json] [--log FILTER] tokens|parse|validate|format|chips|remove QUERY\n"⟩

end Outcome

def alignRight (width : Nat) (text : String) : String :=
  String.ofList (text.toList.leftpad width ' ')

def alignLeft (width : Nat) (text : String) : String :=
  String.ofList (text.toList.rightpad width ' ')

def spanColumn (span : Span) : String :=
  alignRight 4 (toString span.start) ++ ".." ++ alignLeft 4 (toString span.stop)

def tokenLine (token : Token) : String :=
  spanColumn token.span ++ " " ++ alignLeft 16 token.kind.describe ++ " " ++ shown token.text

def chipLine (query : String) (chip : Chip) : String :=
  spanColumn chip.span ++ " " ++ alignLeft 40 ((chip.text? query).getD "") ++ " " ++ chip.field ++
    " " ++ chip.operator.name ++ " " ++ chip.value.text

/-- The filter over several lines, operands two blanks further in than their connective. -/
def treeLines (depth : Nat) : Filter → List String
  | .condition leaf =>
      [indent ++ leaf.field ++ " " ++ leaf.operator.name ++ " " ++ leaf.value.text ++ " (" ++
        leaf.value.kind.name ++ ")"]
  | .conjunction left right =>
      (indent ++ "AND") :: (treeLines (depth + 1) left ++ treeLines (depth + 1) right)
  | .disjunction left right =>
      (indent ++ "OR") :: (treeLines (depth + 1) left ++ treeLines (depth + 1) right)
  | .negation operand => (indent ++ "NOT") :: treeLines (depth + 1) operand
where
  indent : String :=
    String.ofList (List.replicate (2 * depth) ' ')

namespace Invocation

def tokens (query : String) (json : Bool) : Outcome :=
  let scan := Query.scan query
  if json then
    .json scan.toJson
  else
    { Outcome.lines (scan.tokens.map tokenLine) with
      errors := String.join
        (scan.diagnostics.map fun diagnostic => "warning: " ++ diagnostic.message ++ "\n") }

def parse (query : String) (json : Bool) : Outcome :=
  match Query.parse query with
  | .error error => .failure ("Failed to parse " ++ shown query) [error.describe]
  | .ok filter? =>
      if json then
        .json ((filter?.map Filter.toJson).getD .null)
      else
        .lines ((filter?.map (treeLines 0)).getD ["(empty)"])

def validate (query : String) (json : Bool) : Outcome :=
  let verdict := Query.verdict query
  let answer : Outcome :=
    if json then .json verdict.toJson
    else .lines (if verdict.isAccepted then ["valid"] else [])
  match verdict.message? with
  | none => answer
  | some message =>
      let failure := Outcome.failure ("invalid query: " ++ message) []
      { failure with output := answer.output }

def format (query : String) (json : Bool) : Outcome :=
  match Query.normalize query with
  | .error error => .failure ("Failed to format " ++ shown query) [error.describe]
  | .ok text => if json then .json (.string text) else .lines [text]

def chips (query : String) (json : Bool) : Outcome :=
  if json then
    .json (.array ((Query.cards query).map Chip.Card.toJson))
  else
    .lines ((Query.chips query).map (chipLine query))

def remove (query field operator value : String) (json : Bool) : Outcome :=
  let value := (Json.ofText? value).getD (.string value)
  let rest := RemovalRequest.apply ⟨query, field, operator, value⟩
  if json then .json (.string rest) else .lines [rest]

def answer (invocation : Invocation) : Outcome :=
  match invocation.command with
  | .tokens query => tokens query invocation.json
  | .parse query => parse query invocation.json
  | .validate query => validate query invocation.json
  | .format query => format query invocation.json
  | .chips query => chips query invocation.json
  | .remove query field operator value => remove query field operator value invocation.json

/-- Runs a command unless the check of log filters has something against the one that is given: the
messages of its complaint, each the cause of the one before. -/
def run (complaints? : String → Option (List String)) (invocation : Invocation) : Outcome :=
  match complaints? invocation.log with
  | some messages => .failure ("Invalid log filter " ++ shown invocation.log) messages
  | none => invocation.answer

end Invocation

def outcome (arguments : List String) : Outcome :=
  let complaints? (log : String) := (LogFilter.defect? log).map LogFilter.Defect.messages
  ((Invocation.ofArguments? arguments).map (Invocation.run complaints?)).getD .usage

end FilterBox.CommandLine
