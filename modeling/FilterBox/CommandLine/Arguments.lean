/-!
What the arguments of the command line ask for.

Switches are written `--name`, and those with a value `--name value` or `--name=value`. Those that
all commands share may stand before the name of the command as well as after it. Behind `--` no
argument is a switch.
-/

namespace FilterBox.CommandLine

structure Switch where
  name : String
  takesValue : Bool

/-- Arguments told apart: the switches with their values, and the others. -/
structure Sorted where
  switches : List (String × String)
  others : List String

namespace Sorted

def value? (sorted : Sorted) (name : String) : Option String :=
  sorted.switches.lookup name

def isDistinct (sorted : Sorted) : Bool :=
  let names := sorted.switches.map Prod.fst
  names.eraseDups.length = names.length

def addSwitch (name value : String) (sorted : Sorted) : Sorted :=
  ⟨(name, value) :: sorted.switches, sorted.others⟩

def addOther (argument : String) (sorted : Sorted) : Sorted :=
  ⟨sorted.switches, argument :: sorted.others⟩

end Sorted

def isHyphenated (argument : String) : Bool :=
  match argument.toList with
  | '-' :: _ :: _ => true
  | _ => false

def switchParts? (argument : String) : Option (String × Option String) :=
  match argument.toList with
  | '-' :: '-' :: text =>
      let name := String.ofList (text.takeWhile (· ≠ '='))
      match text.dropWhile (· ≠ '=') with
      | _ :: value => some (name, some (String.ofList value))
      | [] => some (name, none)
  | _ => none

/-- Tells arguments apart. Before the name of a command, that name and all arguments behind it are
left as they are. -/
def sort? (switches : List Switch) (beforeName : Bool) : List String → Option Sorted
  | [] => some ⟨[], []⟩
  | argument :: rest =>
      if argument = "--" then
        if beforeName then none else some ⟨[], rest⟩
      else if isHyphenated argument then
        match switchParts? argument with
        | none => none
        | some (name, value?) =>
            match switches.find? fun switch => switch.name = name, value?, rest with
            | some ⟨_, true⟩, some value, rest =>
                (sort? switches beforeName rest).map (Sorted.addSwitch name value)
            | some ⟨_, true⟩, none, value :: rest =>
                if isHyphenated value then none
                else (sort? switches beforeName rest).map (Sorted.addSwitch name value)
            | some ⟨_, false⟩, none, rest =>
                (sort? switches beforeName rest).map (Sorted.addSwitch name "")
            | _, _, _ => none
      else if beforeName then
        some ⟨[], argument :: rest⟩
      else
        (sort? switches beforeName rest).map (Sorted.addOther argument)

inductive Command
  | tokens (query : String)
  | parse (query : String)
  | validate (query : String)
  | format (query : String)
  | chips (query : String)
  | remove (query field operator value : String)

structure Invocation where
  command : Command
  json : Bool
  /-- What is to be logged. -/
  log : String

def sharedSwitches : List Switch :=
  [⟨"json", false⟩, ⟨"log", true⟩]

def removeSwitches : List Switch :=
  [⟨"field", true⟩, ⟨"operator", true⟩, ⟨"value", true⟩]

def Command.ofName? (name query : String) (sorted : Sorted) : Option Command :=
  match name with
  | "tokens" => some (.tokens query)
  | "parse" => some (.parse query)
  | "validate" => some (.validate query)
  | "format" => some (.format query)
  | "chips" => some (.chips query)
  | "remove" => do
      let field ← sorted.value? "field"
      let value ← sorted.value? "value"
      return .remove query field ((sorted.value? "operator").getD "EQUALS") value
  | _ => none

def Invocation.ofArguments? (arguments : List String) : Option Invocation := do
  let before ← sort? sharedSwitches true arguments
  match before.others with
  | [] => none
  | name :: arguments =>
      let own := if name = "remove" then removeSwitches else []
      let after ← sort? (sharedSwitches ++ own) false arguments
      guard (before.isDistinct && after.isDistinct)
      match after.others with
      | [query] =>
          let command ← Command.ofName? name query after
          let json := (before.value? "json").isSome || (after.value? "json").isSome
          let log := (after.value? "log").or (before.value? "log")
          return ⟨command, json, log.getD "warn"⟩
      | _ => none

end FilterBox.CommandLine
