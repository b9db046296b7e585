import FilterBox.RemovalRequest

/-!
Editing the text of a filter box step by step.
-/

namespace FilterBox

inductive Edit
  | replace (text : String)
  | append (text : String)
  | dropLast
  | normalize
  | remove (field operator : String) (value : Json)
  /-- The user closes one of the chips, which are counted from zero. -/
  | close (chip : Nat)

namespace Edit

inductive Failure
  | notAQuery (mismatch : Mismatch)
  | noSuchChip
  deriving DecidableEq

def Failure.message : Failure → String
  | notAQuery mismatch => mismatch.message
  | noSuchChip => "no such chip"

def apply (query : String) : Edit → Except Failure String
  | replace text => .ok text
  | append text => .ok (query ++ text)
  | dropLast => .ok (String.ofList query.toList.dropLast)
  | normalize => (Query.normalize query).mapError fun error => .notAQuery error.toMismatch
  | remove field operator value => .ok (RemovalRequest.apply ⟨query, field, operator, value⟩)
  | close chip =>
      match (Query.cards query)[chip]? with
      | some card =>
          .ok (RemovalRequest.apply ⟨query, card.field, card.operator.name, card.value⟩)
      | none => .error .noSuchChip

end Edit

structure Screen where
  query : String
  verdict : Verdict
  service : Option String
  chips : List Chip.Card

def Screen.of (query : String) : Screen :=
  ⟨query, Query.verdict query, Query.service? query, Query.cards query⟩

/-- The screens after each edit, with what went wrong in it; the text then stays as it was. -/
def screens (query : String) : List Edit → List (Screen × Option Edit.Failure)
  | [] => []
  | edit :: edits =>
      match edit.apply query with
      | .ok next => (Screen.of next, none) :: screens next edits
      | .error failure => (Screen.of query, some failure) :: screens query edits

end FilterBox
