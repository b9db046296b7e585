import FilterBox.Pattern.Reader
import FilterBox.Pattern.Survey

/-!
Telling what is wrong with the text of a pattern, with marks under the places.
-/

namespace FilterBox.Pattern

def lineAndColumn (text : List Char) (place : Place) : Nat × Nat :=
  let before := text.take (text.length - place)
  (before.count '\n' + 1, (before.reverse.takeWhile (· ≠ '\n')).length + 1)

/-- Marks under the given columns and widths, from left to right. An empty extent has one mark. -/
def marks (column : Nat) : List (Nat × Nat) → List Char
  | [] => []
  | (start, width) :: rest =>
      let width := max 1 width
      List.replicate (start - column) ' ' ++ List.replicate width '^' ++
        marks (max column start + width) rest

def linesOf (text : List Char) : List (List Char) :=
  let pieces := text.splitOnP (· = '\n')
  pieces.dropLast.map trimReturn ++ pieces.getLast?.toList
where
  trimReturn (line : List Char) : List Char :=
    if line.getLast? = some '\r' then line.dropLast else line

/-- The text, indented or with numbered lines, and marks under the extents that lie within a line. A
last line with nothing on it is left out. -/
def notated (text : List Char) (extents : List Extent) : String :=
  let lines := linesOf text
  let digits := if lines.length = 1 then 0 else (toString lines.length).length
  let shownLines := if lines.getLast? = some [] then lines.dropLast else lines
  String.join (shownLines.zipIdx.map fun (line, index) =>
    let number := index + 1
    let label :=
      if digits = 0 then "    ".toList
      else (toString number).toList.leftpad digits ' ' ++ [':', ' ']
    let stretches := extents.filterMap fun extent =>
      let (startLine, startColumn) := lineAndColumn text extent.start
      let (stopLine, stopColumn) := lineAndColumn text extent.stop
      if startLine = number && stopLine = number then
        some (startColumn, stopColumn - startColumn)
      else
        none
    let notes :=
      if stretches.isEmpty then []
      else List.replicate label.length ' ' ++ marks 1 stretches ++ ['\n']
    String.ofList (label ++ line ++ ['\n'] ++ notes))

def crossings (text : List Char) (extents : List Extent) : String :=
  String.join (extents.filterMap fun extent =>
    let (startLine, startColumn) := lineAndColumn text extent.start
    let (stopLine, stopColumn) := lineAndColumn text extent.stop
    if startLine = stopLine then
      none
    else
      some (s!"on line {startLine} (column {startColumn}) through line {stopLine} " ++
        s!"(column {stopColumn - 1})\n"))

def Defect.report (defect : Defect) (text : List Char) : String :=
  let extents := defect.earlier.toList ++ [defect.extent]
  let picture :=
    if text.contains '\n' then
      let divider := String.ofList (List.replicate 79 '~') ++ "\n"
      divider ++ notated text extents ++ divider ++ crossings text extents
    else
      notated text extents
  "regex parse error:\n" ++ picture ++ "error: " ++ defect.flaw.message

/-- Why a text cannot be put to use as a pattern, as the texts in which that is reported. -/
def complaints (text : List Char) : List String :=
  match ofText text >>= check with
  | .ok false => []
  | .ok true =>
      ["unsupported regex feature for DFAs: cannot build DFAs for regexes with Unicode word " ++
        "boundaries; switch to ASCII word boundaries, or heuristically enable Unicode word " ++
        "boundaries or use a different regex engine"]
  | .error defect => ["error building NFA", "error parsing regex", defect.report text]

end FilterBox.Pattern
