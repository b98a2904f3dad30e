/-
DiagramGraph.Mermaid.Reader — reading a text of either dialect.

The first line that says anything decides: `graph` or `flowchart` with
a direction begins a flowchart, every other line a class diagram. A
text that says nothing is a diagram of no dialect.
-/
import DiagramGraph.Mermaid.ClassDiagram
import DiagramGraph.Mermaid.Flowchart

namespace DiagramGraph.Mermaid

open Text

/-! ## §1 Headers -/

/-- The directions that the header of a flowchart can name. -/
def directions : List Text :=
  ["TB".toList, "TD".toList, "BT".toList, "RL".toList, "LR".toList]

/-- The direction at the start of the text; it has to end a word. -/
def leadingDirection? (t : Text) : Option Text :=
  directions.find? fun d =>
    match after? d t with
    | some (c :: _) => !isWord c
    | some [] => true
    | none => false

/-- The direction that the header of a flowchart names. -/
def flowDirection? (line : Text) : Option Text :=
  match (after? "graph".toList line).or (after? "flowchart".toList line) with
  | some (c :: rest) => if isBlank c then leadingDirection? (trimStart rest) else none
  | _ => none

/-! ## §2 Reading -/

/-- The first line that says anything. -/
def firstStatement? (lines : List Text) : Option Text := lines.find? isMeaningful

/-- The dialect of a text. -/
def dialect? (t : Text) : Option Dialect :=
  (firstStatement? (trimmedLines t)).map fun line =>
    if (flowDirection? line).isSome then .flowchart else .classDiagram

/-- The orientation of a class diagram. -/
def classOrientation : Text := "TB".toList

/-- The diagram that a text describes. -/
def read (t : Text) : Diagram :=
  let lines := trimmedLines t
  match firstStatement? lines with
  | none => {}
  | some first =>
    match flowDirection? first with
    | some direction => Flowchart.readLines lines (some direction)
    | none => { ClassDiagram.readLines lines with orientation := some classOrientation }

end DiagramGraph.Mermaid
