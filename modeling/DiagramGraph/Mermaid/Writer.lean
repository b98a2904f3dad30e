/-
DiagramGraph.Mermaid.Writer — the Mermaid form of a graph document.

A document is first turned into the things that are drawn, boxes and
arrows, which is where a value of the wrong kind is met; their lines
then follow without further conditions. A node without an identifier
and a link without both ends are passed over.

* `neededDialect` — the dialect that can express the document;
* `classLines`, `flowLines` — the lines in either dialect;
* `write` — the text.
-/
import DiagramGraph.Document.Basic
import DiagramGraph.Graph.Rank
import DiagramGraph.Json.Display
import DiagramGraph.Mermaid.Glyph

namespace DiagramGraph.Mermaid

open Text Json Document

/-! ## §1 The dialect of a document -/

/-- Does the node have a body: members or a stereotype? -/
def hasBody (node : Value) : Except Fault Bool := do
  let members ← field node "members".toList
  let stereotype ← field node "stereotype".toList
  return members.isTruthy || stereotype.isTruthy

/-- The relations that only a class diagram can express. -/
def isClassRelation (r : Relation) : Bool :=
  r = .inheritance || r = .realization || r = .aggregation

/-- Is the link of a relation that only a class diagram can express? -/
def isClassLink (link : Value) : Except Fault Bool :=
  (linkRelation link).map (fun r => r.any isClassRelation)

/-- A class diagram if some node has a body or some link needs one, else
a flowchart. The search ends at the first sign of a class diagram. -/
def neededDialect (document : Value) : Except Fault Dialect := do
  if ← (← listField document "nodes".toList).anyM hasBody then return .classDiagram
  if ← (← listField document "links".toList).anyM isClassLink then return .classDiagram
  return .flowchart

/-! ## §2 Boxes and arrows -/

/-- A label as it can stand between double quotes on one line. -/
def quotable (t : Text) : Text := replaceChar '\n' ' ' (replaceChar '"' '\'' t)

/-- The label of a node that differs from its identifier. -/
def ownLabel (node id : Value) : Except Fault (Option Text) := do
  let label ← field node "label".toList
  if label.isTruthy && !label.equals id then
    return some (quotable (← textOrEmpty label))
  else return none

/-- A node as it is drawn. -/
structure Box where
  id : Text
  label : Option Text
  stereotype : Option Text := none
  members : List Text := []
  deriving DecidableEq, Repr

/-- The box of a node in a class diagram. -/
def classBox? (node : Value) : Except Fault (Option Box) := do
  let id ← field node "id".toList
  if id.isTruthy then
    let label ← ownLabel node id
    let stereotype ← field node "stereotype".toList
    let members ← field node "members".toList
    let members ← if members.isTruthy then items members else .ok []
    return some ⟨display id, label,
      if stereotype.isTruthy then some (display stereotype) else none, members.map display⟩
  else return none

/-- The box of a node in a flowchart, where nodes have no bodies. -/
def flowBox? (node : Value) : Except Fault (Option Box) := do
  let id ← field node "id".toList
  if id.isTruthy then return some ⟨display id, ← ownLabel node id, none, []⟩
  else return none

/-- A link as it is drawn. -/
structure Arrow where
  source : Text
  target : Text
  sign : Text
  label : Option Text
  deriving DecidableEq, Repr

/-- The arrow of a link, given the glyph of a relation and what becomes
of its label. -/
def arrow? (glyph : Option Relation → Text) (labelText : Value → Except Fault Text)
    (link : Value) : Except Fault (Option Arrow) := do
  let source ← field link "source".toList
  let target ← field link "target".toList
  if source.isTruthy && target.isTruthy then
    let sign := glyph (← linkRelation link)
    let label ← field link "label".toList
    let label ← if label.isTruthy then (labelText label).map some else .ok none
    return some ⟨display source, display target, sign, label⟩
  else return none

/-- The glyph of a class diagram; what names no relation is a plain link. -/
def classSign (r : Option Relation) : Text := (r.bind classGlyphFor?).getD "--".toList

/-- The glyph of a flowchart; what it cannot express is an arrow. -/
def flowSign (r : Option Relation) : Text := (r.bind flowGlyphFor?).getD "-->".toList

/-- The arrow of a link in a class diagram, with its label as it is. -/
def classArrow? (link : Value) : Except Fault (Option Arrow) :=
  arrow? classSign (fun v => .ok (display v)) link

/-- The arrow of a link in a flowchart: its label stands between bars,
so a bar inside becomes a slash. -/
def flowArrow? (link : Value) : Except Fault (Option Arrow) :=
  arrow? flowSign (fun v => (textOrEmpty v).map (fun t => replaceChar '|' '/' (quotable t))) link

/-! ## §3 Lines -/

/-- A label in brackets and quotes. -/
def bracketed (label : Option Text) : Text :=
  match label with
  | some t => "[\"".toList ++ t ++ "\"]".toList
  | none => []

/-- The lines of a box in a class diagram. -/
def Box.classLines (b : Box) : List Text :=
  let header := "  class ".toList ++ b.id ++ bracketed b.label
  if b.members.isEmpty && b.stereotype.isNone then [header]
  else
    [header ++ " \x7b".toList] ++
      (b.stereotype.map (fun s => "    <<".toList ++ s ++ ">>".toList)).toList ++
      b.members.map (fun m => "    ".toList ++ m) ++ ["  \x7d".toList]

/-- The line of a box in a flowchart. -/
def Box.flowLine (b : Box) : Text := "  ".toList ++ b.id ++ bracketed b.label

/-- The line of an arrow in a class diagram. -/
def Arrow.classLine (a : Arrow) : Text :=
  "  ".toList ++ a.source ++ ' ' :: a.sign ++ ' ' :: a.target ++
    (match a.label with
     | some t => " : ".toList ++ t
     | none => [])

/-- The line of an arrow in a flowchart. -/
def Arrow.flowLine (a : Arrow) : Text :=
  "  ".toList ++ a.source ++ ' ' :: a.sign ++
    (match a.label with
     | some t => '|' :: t ++ ['|']
     | none => []) ++ ' ' :: a.target

/-! ## §4 Documents -/

/-- What the items of a list of the document become, in order. -/
def drawn {α : Type} (document : Value) (key : Text) (draw : Value → Except Fault (Option α)) :
    Except Fault (List α) := do
  return (← (← listField document key).mapM draw).filterMap id

/-- The lines of a class diagram. -/
def classLines (document : Value) : Except Fault (List Text) := do
  let boxes ← drawn document "nodes".toList classBox?
  let arrows ← drawn document "links".toList classArrow?
  return "classDiagram".toList :: (boxes.flatMap Box.classLines ++ arrows.map Arrow.classLine)

/-- The lines of a flowchart. -/
def flowLines (document orientation : Value) : Except Fault (List Text) := do
  let rank := Rank.ofOrientation (← textOrEmpty orientation)
  let boxes ← drawn document "nodes".toList flowBox?
  let arrows ← drawn document "links".toList flowArrow?
  return ("flowchart ".toList ++ rank.name) :: (boxes.map Box.flowLine ++ arrows.map Arrow.flowLine)

/-- Lines as a text, each with its end. -/
def unlines (lines : List Text) : Text := lines.flatMap (fun line => line ++ ['\n'])

/-- The Mermaid text of a document, in the given dialect or else in the
one that can express it. -/
def writeIn (document : Value) (dialect : Option Dialect) (orientation : Value) :
    Except Fault Text := do
  let dialect ← match dialect with
    | some d => .ok d
    | none => neededDialect document
  match dialect with
  | .classDiagram => return unlines (← classLines document)
  | .flowchart => return unlines (← flowLines document orientation)

/-- The Mermaid text of a document for an orientation that is a text. -/
def write (document : Value) (dialect : Option Dialect) (orientation : Text) :
    Except Fault Text :=
  writeIn document dialect (.str orientation)

end DiagramGraph.Mermaid
