/-
DiagramGraph.Dot.Writer — the DOT form of a graph document.

A node without an identifier and a link without both ends are passed
over; every other one becomes a statement, in the order of the
document, all nodes before all links.
-/
import DiagramGraph.Document.Basic
import DiagramGraph.Dot.Digraph
import DiagramGraph.Json.Display

namespace DiagramGraph.Dot

open Text Json Document

/-! ## §1 Labels of nodes -/

/-- What a node shows, line by line: the stereotype between guillemets
if it has one, its label or else its identifier, and its members. -/
def shownLines (node : Value) : Except Fault (List Value) := do
  let fs ← fields node
  let get (key : String) := (fs.get? key.toList).getD .null
  let stereotype := get "stereotype"
  let label := get "label"
  let members := get "members"
  let shown := if stereotype.isTruthy then [.str ('«' :: display stereotype ++ ['»'])] else []
  let caption := if label.isTruthy then label else (fs.get? "id".toList).getD (.str [])
  let more ← if members.isTruthy then items members else .ok []
  return shown ++ caption :: more

/-! ## §2 Statements -/

/-- An identifier of a node has to be a string. -/
def asIdentifier : Value → Except Fault Text
  | .str t => .ok t
  | _ => .error .notIdentifier

/-- The end of an edge has to be a string. -/
def asEndpoint : Value → Except Fault Text
  | .str t => .ok t
  | _ => .error .notText

/-- The statement of a node. -/
def nodeStatement? (node : Value) : Except Fault (Option Statement) := do
  let id ← field node "id".toList
  if id.isTruthy then
    let lines ← shownLines node
    let texts ← lines.mapM textOrEmpty
    let name ← asIdentifier id
    return some (.node name (escapeLines texts))
  else return none

/-- The statement of a link. -/
def edgeStatement? (link : Value) : Except Fault (Option Statement) := do
  let source ← field link "source".toList
  let target ← field link "target".toList
  if source.isTruthy && target.isTruthy then
    let attributes := attributesNamed (← textOrEmpty (← field link "type".toList))
    let label ← textOrEmpty (← field link "label".toList)
    let tail ← asEndpoint source
    let head ← asEndpoint target
    let label := if label.isEmpty then none else some (escapeLine label)
    return some (.edge tail head label attributes)
  else return none

/-! ## §3 Graphs -/

/-- The statements of a document. -/
def statements (document : Value) : Except Fault (List Statement) := do
  let nodes ← (← listField document "nodes".toList).mapM nodeStatement?
  let edges ← (← listField document "links".toList).mapM edgeStatement?
  return (nodes ++ edges).filterMap id

/-- The name of a graph: a string, or a value that says nothing for no name. -/
def graphName (v : Value) : Except Fault Text :=
  if v.isTruthy then asIdentifier v else .ok []

/-- The directed graph of a document, drawn in the given orientation. -/
def ofDocument (document name orientation : Value) : Except Fault Digraph := do
  let _ ← fields document
  let rank := Rank.ofOrientation (← textOrEmpty orientation)
  let statements ← statements document
  return ⟨← graphName name, rank, statements⟩

/-- The name that a graph has unless another one is given. -/
def defaultName : Text := ['G']

/-- The DOT text of a document. -/
def write (document : Value) (orientation : Text) : Except Fault Text :=
  (ofDocument document (.str defaultName) (.str orientation)).map Digraph.render

end DiagramGraph.Dot
