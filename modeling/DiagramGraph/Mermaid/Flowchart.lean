/-
DiagramGraph.Mermaid.Flowchart — reading a flowchart.

Every statement stands alone: it is an edge, a node, or is set aside.
Directives, styles and the lines that group nodes say nothing of the
graph and are passed over.
-/
import DiagramGraph.Graph.Draft
import DiagramGraph.Mermaid.Edge
import DiagramGraph.Text.Lines

namespace DiagramGraph.Mermaid.Flowchart

open Text

/-! ## §1 Statements that say nothing of the graph -/

/-- The words that begin a directive, each with the space after it. -/
def directives : List Text :=
  ["flowchart ".toList, "graph ".toList, "subgraph ".toList, "style ".toList,
   "classDef ".toList, "class ".toList, "linkStyle ".toList, "click ".toList,
   "direction ".toList]

/-- Does the line open or end a group of nodes? -/
def isGrouping (line : Text) : Bool := line = "subgraph".toList || line = "end".toList

/-- The statement without semicolons, and then blanks, at its end. -/
def dropSemicolons (line : Text) : Text :=
  trimEnd (line.reverse.dropWhile (· == ';')).reverse

/-! ## §2 Reading -/

/-- Mentions the node of a token with the label it shows. -/
def mentionToken (d : Draft) (token : Text) : Draft :=
  d.mention (tokenParts token).1 (tokenParts token).2

/-- Mentions both ends of the edge, the left one first, and links them.
A node may be linked to itself. -/
def addEdge (d : Draft) (e : Edge) : Draft :=
  (mentionToken (mentionToken d e.left) e.right).connect
    ⟨(tokenParts e.left).1, (tokenParts e.right).1, e.relation, Label.clean e.label⟩ true

/-- Reads one statement: an edge, a node or a line that is set aside. -/
def readStatement (d : Draft) (line : Text) : Draft :=
  if line.isEmpty || isGrouping line then d
  else
    match Edge.ofLine? line with
    | some e => addEdge d e
    | none =>
      match lastToken? line with
      | some _ => mentionToken d line
      | none => d.setAside line

/-- The graph of the lines of a flowchart. -/
def readLines (lines : List Text) (orientation : Option Text) : Diagram :=
  (((statements directives lines).map dropSemicolons).foldl readStatement {}).finish
    (some .flowchart) orientation

end DiagramGraph.Mermaid.Flowchart
