/-
DiagramGraph.Graph.Basic — the graph that a diagram draws: nodes,
links between them, and the reading that produced them.

* `Relation` — what a link says of its two ends;
* `Dialect` — the two kinds of diagram;
* `Node`, `Link` — the parts of the graph;
* `Diagram` — a graph together with how its text was read.
-/
import DiagramGraph.Text.Basic

namespace DiagramGraph

/-! ## §1 Names -/

/-- What a link says of its two ends. -/
inductive Relation
  | inheritance | realization | composition | aggregation | association | dependency | link
  deriving DecidableEq, Repr

namespace Relation

/-- All relations. -/
def all : List Relation :=
  [inheritance, realization, composition, aggregation, association, dependency, link]

/-- The written name of a relation. -/
def name : Relation → Text
  | inheritance => "inheritance".toList
  | realization => "realization".toList
  | composition => "composition".toList
  | aggregation => "aggregation".toList
  | association => "association".toList
  | dependency => "dependency".toList
  | link => "link".toList

/-- The relation with the given name. -/
def ofName? (t : Text) : Option Relation := all.find? (fun r => r.name = t)

@[simp] theorem ofName?_name (r : Relation) : ofName? r.name = some r := by
  cases r <;> decide

end Relation

/-- The two kinds of diagram. -/
inductive Dialect
  | classDiagram | flowchart
  deriving DecidableEq, Repr

namespace Dialect

/-- The written name of a dialect. -/
def name : Dialect → Text
  | classDiagram => "classDiagram".toList
  | flowchart => "flowchart".toList

/-- The dialect with the given name. -/
def ofName? (t : Text) : Option Dialect := [classDiagram, flowchart].find? (fun d => d.name = t)

@[simp] theorem ofName?_name (d : Dialect) : ofName? d.name = some d := by
  cases d <;> decide

end Dialect

/-! ## §2 Graphs -/

/-- A node: its identifier, the label it was given (empty if none), the
members of its body in order and its stereotype. -/
structure Node where
  id : Text
  label : Text := []
  members : List Text := []
  stereotype : Option Text := none
  deriving DecidableEq, Repr

/-- What the node shows: its label, or its identifier if it has none. -/
def Node.caption (n : Node) : Text := if n.label.isEmpty then n.id else n.label

/-- The node with a label on offer: the first one that says anything is kept. -/
def Node.offer (label : Text) (n : Node) : Node :=
  if n.label.isEmpty then { n with label := label } else n

/-- A label on offer does not change the identifier. -/
@[simp] theorem Node.id_offer (label : Text) (n : Node) : (n.offer label).id = n.id := by
  unfold Node.offer
  split <;> rfl

/-- A link from `source` to `target`; an empty label is no label. -/
structure Link where
  source : Text
  target : Text
  relation : Relation
  label : Text := []
  deriving DecidableEq, Repr

/-- A diagram as it was read: its graph, the dialect and orientation of
the text (none for a text that says nothing), and the statements that no
rule understood. -/
structure Diagram where
  nodes : List Node := []
  links : List Link := []
  dialect : Option Dialect := none
  orientation : Option Text := none
  unread : List Text := []
  deriving DecidableEq, Repr

end DiagramGraph
