/-
DiagramGraph.Dot.Digraph — directed graphs in DOT.

A `Digraph` holds statements with their texts as meant; quoting happens
when it is rendered, each statement on a line of its own.
-/
import DiagramGraph.Dot.Quote
import DiagramGraph.Graph.Basic
import DiagramGraph.Graph.Rank

namespace DiagramGraph.Dot

open Text

/-! ## §1 Attributes of links -/

/-- How an edge of each relation is drawn, by the names of the
attributes in alphabetical order. The diamond of a whole sits at the
source. -/
def edgeAttributes : Relation → List (Text × Text)
  | .inheritance => [("arrowhead".toList, "empty".toList)]
  | .realization =>
    [("arrowhead".toList, "empty".toList), ("style".toList, "dashed".toList)]
  | .composition =>
    [("arrowhead".toList, "none".toList), ("arrowtail".toList, "diamond".toList),
     ("dir".toList, "both".toList)]
  | .aggregation =>
    [("arrowhead".toList, "none".toList), ("arrowtail".toList, "odiamond".toList),
     ("dir".toList, "both".toList)]
  | .association => [("arrowhead".toList, "normal".toList)]
  | .dependency =>
    [("arrowhead".toList, "vee".toList), ("style".toList, "dashed".toList)]
  | .link => [("arrowhead".toList, "none".toList)]

/-- The attributes of the relation with the given name, in capitals or
not; what names no relation is drawn as a plain link. -/
def attributesNamed (name : Text) : List (Text × Text) :=
  edgeAttributes ((Relation.ofName? (lower name)).getD .link)

/-! ## §2 Graphs -/

/-- A statement: a node with its label, or an edge with an optional
label and further attributes. Labels are in escaped form. -/
inductive Statement
  | node (id label : Text)
  | edge (source target : Text) (label : Option Text) (attributes : List (Text × Text))
  deriving DecidableEq, Repr

/-- A directed graph; an empty name is no name. -/
structure Digraph where
  name : Text
  rank : Rank
  statements : List Statement
  deriving DecidableEq, Repr

/-! ## §3 Rendering -/

/-- The list of attributes, the label first. -/
def attributeList (label? : Option Text) (attributes : List (Text × Text)) : Text :=
  let written := (label?.map (fun l => "label=".toList ++ label l)).toList ++
    attributes.map (fun a => a.1 ++ '=' :: a.2)
  '[' :: [' '].intercalate written ++ [']']

/-- The line of a statement, without its end. -/
def Statement.render : Statement → Text
  | .node id l => '\t' :: identifier id ++ ' ' :: attributeList (some l) []
  | .edge source target l attributes =>
    '\t' :: endpoint source ++ " -> ".toList ++ endpoint target ++
      ' ' :: attributeList l attributes

/-- The first line of the graph. -/
def Digraph.header (g : Digraph) : Text :=
  "digraph ".toList ++ (if g.name.isEmpty then [] else identifier g.name ++ [' ']) ++ ['\x7b']

/-- The lines of the graph. -/
def Digraph.lines (g : Digraph) : List Text :=
  [g.header, "\trankdir=".toList ++ g.rank.name, "\tnode [shape=box]".toList] ++
    g.statements.map Statement.render ++ ["\x7d".toList]

/-- The text of the graph. -/
def Digraph.render (g : Digraph) : Text := g.lines.flatMap (fun line => line ++ ['\n'])

end DiagramGraph.Dot
