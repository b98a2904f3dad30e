/-
DiagramGraph.Mermaid.Edge — the lines of a flowchart that link two
nodes.

An edge is written in one of three forms, tried in this order:

    A -->|label| B        piped
    A -- label --> B      spaced
    A --> B               bare

Both ends are node tokens. A form may fit a line in several ways,
because the text of a shape and a spaced label can stretch; the ways
are tried from the left, nearest ends first, and the first that reaches
the end of the line is the edge.
-/
import DiagramGraph.Mermaid.NodeToken
import DiagramGraph.Mermaid.Glyph

namespace DiagramGraph.Mermaid

open Text

/-- An edge as written: both tokens, the relation of its glyph and the
text of its label. -/
structure Edge where
  left : Text
  right : Text
  relation : Relation
  label : Text := []
  deriving DecidableEq, Repr

namespace Edge

/-! ## §1 Parts -/

/-- The glyphs at the start of the text after blanks, each with the rest. -/
def glyphs (gs : List FlowGlyph) (t : Text) : List (FlowGlyph × Text) :=
  gs.filterMap fun g => (after? g.sign (trimStart t)).map (fun rest => (g, rest))

/-- The label `|label|` at the start of the text after blanks, and the rest. -/
def pipedLabel? (t : Text) : Option (Text × Text) :=
  match trimStart t with
  | '|' :: inner => cutAt '|' inner
  | _ => none

/-- The text after each run of leading blanks, the longest run first;
the text itself is not among them. -/
def afterBlanks : Text → List Text
  | [] => []
  | c :: rest => if isBlank c then afterBlanks rest ++ [rest] else []

/-- The ways to cut a label off the text before a blank, the shortest
label first. A label is not empty and stays in its line. -/
def spacedLabels : Text → List (Text × Text)
  | [] => []
  | c :: rest =>
    if c = '\n' then []
    else
      let here := match rest with
        | b :: _ => if isBlank b then [([c], rest)] else []
        | [] => []
      here ++ (spacedLabels rest).map (fun s => (c :: s.1, s.2))

/-! ## §2 The three forms -/

/-- `A -->|label| B`. -/
def piped? (line : Text) : Option Edge :=
  (tokens line).findSome? fun (left, rest) =>
    (glyphs flowGlyphs rest).findSome? fun (g, rest) =>
      match pipedLabel? rest with
      | none => none
      | some (label, rest) =>
        (lastToken? (trimStart rest)).map fun right => ⟨left, right, flowRelation g.sign, label⟩

/-- `A -- label --> B`. -/
def spaced? (line : Text) : Option Edge :=
  (tokens line).findSome? fun (left, rest) =>
    match after? "--".toList (trimStart rest) with
    | none => none
    | some rest =>
      ((afterBlanks rest).flatMap spacedLabels).findSome? fun (label, rest) =>
        (glyphs flowArrows rest).findSome? fun (g, rest) =>
          (lastToken? (trimStart rest)).map fun right => ⟨left, right, flowRelation g.sign, label⟩

/-- `A --> B`. -/
def bare? (line : Text) : Option Edge :=
  (tokens line).findSome? fun (left, rest) =>
    (glyphs flowGlyphs rest).findSome? fun (g, rest) =>
      (lastToken? (trimStart rest)).map fun right => ⟨left, right, flowRelation g.sign, []⟩

/-- The edge that a line writes. -/
def ofLine? (line : Text) : Option Edge :=
  (piped? line).or ((spaced? line).or (bare? line))

end Edge
end DiagramGraph.Mermaid
