/-
DiagramGraph.Mermaid.Glyph — the glyphs that join two nodes.

The two dialects share some glyphs and give them different meanings,
so each has a catalog of its own. The order of a catalog is the order
in which its glyphs are tried.
-/
import DiagramGraph.Graph.Basic

namespace DiagramGraph.Mermaid

/-! ## §1 Class diagrams -/

/-- A glyph of class diagrams. The head of a `pointsLeft` glyph points
left: what stands to its right is the source. -/
structure ClassGlyph where
  sign : Text
  relation : Relation
  pointsLeft : Bool := false
  deriving DecidableEq, Repr

/-- Source and target, given what stands left and right of the glyph. -/
def ClassGlyph.ends (g : ClassGlyph) (left right : Text) : Text × Text :=
  if g.pointsLeft then (right, left) else (left, right)

/-- The glyphs of class diagrams; a glyph stands before those it contains. -/
def classGlyphs : List ClassGlyph :=
  [⟨"<|--".toList, .inheritance, true⟩,
   ⟨"--|>".toList, .inheritance, false⟩,
   ⟨"<|..".toList, .realization, true⟩,
   ⟨"..|>".toList, .realization, false⟩,
   ⟨"--*".toList, .composition, true⟩,
   ⟨"*--".toList, .composition, false⟩,
   ⟨"--o".toList, .aggregation, true⟩,
   ⟨"o--".toList, .aggregation, false⟩,
   ⟨"<--".toList, .association, true⟩,
   ⟨"-->".toList, .association, false⟩,
   ⟨"<..".toList, .dependency, true⟩,
   ⟨"..>".toList, .dependency, false⟩,
   ⟨"--".toList, .link, false⟩]

/-- The glyph that a class diagram is written with: the first one that
points right. -/
def classGlyphFor? (r : Relation) : Option Text :=
  (classGlyphs.find? (fun g => !g.pointsLeft && g.relation = r)).map (·.sign)

/-! ## §2 Flowcharts -/

/-- A glyph of flowcharts. -/
structure FlowGlyph where
  sign : Text
  relation : Relation
  deriving DecidableEq, Repr

/-- The glyphs of flowcharts. -/
def flowGlyphs : List FlowGlyph :=
  [⟨"-.->".toList, .dependency⟩,
   ⟨"==>".toList, .composition⟩,
   ⟨"-->".toList, .association⟩,
   ⟨"---".toList, .link⟩,
   ⟨"--".toList, .link⟩]

/-- The glyphs that can end a label: all but the bare dash. -/
def flowArrows : List FlowGlyph := flowGlyphs.filter (fun g => g.sign ≠ "--".toList)

/-- The relation of a glyph; a text that is no glyph is a plain link. -/
def flowRelation (sign : Text) : Relation :=
  match flowGlyphs.find? (fun g => g.sign = sign) with
  | some g => g.relation
  | none => .link

/-- The relation of a glyph is found by its sign: no sign stands twice. -/
theorem flowRelation_sign {g : FlowGlyph} (hg : g ∈ flowGlyphs) :
    flowRelation g.sign = g.relation := by
  revert g
  decide

/-- The glyph that a flowchart is written with: the first one of the relation. -/
def flowGlyphFor? (r : Relation) : Option Text :=
  (flowGlyphs.find? (fun g => g.relation = r)).map (·.sign)

end DiagramGraph.Mermaid
