/-
DiagramGraph.Graph.Rank — the direction in which a drawing grows.
-/
import DiagramGraph.Text.Search

namespace DiagramGraph

open Text

/-- The direction in which the ranks of a drawing follow each other. -/
inductive Rank
  | topBottom | bottomTop | leftRight | rightLeft
  deriving DecidableEq, Repr

namespace Rank

/-- The written name of a direction. -/
def name : Rank → Text
  | topBottom => "TB".toList
  | bottomTop => "BT".toList
  | leftRight => "LR".toList
  | rightLeft => "RL".toList

/-- The direction that an orientation asks for, in capitals or not.
What names no direction is drawn from top to bottom. -/
def ofOrientation (t : Text) : Rank :=
  if upper t = "BT".toList then bottomTop
  else if upper t = "LR".toList then leftRight
  else if upper t = "RL".toList then rightLeft
  else topBottom

end Rank
end DiagramGraph
