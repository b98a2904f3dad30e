/-
DiagramGraph.Mermaid.Style — the style names `:::name` that both
dialects put after a name. They concern the drawing only, so readers
step over them.
-/
import DiagramGraph.Text.Search
import DiagramGraph.Text.Word

namespace DiagramGraph.Mermaid

open Text

/-- The style `:::name` at the start of the text, empty if there is
none, and the rest. -/
def takeStyle (t : Text) : Text × Text :=
  match after? ":::".toList t with
  | some rest =>
    if (rest.takeWhile isWord).isEmpty then ([], t)
    else (":::".toList ++ rest.takeWhile isWord, rest.dropWhile isWord)
  | none => ([], t)

/-- The text without a style `:::name` at its end. -/
def dropStyle (t : Text) : Text :=
  let turned := t.reverse
  match after? ":::".toList (turned.dropWhile isWord) with
  | some rest => if (turned.takeWhile isWord).isEmpty then t else rest.reverse
  | none => t

/-- Nothing is lost when a style is taken off. -/
theorem takeStyle_append (t : Text) : (takeStyle t).1 ++ (takeStyle t).2 = t := by
  unfold takeStyle
  cases h : after? ":::".toList t with
  | none => rfl
  | some rest =>
    dsimp only
    split
    · rfl
    · rw [after?_eq_some_iff.mp h, List.append_assoc, List.takeWhile_append_dropWhile]

/-- No style begins with another character than a colon. -/
theorem takeStyle_cons {c : Char} (hc : c ≠ ':') (rest : Text) :
    takeStyle (c :: rest) = ([], c :: rest) := by
  have hcolon : (':' == c) = false := beq_eq_false_iff_ne.mpr hc.symm
  simp [takeStyle, after?, List.isPrefixOf, hcolon]

/-- A style is taken up to the end of its name. -/
theorem takeStyle_colons {name rest : Text} (hne : name ≠ [])
    (htake : (name ++ rest).takeWhile isWord = name)
    (hdrop : (name ++ rest).dropWhile isWord = rest) :
    takeStyle (":::".toList ++ (name ++ rest)) = (":::".toList ++ name, rest) := by
  rw [takeStyle, after?_append]
  dsimp only
  rw [htake, hdrop, if_neg (by simpa using hne)]

end DiagramGraph.Mermaid
