/-
DiagramGraph.Mermaid.Label — label text without its markup.

Cleaning a label trims it, takes it out of one pair of double quotes
and then of one pair of single quotes, turns every line-break tag into
a space and squeezes the white space.
-/
import DiagramGraph.Text.Search

namespace DiagramGraph.Mermaid.Label

open Text

/-! ## §1 Line-break tags -/

/-- The length of the line-break tag at the start of the text: `<br`,
blanks, a slash or none, `>`; the letters may be capitals. -/
def breakLength? (t : Text) : Option Nat :=
  match t with
  | '<' :: b :: r :: rest =>
    if b.toLower = 'b' ∧ r.toLower = 'r' then
      let blanks := rest.takeWhile isBlank
      match rest.dropWhile isBlank with
      | '/' :: '>' :: _ => some (blanks.length + 5)
      | '>' :: _ => some (blanks.length + 4)
      | _ => none
    else none
  | _ => none

/-- The text with each line-break tag replaced by a space, after `skip`
characters that belong to a tag already replaced. -/
def dropBreaksFrom : Nat → Text → Text
  | _, [] => []
  | skip + 1, _ :: rest => dropBreaksFrom skip rest
  | 0, c :: rest =>
    match breakLength? (c :: rest) with
    | some n => ' ' :: dropBreaksFrom (n - 1) rest
    | none => c :: dropBreaksFrom 0 rest

/-- The text with each line-break tag replaced by a space. -/
def dropBreaks (t : Text) : Text := dropBreaksFrom 0 t

/-! ## §2 Cleaning -/

/-- The label without quotes around it, line-break tags and superfluous
white space. -/
def clean (t : Text) : Text :=
  squeeze (dropBreaks (unwrap '\'' (unwrap '"' (trim t))))

end DiagramGraph.Mermaid.Label
