/-
DiagramGraph.Mermaid.Relationship — the lines of a class diagram that
relate two classes.

A line `A <|-- B : label` is read by looking for each glyph of the
catalog in turn. A glyph counts only if single identifiers stand on
both of its sides, so a glyph inside a label or a member decides
nothing. The rule is `relationship?`; its parts are

* `target` — the identifier right of a glyph and its label;
* `atGlyph?` — the reading of a line at one glyph.
-/
import DiagramGraph.Mermaid.Glyph
import DiagramGraph.Text.Search
import DiagramGraph.Text.Word

namespace DiagramGraph.Mermaid

open Text

/-- `id : label` at the start of the text: the identifier and the
label, which fills one line. -/
def labelled? (t : Text) : Option (Text × Text) :=
  match (t.dropWhile isWord).dropWhile isBlank with
  | ':' :: rest =>
    let label := rest.dropWhile isBlank
    if (t.takeWhile isWord).isEmpty || label.isEmpty || label.contains '\n' then none
    else some (t.takeWhile isWord, trim label)
  | _ => none

/-- What stands right of a glyph: the target with its label, or the
first word and no label. -/
def target (t : Text) : Text × Text :=
  (labelled? t).getD (firstWord t, [])

/-- The link that the line states at the first occurrence of the glyph. -/
def atGlyph? (line : Text) (g : ClassGlyph) : Option Link :=
  match cut g.sign line with
  | none => none
  | some (before, rest) =>
    let left := trim before
    let (right, label) := target (trim rest)
    if isIdentifier left && isIdentifier right then
      let (source, target) := g.ends left right
      some ⟨source, target, g.relation, label⟩
    else none

/-- The link that the line states, by the first glyph that has
identifiers on both sides. -/
def relationship? (line : Text) : Option Link :=
  classGlyphs.findSome? (atGlyph? line)

end DiagramGraph.Mermaid
