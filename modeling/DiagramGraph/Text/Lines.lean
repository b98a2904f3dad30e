/-
DiagramGraph.Text.Lines — from a text to its trimmed lines, and from
those to the statements of a diagram.

* `unifyNewlines` — `\r\n` and `\r` become `\n`;
* `trimmedLines` — the lines without a leading byte-order mark and
  without blanks around them;
* `statements` — the lines that say something: not empty, no comment,
  and not starting with one of the given markers.
-/
import DiagramGraph.Text.Search

namespace DiagramGraph.Text

/-! ## §1 Lines -/

/-- Every line end, `\r\n`, `\r` or `\n`, written as `\n`. -/
def unifyNewlines : Text → Text
  | '\r' :: '\n' :: rest => '\n' :: unifyNewlines rest
  | c :: rest => (if c = '\r' then '\n' else c) :: unifyNewlines rest
  | [] => []

/-- The text without one byte-order mark at its start. -/
def dropMark : Text → Text
  | c :: rest => if c = '\uFEFF' then rest else c :: rest
  | [] => []

/-- The lines of the text, each without the blanks around it. -/
def trimmedLines (t : Text) : List Text :=
  ((dropMark (unifyNewlines t)).splitOn '\n').map trim

/-! ## §2 Statements -/

/-- A comment line starts with two percent signs. -/
def isComment (line : Text) : Bool := "%%".toList.isPrefixOf line

/-- Does the line say anything: is it neither empty nor a comment? -/
def isMeaningful (line : Text) : Bool := !line.isEmpty && !isComment line

/-- The meaningful lines that start with none of the markers. -/
def statements (markers : List Text) (lines : List Text) : List Text :=
  lines.filter (fun line => isMeaningful line && !startsWithAny markers line)

/-- Statements are taken line by line. -/
theorem statements_append (markers a b : List Text) :
    statements markers (a ++ b) = statements markers a ++ statements markers b :=
  List.filter_append ..

end DiagramGraph.Text
