/-
DiagramGraph.Dot.Quote — identifiers, labels and endpoints in DOT.

A text is written bare if DOT reads it as an identifier or a numeral
and it is no keyword, or if it is marked up; otherwise it stands in
double quotes, where a quote gets a backslash unless an odd run of
backslashes already stands before it.
-/
import DiagramGraph.Text.Search
import DiagramGraph.Text.Word

namespace DiagramGraph.Dot

open Text

/-! ## §1 What can stand bare -/

/-- The keywords of DOT. -/
def keywords : List Text :=
  ["node".toList, "edge".toList, "graph".toList, "digraph".toList, "subgraph".toList,
   "strict".toList]

/-- A letter of ASCII or an underscore. -/
def isNameStart (c : Char) : Bool := c.isAlpha || c == '_'

/-- A letter or digit of ASCII or an underscore. -/
def isNameChar (c : Char) : Bool := c.isAlphanum || c == '_'

/-- A name: a letter or underscore, then letters, digits and underscores. -/
def isName : Text → Bool
  | c :: rest => isNameStart c && rest.all isNameChar
  | [] => false

/-- An unsigned numeral: digits with or without a point among them, one
digit at least. -/
def isUnsigned (t : Text) : Bool :=
  match t.dropWhile Char.isDigit with
  | [] => !t.isEmpty
  | '.' :: fraction =>
    fraction.all Char.isDigit && !((t.takeWhile Char.isDigit).isEmpty && fraction.isEmpty)
  | _ => false

/-- A numeral, which may have a minus sign. -/
def isNumeral (t : Text) : Bool :=
  match t with
  | '-' :: rest => isUnsigned rest
  | _ => isUnsigned t

/-- Marked-up text: it starts with `<` and ends with `>`, perhaps before
one line feed. -/
def isMarkup (t : Text) : Bool :=
  let u := dropFinalNewline t
  u.head? = some '<' && u.getLast? = some '>' && 2 ≤ u.length

/-- A name or numeral, perhaps before one line feed, that is no keyword. -/
def isBare (t : Text) : Bool :=
  (isName (dropFinalNewline t) || isNumeral (dropFinalNewline t)) && !keywords.contains (lower t)

/-! ## §2 Quoting -/

/-- The text with a backslash before each quote that has none; `odd`
says whether an odd run of backslashes stands before the text. -/
def escapeQuotes : Bool → Text → Text
  | _, [] => []
  | odd, c :: rest =>
    if c = '\\' then '\\' :: escapeQuotes (!odd) rest
    else if c = '"' then
      if odd then '"' :: escapeQuotes false rest else '\\' :: '"' :: escapeQuotes false rest
    else c :: escapeQuotes false rest

/-- The text in double quotes. -/
def inQuotes (t : Text) : Text := '"' :: escapeQuotes false t ++ ['"']

/-- A label: bare if possible, else in quotes. Markup is text here. -/
def label (t : Text) : Text := if isBare t then t else inQuotes t

/-- An identifier: markup and what can stand bare as it is, all else in
quotes. -/
def identifier (t : Text) : Text := if isMarkup t then t else label t

/-- An end of an edge: what stands before the first colon is the node,
then follow the anchor and, as it is, the compass point. -/
def endpoint (t : Text) : Text :=
  match cutAt ':' t with
  | none => identifier t
  | some (node, []) => identifier node
  | some (node, rest) =>
    match cutAt ':' rest with
    | none => identifier node ++ ':' :: identifier rest
    | some (anchor, []) => identifier node ++ ':' :: identifier anchor
    | some (anchor, compass) => identifier node ++ ':' :: identifier anchor ++ ':' :: compass

/-! ## §3 Label text -/

/-- One line of a label: backslashes are doubled, and a line feed is
written as `\n`. -/
def escapeLine (t : Text) : Text :=
  t.flatMap fun c =>
    if c = '\\' then ['\\', '\\'] else if c = '\n' then ['\\', 'n'] else [c]

/-- The lines of a label with the line break `\n` between them. -/
def escapeLines (lines : List Text) : Text := ['\\', 'n'].intercalate (lines.map escapeLine)

end DiagramGraph.Dot
