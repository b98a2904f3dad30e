/-
DiagramGraph.Mermaid.Declaration — the lines of a class diagram that
declare a class.

A declaration is `class Name`, then, each of them optional and in this
order, a generic part `~T~`, a display label `["label"]` or `"label"`
and a style `:::name`. Each part is taken if it stands there and passed
over if not, so what is left (`Declaration.rest`) is determined by the
line; a body in braces is looked for only in there.
-/
import DiagramGraph.Mermaid.Style

namespace DiagramGraph.Mermaid

open Text

/-! ## §1 The parts of a declaration -/

/-- The rest after a generic part `~T~` at the start of the text, if it has one. -/
def skipGeneric (t : Text) : Text :=
  match t with
  | '~' :: inner =>
    match cutAt '~' inner with
    | some (_, rest) => rest
    | none => t
  | _ => t

/-- The text in double quotes at the start, and the rest. -/
def quotedText? (t : Text) : Option (Text × Text) :=
  match t with
  | '"' :: inner => cutAt '"' inner
  | _ => none

/-- A label `["label"]` at the start of the text, blanks being allowed
before and inside the brackets, and the rest. -/
def bracketLabel? (t : Text) : Option (Text × Text) :=
  match trimStart t with
  | '[' :: inner =>
    match quotedText? (trimStart inner) with
    | some (label, more) =>
      match trimStart more with
      | ']' :: rest => some (label, rest)
      | _ => none
    | none => none
  | _ => none

/-- A label `"label"` after at least one blank, and the rest. -/
def spacedLabel? (t : Text) : Option (Text × Text) :=
  match t with
  | c :: _ => if isBlank c then quotedText? (trimStart t) else none
  | [] => none

/-- The label at the start of the text, empty if there is none, and the rest. -/
def declaredLabel (t : Text) : Text × Text :=
  match bracketLabel? t with
  | some found => found
  | none => (spacedLabel? t).getD ([], t)

/-! ## §2 Declarations -/

/-- A class declaration: the name, the label in quotes as written and
what follows on the line. -/
structure Declaration where
  name : Text
  label : Text
  rest : Text
  deriving DecidableEq, Repr

/-- The declaration that a line makes. -/
def declaration? (line : Text) : Option Declaration :=
  match after? "class".toList line with
  | none => none
  | some more =>
    let named := trimStart more
    let name := named.takeWhile isWord
    if more.length = named.length || name.isEmpty then none
    else
      let (label, rest) := declaredLabel (skipGeneric (named.dropWhile isWord))
      some ⟨name, label, (takeStyle rest).2⟩

/-! ## §3 Bodies -/

/-- The body that a declaration opens on its line. -/
inductive Body
  /-- No body. -/
  | absent
  /-- A body that ends on the line, with its members. -/
  | closed (members : List Text)
  /-- A body on the following lines. -/
  | opened
  deriving DecidableEq, Repr

/-- The members between commas, without blanks around them and empty ones. -/
def inlineMembers (t : Text) : List Text :=
  ((t.splitOn ',').map trim).filter (fun m => !m.isEmpty)

/-- The body that the rest of a declaration opens. -/
def Declaration.body (d : Declaration) : Body :=
  match cutAt '\x7b' d.rest with
  | none => .absent
  | some (_, inner) =>
    match cutAt '\x7d' inner with
    | some (members, _) => .closed (inlineMembers members)
    | none => .opened

end DiagramGraph.Mermaid
