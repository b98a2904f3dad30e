/-
DiagramGraph.Mermaid.ClassDiagram — reading a class diagram.

The statements are read from the first to the last. A declaration with
an open body takes the statements up to the closing brace (all the
rest, if there is none) as the members of its class; every other
statement stands alone: it is passed over, declares a class, relates
two classes, or is set aside.
-/
import DiagramGraph.Graph.Draft
import DiagramGraph.Mermaid.Declaration
import DiagramGraph.Mermaid.Label
import DiagramGraph.Mermaid.Relationship
import DiagramGraph.Text.Lines

namespace DiagramGraph.Mermaid.ClassDiagram

open Text

/-! ## §1 Bodies -/

/-- The stereotype that a body line `<<name>>` sets. -/
def stereotype? (line : Text) : Option Text :=
  if "<<".toList.isPrefixOf line && ">>".toList.isSuffixOf line && 4 ≤ line.length then
    some (trim ((line.drop 2).take (line.length - 4)))
  else none

/-- Adds one body line to the class `name`: a stereotype or a member. -/
def addBodyLine (name : Text) (d : Draft) (line : Text) : Draft :=
  match stereotype? line with
  | some s => d.setStereotype name (some s)
  | none => d.addMember name line

/-- Does the line close a body? -/
def closesBody (line : Text) : Bool := "\x7d".toList.isPrefixOf line

/-- The lines of the body that starts with the given ones. -/
def bodyOf (lines : List Text) : List Text := lines.takeWhile (fun line => !closesBody line)

/-! ## §2 Statements -/

/-- Namespaces group classes, and lone braces end such groups: neither
says anything of the graph. -/
def isGrouping (line : Text) : Bool :=
  "namespace".toList.isPrefixOf line || line = "\x7b".toList || line = "\x7d".toList

/-- Reads a statement that relates two classes, or sets it aside. A
class is never related to itself. -/
def relate (d : Draft) (line : Text) : Draft :=
  match relationship? line with
  | some l => d.connect l false
  | none => d.setAside line

/-- Reads the statements into the draft, after `skip` lines that belong
to a body already read. The line that closes a body belongs to it. -/
def readFrom : Nat → Draft → List Text → Draft
  | _, d, [] => d
  | skip + 1, d, _ :: rest => readFrom skip d rest
  | 0, d, line :: rest =>
    if isGrouping line then readFrom 0 d rest
    else
      match declaration? line with
      | none => readFrom 0 (relate d line) rest
      | some decl =>
        let e := d.mention decl.name (Label.clean decl.label)
        match decl.body with
        | .absent => readFrom 0 e rest
        | .closed members => readFrom 0 (members.foldl (fun f m => f.addMember decl.name m) e) rest
        | .opened =>
          let body := bodyOf rest
          readFrom (body.length + 1) (body.foldl (addBodyLine decl.name) e) rest

/-- Reads the statements into the draft. -/
def readStatements (d : Draft) (lines : List Text) : Draft := readFrom 0 d lines

/-- The statements without a header line at their start. -/
def skipHeader : List Text → List Text
  | [] => []
  | line :: rest => if "classDiagram".toList.isPrefixOf line then rest else line :: rest

/-- The graph of the lines of a class diagram. Notes are passed over. -/
def readLines (lines : List Text) : Diagram :=
  (readStatements {} (skipHeader (statements ["note".toList] lines))).finish
    (some .classDiagram) none

end DiagramGraph.Mermaid.ClassDiagram
