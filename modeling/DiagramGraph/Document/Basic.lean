/-
DiagramGraph.Document.Basic — graph documents: JSON values that
describe a graph.

A document is a record with a list of nodes and a list of links. Only
these two lists are demanded of it (`validate`); everything inside is
looked at when it is used, and a value of the wrong kind is a `Fault`
at that moment. So the accessors here return faults, and the order in
which a printer uses them decides which fault is met first.
-/
import DiagramGraph.Graph.Basic
import DiagramGraph.Json.Value

namespace DiagramGraph.Document

open Json

/-! ## §1 Faults -/

/-- A value of the wrong kind inside a document. -/
inductive Fault
  /-- Fields were asked of a value that is no record. -/
  | notRecord
  /-- Text was asked of a value that is no string. -/
  | notText
  /-- Items were asked of a value that has none. -/
  | notSequence
  /-- A list or a record stands where a name is looked up. -/
  | notKey
  /-- A value that is no string stands where an identifier is written. -/
  | notIdentifier
  deriving DecidableEq, Repr

/-! ## §2 Access -/

/-- The fields of a record. -/
def fields : Value → Except Fault Fields
  | .obj fields => .ok fields
  | _ => .error .notRecord

/-- The field of a record, null if it is absent. -/
def field (v : Value) (key : Text) : Except Fault Value :=
  match fields v with
  | .ok fs => .ok ((fs.get? key).getD .null)
  | .error e => .error e

/-- The items of a list, the characters of a string or the names of a
record's fields. -/
def items : Value → Except Fault (List Value)
  | .arr vs => .ok vs
  | .str t => .ok (t.map (fun c => .str [c]))
  | .obj fs => .ok (fs.map (fun f => .str f.1))
  | _ => .error .notSequence

/-- The items of a field of a record; an absent field has none. -/
def listField (v : Value) (key : Text) : Except Fault (List Value) :=
  match fields v with
  | .ok fs => items ((fs.get? key).getD (.arr []))
  | .error e => .error e

/-- The text of a value that has to be a string; a value that says
nothing is the empty text. -/
def textOrEmpty (v : Value) : Except Fault Text :=
  if v.isTruthy then
    match v with
    | .str t => .ok t
    | _ => .error .notText
  else .ok []

/-- The name that a value looks up, if it is one: lists and records
cannot be looked up. -/
def lookupName : Value → Except Fault (Option Text)
  | .str t => .ok (some t)
  | .arr _ => .error .notKey
  | .obj _ => .error .notKey
  | _ => .ok none

/-- The relation that the type of a link names, if it names one. -/
def linkRelation (link : Value) : Except Fault (Option Relation) :=
  match field link "type".toList with
  | .error e => .error e
  | .ok v => (lookupName v).map (fun name => name.bind Relation.ofName?)

/-! ## §3 Validity -/

/-- Why a value is no graph document. -/
inductive Invalid
  | notObject
  | missingList (key : Text)
  deriving DecidableEq, Repr

/-- The wording of `Invalid`. -/
def Invalid.message : Invalid → Text
  | .notObject => "graph document must be a JSON object".toList
  | .missingList key =>
    "graph document is missing a '".toList ++ key ++ "' list".toList

/-- Is the field there, and a list? -/
def hasList (fs : Fields) (key : Text) : Bool :=
  match fs.get? key with
  | some (.arr _) => true
  | _ => false

/-- The value, if it is a record with the two lists. -/
def validate (v : Value) : Except Invalid Value :=
  match v with
  | .obj fs =>
    match ["nodes".toList, "links".toList].find? (fun key => !hasList fs key) with
    | some key => .error (.missingList key)
    | none => .ok v
  | _ => .error .notObject

/-! ## §4 The document of a graph -/

/-- The record of a node, which shows its caption. -/
def ofNode (n : Node) : Value :=
  .obj [("id".toList, .str n.id),
        ("label".toList, .str n.caption),
        ("members".toList, .arr (n.members.map .str)),
        ("stereotype".toList, match n.stereotype with | some s => .str s | none => .null)]

/-- The record of a link. -/
def ofLink (l : Link) : Value :=
  .obj [("source".toList, .str l.source),
        ("target".toList, .str l.target),
        ("type".toList, .str l.relation.name),
        ("label".toList, .str l.label)]

/-- The document of a diagram's graph. -/
def ofDiagram (d : Diagram) : Value :=
  .obj [("nodes".toList, .arr (d.nodes.map ofNode)),
        ("links".toList, .arr (d.links.map ofLink))]

end DiagramGraph.Document
