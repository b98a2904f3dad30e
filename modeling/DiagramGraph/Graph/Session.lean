/-
DiagramGraph.Graph.Session — a draft driven by a list of steps.

A session runs steps one after another on an empty draft. A step that
names an unknown relation or dialect is refused and changes nothing. A
`build` step takes a snapshot: the links and statements of that moment,
and the nodes by their identifiers only. What a snapshot shows is looked
up in the draft at the end (`Snapshot.view`), because a node that was
already there goes on being filled by later steps.
-/
import DiagramGraph.Graph.Draft
import DiagramGraph.Text.Quoted

namespace DiagramGraph

/-! ## §1 Steps and refusals -/

/-- One step of a session. -/
inductive Step
  | mention (id label : Text)
  | addMember (id member : Text)
  | setStereotype (id : Text) (stereotype : Option Text)
  | connect (source target relation label : Text) (loops : Bool)
  | setAside (line : Text)
  | build (dialect : Option Text) (orientation : Option Text)
  | unknown
  deriving DecidableEq, Repr

/-- Why a step was refused. -/
inductive Step.Refusal
  | unknownRelation (name : Text)
  | unknownDialect (name : Text)
  | unknownStep
  deriving DecidableEq, Repr

/-- The wording of a refusal. -/
def Step.Refusal.message : Step.Refusal → Text
  | .unknownRelation name => Text.quoted name ++ " is not a valid RelationKind".toList
  | .unknownDialect name => Text.quoted name ++ " is not a valid Dialect".toList
  | .unknownStep => "unknown step".toList

/-- What a step answers. -/
inductive Step.Answer
  | done
  | node (n : Node)
  | link (l : Option Link)
  | diagram (d : Diagram)
  deriving DecidableEq, Repr

/-! ## §2 Snapshots -/

/-- What a `build` step fixes: which nodes there are at that moment, and
the links, statements, dialect and orientation. -/
structure Snapshot where
  ids : List Text
  links : List Link
  dialect : Option Dialect
  orientation : Option Text
  unread : List Text
  deriving DecidableEq, Repr

/-- The snapshot as it looks once the draft has become `d`. -/
def Snapshot.view (s : Snapshot) (d : Draft) : Diagram :=
  ⟨s.ids.filterMap d.find?, s.links, s.dialect, s.orientation, s.unread⟩

/-- The snapshot of the draft `d`. -/
def Draft.snapshot (d : Draft) (dialect : Option Dialect) (orientation : Option Text) : Snapshot :=
  ⟨d.ids, d.links, dialect, orientation, d.unread⟩

/-! ## §3 Running -/

/-- The draft so far and the snapshots taken of it, the oldest first. -/
structure Session where
  draft : Draft := {}
  snapshots : List Snapshot := []
  deriving DecidableEq, Repr

namespace Session

/-- The diagram of this moment, and the session that remembers it. -/
def build (s : Session) (dialect : Option Dialect) (orientation : Option Text) :
    Step.Answer × Session :=
  (.diagram (s.draft.finish dialect orientation),
    { s with snapshots := s.snapshots ++ [s.draft.snapshot dialect orientation] })

/-- Runs one step. -/
def step (s : Session) : Step → Except Step.Refusal (Step.Answer × Session)
  | .mention id label =>
    let d := s.draft.mention id label
    .ok (match d.find? id with | some n => .node n | none => .done, { s with draft := d })
  | .addMember id member => .ok (.done, { s with draft := s.draft.addMember id member })
  | .setStereotype id stereotype =>
    .ok (.done, { s with draft := s.draft.setStereotype id stereotype })
  | .connect source target relation label loops =>
    match Relation.ofName? relation with
    | none => .error (.unknownRelation relation)
    | some r =>
      let l : Link := ⟨source, target, r, label⟩
      .ok (.link (if Draft.refuses loops l then none else some l),
        { s with draft := s.draft.connect l loops })
  | .setAside line => .ok (.done, { s with draft := s.draft.setAside line })
  | .build none orientation => .ok (s.build none orientation)
  | .build (some name) orientation =>
    match Dialect.ofName? name with
    | none => .error (.unknownDialect name)
    | some dialect => .ok (s.build (some dialect) orientation)
  | .unknown => .error .unknownStep

/-- The session after a step; a refused step leaves it as it was. -/
def next (s : Session) (x : Step) : Session :=
  match s.step x with
  | .ok (_, s') => s'
  | .error _ => s

/-- The answers to the steps in order, each with the session after it,
and the session at the end. -/
def run (s : Session) : List Step → List (Except Step.Refusal (Step.Answer × Session)) × Session
  | [] => ([], s)
  | x :: rest =>
    let (answers, last) := run (s.next x) rest
    (s.step x :: answers, last)

/-- The snapshots as they look at the end of the session. -/
def diagrams (s : Session) : List Diagram := s.snapshots.map (·.view s.draft)

end Session
end DiagramGraph
