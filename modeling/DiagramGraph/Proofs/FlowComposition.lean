/-
DiagramGraph.Proofs.FlowComposition — a flowchart is read piece by piece.

`Diagram.followedBy` puts two diagrams one after the other: links and
unread statements are appended, nodes are added unless they are known,
and a node takes the label of the second diagram only if the first gives
it none. The main statement is `readLines_append`, the lines of two
flowcharts one after the other are read into the two diagrams one after
the other.

The reader never looks at the draft to decide what a line says, so each
line is a list of steps of its own (`stepsOf`), and a flowchart is the
draft that the steps of its lines describe (`readLines_eq_draftAfter`).
What remains is a law of lists of steps, `finish_draftAfter_append`: it
holds wherever the later steps fill no bodies, which flowcharts do not
have.
-/
import DiagramGraph.Mermaid.Flowchart
import DiagramGraph.Proofs.SessionTheorems

namespace DiagramGraph

/-! ## §1 Two lists of steps -/

/-- The first mentions among some of the identifiers. -/
theorem eraseDups_filter (ids : List Text) (p : Text → Bool) :
    (ids.filter p).eraseDups = ids.eraseDups.filter p := by
  induction ids using List.reverseRecOn with
  | nil => rfl
  | append_singleton ids id ih =>
    rw [List.filter_append, Draft.eraseDups_concat]
    cases hp : p id with
    | false => by_cases hm : id ∈ ids <;> simp [hp, hm, ih]
    | true =>
      rw [List.filter_cons_of_pos hp, List.filter_nil, Draft.eraseDups_concat, ih]
      by_cases hm : id ∈ ids <;> simp [hp, hm]

/-- The identifiers of two lists, in the order of first mention: those of
the first, and those of the second that are new. -/
theorem eraseDups_append_eq (a b : List Text) :
    (a ++ b).eraseDups = a.eraseDups ++ b.eraseDups.filter (fun id => id ∉ a) := by
  rw [List.eraseDups_append, List.removeAll, eraseDups_filter]
  simp

/-- Earlier steps do not matter to a node that they do not mention. -/
theorem nodeAfter_append_of_not_mem {a : List Step} {id : Text} (h : id ∉ a.flatMap Step.mentions)
    (b : List Step) : nodeAfter (a ++ b) id = nodeAfter b id := by
  obtain ⟨hlabels, hmembers, hstereotypes⟩ := filterMap_eq_nil_of_not_mem h
  simp only [nodeAfter, List.filterMap_append, hlabels, hmembers, hstereotypes, List.nil_append]

/-- Steps that fill no body: they give no members and set no stereotype. -/
def Bodiless (steps : List Step) : Prop :=
  ∀ x ∈ steps, ∀ id, x.memberOf? id = none ∧ x.stereotypeOf? id = none

/-- Later steps that fill no body can only bring a label, where there is none yet. -/
theorem nodeAfter_append_of_bodiless (a : List Step) {b : List Step} (hb : Bodiless b) (id : Text) :
    nodeAfter (a ++ b) id =
      { nodeAfter a id with
        label := if (nodeAfter a id).label.isEmpty then (nodeAfter b id).label
          else (nodeAfter a id).label } := by
  have hmembers : b.filterMap (Step.memberOf? id) = [] :=
    List.filterMap_eq_nil_iff.mpr fun x hx => (hb x hx id).1
  have hstereotypes : b.filterMap (Step.stereotypeOf? id) = [] :=
    List.filterMap_eq_nil_iff.mpr fun x hx => (hb x hx id).2
  rw [← label_nodeAfter_append]
  simp only [nodeAfter, List.filterMap_append, hmembers, hstereotypes, List.append_nil]

/-! ## §2 Two diagrams -/

namespace Diagram

/-- The label that the diagram gives to the node `id`, empty if it gives none. -/
def labelOf (d : Diagram) (id : Text) : Text :=
  ((d.nodes.find? (fun n => n.id = id)).map Node.label).getD []

/-- The two diagrams one after the other: the nodes of the first, with
the label of the second where they have none, then the nodes of the
second that the first does not have. -/
def followedBy (d e : Diagram) : Diagram where
  nodes := d.nodes.map (fun n =>
      { n with label := if n.label.isEmpty then e.labelOf n.id else n.label }) ++
    e.nodes.filter (fun n => n.id ∉ d.nodes.map Node.id)
  links := d.links ++ e.links
  dialect := d.dialect
  orientation := d.orientation
  unread := d.unread ++ e.unread

end Diagram

theorem nodes_draftAfter (steps : List Step) :
    (draftAfter steps).nodes = (steps.flatMap Step.mentions).eraseDups.map (nodeAfter steps) := rfl

/-- The nodes that steps describe have the mentioned identifiers. -/
theorem ids_draftAfter (steps : List Step) :
    (draftAfter steps).nodes.map Node.id = (steps.flatMap Step.mentions).eraseDups := by
  rw [nodes_draftAfter, List.map_map]
  exact List.map_id' _

theorem labelOf_finish_draftAfter (steps : List Step) (dialect : Option Dialect)
    (orientation : Option Text) (id : Text) :
    ((draftAfter steps).finish dialect orientation).labelOf id = (nodeAfter steps id).label := by
  show (((draftAfter steps).nodes.find? fun n => n.id = id).map Node.label).getD [] = _
  rw [draftAfter, List.find?_map]
  cases hfind : (steps.flatMap Step.mentions).eraseDups.find?
      ((fun n => decide (n.id = id)) ∘ nodeAfter steps) with
  | some i =>
    have hi : i = id := by simpa [nodeAfter] using List.find?_some hfind
    rw [hi]
    rfl
  | none =>
    have hnot : id ∉ steps.flatMap Step.mentions := by
      intro hm
      simpa [nodeAfter] using List.find?_eq_none.mp hfind id (List.mem_eraseDups.mpr hm)
    rw [nodeAfter_of_not_mem hnot]
    rfl

/-- The nodes that two lists of steps describe, where the second list
fills no body. -/
theorem nodes_draftAfter_append (a : List Step) {b : List Step} (hb : Bodiless b) :
    (draftAfter (a ++ b)).nodes =
      (draftAfter a).nodes.map (fun n =>
          { n with label := if n.label.isEmpty then (nodeAfter b n.id).label else n.label }) ++
        (draftAfter b).nodes.filter (fun n => n.id ∉ (draftAfter a).nodes.map Node.id) := by
  have hknown : (a.flatMap Step.mentions).eraseDups.map (nodeAfter (a ++ b)) =
      (draftAfter a).nodes.map fun n =>
        { n with label := if n.label.isEmpty then (nodeAfter b n.id).label else n.label } := by
    rw [nodes_draftAfter, List.map_map]
    exact List.map_congr_left fun id _ => nodeAfter_append_of_bodiless a hb id
  have hnew : ((b.flatMap Step.mentions).eraseDups.filter fun id =>
        id ∉ a.flatMap Step.mentions).map (nodeAfter (a ++ b)) =
      (draftAfter b).nodes.filter fun n => n.id ∉ (draftAfter a).nodes.map Node.id := by
    rw [ids_draftAfter, nodes_draftAfter b, List.filter_map]
    simp only [List.mem_eraseDups]
    refine List.map_congr_left fun id hid => ?_
    exact nodeAfter_append_of_not_mem (by simpa using (List.mem_filter.mp hid).2) b
  rw [nodes_draftAfter, List.flatMap_append, eraseDups_append_eq, List.map_append, hknown, hnew]

/-- So the diagram of two lists of steps is one diagram after the other. -/
theorem finish_draftAfter_append (a : List Step) {b : List Step} (hb : Bodiless b)
    (dialect : Option Dialect) (orientation : Option Text) :
    (draftAfter (a ++ b)).finish dialect orientation =
      ((draftAfter a).finish dialect orientation).followedBy
        ((draftAfter b).finish dialect orientation) := by
  have hlinks : (draftAfter (a ++ b)).links = (draftAfter a).links ++ (draftAfter b).links :=
    List.filterMap_append
  have hunread : (draftAfter (a ++ b)).unread = (draftAfter a).unread ++ (draftAfter b).unread :=
    List.filterMap_append
  simp only [Diagram.followedBy, labelOf_finish_draftAfter]
  rw [Draft.finish, nodes_draftAfter_append a hb, hlinks, hunread]
  rfl

end DiagramGraph

namespace DiagramGraph.Mermaid.Flowchart

open Text

/-! ## §3 The steps of a line -/

/-- What a token mentions. -/
def tokenStep (token : Text) : Step := .mention (tokenParts token).1 (tokenParts token).2

/-- The steps of a statement. -/
def stepsOf (line : Text) : List Step :=
  if line.isEmpty || isGrouping line then []
  else
    match Edge.ofLine? line with
    | some e =>
      [tokenStep e.left, tokenStep e.right,
        .connect (tokenParts e.left).1 (tokenParts e.right).1 e.relation.name (Label.clean e.label)
          true]
    | none =>
      match lastToken? line with
      | some _ => [tokenStep line]
      | none => [.setAside line]

/-- The steps of the lines of a flowchart. -/
def stepsOfLines (lines : List Text) : List Step :=
  ((statements directives lines).map dropSemicolons).flatMap stepsOf

theorem stepsOfLines_append (a b : List Text) :
    stepsOfLines (a ++ b) = stepsOfLines a ++ stepsOfLines b := by
  rw [stepsOfLines, statements_append, List.map_append, List.flatMap_append]
  rfl

theorem bodiless_stepsOfLines (lines : List Text) : Bodiless (stepsOfLines lines) := by
  intro x hx id
  obtain ⟨line, -, hx⟩ := List.mem_flatMap.mp hx
  unfold stepsOf at hx
  split at hx
  · simp at hx
  · split at hx
    · simp only [List.mem_cons, List.not_mem_nil, or_false] at hx
      rcases hx with rfl | rfl | rfl <;> exact ⟨rfl, rfl⟩
    · split at hx <;> (rw [List.mem_singleton.mp hx]; exact ⟨rfl, rfl⟩)

/-- Reading a statement is taking its steps. -/
theorem draft_foldl_stepsOf (s : Session) (line : Text) :
    ((stepsOf line).foldl Session.next s).draft = readStatement s.draft line := by
  unfold stepsOf readStatement
  split
  · rfl
  · cases Edge.ofLine? line with
    | some e =>
      simp only [List.foldl_cons, List.foldl_nil, Session.next, Session.step, tokenStep,
        Relation.ofName?_name]
      rfl
    | none =>
      dsimp only
      cases lastToken? line with
      | some token => rfl
      | none => rfl

theorem draft_foldl_flatMap_stepsOf (lines : List Text) (s : Session) :
    ((lines.flatMap stepsOf).foldl Session.next s).draft = lines.foldl readStatement s.draft := by
  induction lines generalizing s with
  | nil => rfl
  | cons line rest ih =>
    rw [List.flatMap_cons, List.foldl_append, ih, draft_foldl_stepsOf, List.foldl_cons]

/-- A flowchart is what the steps of its lines describe. -/
theorem readLines_eq_draftAfter (lines : List Text) (orientation : Option Text) :
    readLines lines orientation =
      (draftAfter (stepsOfLines lines)).finish (some .flowchart) orientation := by
  rw [readLines, ← Session.draft_foldl_next, stepsOfLines, draft_foldl_flatMap_stepsOf]

/-- Flowcharts are read piece by piece: the diagram of two lists of lines
is the diagram of the first followed by the diagram of the second. -/
theorem readLines_append (a b : List Text) (orientation : Option Text) :
    readLines (a ++ b) orientation =
      (readLines a orientation).followedBy (readLines b orientation) := by
  rw [readLines_eq_draftAfter, readLines_eq_draftAfter a, readLines_eq_draftAfter b,
    stepsOfLines_append]
  exact finish_draftAfter_append _ (bodiless_stepsOfLines b) _ _

end DiagramGraph.Mermaid.Flowchart
