/-
DiagramGraph.Graph.Draft — a graph under construction.

A draft keeps one node for each identifier it has heard of, in the
order of first mention. Readers change it through five operations:

* `mention` — a node is spoken of, perhaps with a label on offer;
* `addMember`, `setStereotype` — a node's body is filled;
* `connect` — two nodes are linked, both being mentioned first;
* `setAside` — a statement was not understood.
-/
import DiagramGraph.Graph.Basic

namespace DiagramGraph

/-- A graph under construction. -/
structure Draft where
  nodes : List Node := []
  links : List Link := []
  unread : List Text := []
  deriving DecidableEq, Repr

namespace Draft

/-! ## §1 Nodes -/

/-- The node with the given identifier. -/
def find? (d : Draft) (id : Text) : Option Node := d.nodes.find? (fun n => n.id = id)

/-- The draft with `change` applied to the node `id`. -/
def update (d : Draft) (id : Text) (change : Node → Node) : Draft :=
  { d with nodes := d.nodes.map (fun n => if n.id = id then change n else n) }

/-- Speaks of the node `id`: a new node is added at the end with the
offered label, a known one takes the label if it has none yet. -/
def mention (d : Draft) (id : Text) (label : Text := []) : Draft :=
  if d.nodes.any (fun n => n.id = id) then d.update id (Node.offer label)
  else { d with nodes := d.nodes ++ [⟨id, label, [], none⟩] }

/-- The identifiers of the nodes, in order. -/
def ids (d : Draft) : List Text := d.nodes.map Node.id

/-- A change that keeps identifiers keeps the list of them. -/
theorem ids_update (d : Draft) (id : Text) {change : Node → Node}
    (h : ∀ n, (change n).id = n.id) : (d.update id change).ids = d.ids := by
  unfold ids update
  rw [List.map_map]
  apply List.map_congr_left
  intro n _
  simp only [Function.comp_apply]
  split
  · exact h n
  · rfl

/-- Speaking of a node adds its identifier at the end, once. -/
theorem ids_mention (d : Draft) (id label : Text) :
    (d.mention id label).ids = if id ∈ d.ids then d.ids else d.ids ++ [id] := by
  have hany : (d.nodes.any (fun n => n.id = id)) = true ↔ id ∈ d.ids := by
    simp [ids, List.any_eq_true]
  unfold mention
  by_cases h : id ∈ d.ids
  · rw [if_pos (hany.mpr h), if_pos h]
    exact ids_update d id (Node.id_offer label)
  · rw [if_neg (fun hk => h (hany.mp hk)), if_neg h]
    simp [ids]

/-- No identifier stands twice in a draft that mentions one more node. -/
theorem nodup_ids_mention {d : Draft} (hd : d.ids.Nodup) (id label : Text) :
    (d.mention id label).ids.Nodup := by
  rw [ids_mention]
  split
  · exact hd
  · next h =>
    refine List.nodup_append.mpr ⟨hd, by simp, ?_⟩
    intro a ha b hb hab
    rw [List.mem_singleton] at hb
    exact h (hb ▸ hab ▸ ha)

/-- Adds a member to the body of the node `id`. -/
def addMember (d : Draft) (id member : Text) : Draft :=
  (d.mention id).update id (fun n => { n with members := n.members ++ [member] })

/-- Sets the stereotype of the node `id`. -/
def setStereotype (d : Draft) (id : Text) (stereotype : Option Text) : Draft :=
  (d.mention id).update id (fun n => { n with stereotype := stereotype })

/-! ## §2 Links and statements -/

/-- Is the link refused: does it join a node to itself where that is not allowed? -/
def refuses (loops : Bool) (l : Link) : Bool := l.source = l.target && !loops

/-- Mentions both ends of the link, the source first, and adds it
unless it is refused. -/
def connect (d : Draft) (l : Link) (loops : Bool) : Draft :=
  let e := (d.mention l.source).mention l.target
  if refuses loops l then e else { e with links := e.links ++ [l] }

/-- Records a statement that no rule understood. -/
def setAside (d : Draft) (line : Text) : Draft := { d with unread := d.unread ++ [line] }

/-- The draft as a diagram. -/
def finish (d : Draft) (dialect : Option Dialect) (orientation : Option Text) : Diagram :=
  ⟨d.nodes, d.links, dialect, orientation, d.unread⟩

end Draft
end DiagramGraph
