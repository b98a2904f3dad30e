/-
DiagramGraph.Proofs.DraftTheorems — the laws of a graph under
construction.

  §1 Nodes      — a known node is not added again and a new one goes to
                  the end, so new nodes stand in the order in which they
                  are mentioned (`foldl_mention`); a change of the newest
                  node touches no other.
  §2 Links      — linking known nodes adds the links that are not refused
                  and nothing more (`foldl_connect`).
  §3 Soundness  — `Draft.Sound`, the invariant of a draft: identifiers
                  stand once, links join nodes that are there, and every
                  node, link and statement meets a condition of the
                  reader's choice. Mentions, changes of a node, links and
                  statements set aside keep it.
-/
import DiagramGraph.Graph.Draft

namespace DiagramGraph

/-! ## §1 Nodes -/

theorem Node.caption_ne_nil {n : Node} (h : n.id ≠ []) : n.caption ≠ [] := by
  unfold Node.caption
  split
  · exact h
  · next hl => simpa using hl

theorem Node.caption_eq_label {n : Node} (h : n.caption ≠ n.id) : n.caption = n.label := by
  unfold Node.caption at h ⊢
  split at h
  · exact absurd rfl h
  · next hl => rw [if_neg hl]

namespace Draft

/-- An empty label on offer says nothing. -/
theorem offer_nil (n : Node) : n.offer [] = n := by
  unfold Node.offer
  split
  · next h =>
    cases n
    simp_all
  · rfl

theorem any_eq_true_iff_mem_ids {d : Draft} {id : Text} :
    d.nodes.any (fun n => n.id = id) = true ↔ id ∈ d.ids := by
  simp [ids, List.any_eq_true]

/-- Speaking of a known node without a label changes nothing. -/
theorem mention_of_mem {d : Draft} {id : Text} (h : id ∈ d.ids) : d.mention id = d := by
  rw [mention, if_pos (any_eq_true_iff_mem_ids.mpr h), update]
  have hsame : (fun n : Node => if n.id = id then n.offer [] else n) = fun n => n := by
    funext n
    rw [offer_nil, ite_self]
  rw [hsame, List.map_id']

/-- A new node goes to the end with the label on offer. -/
theorem mention_of_not_mem {d : Draft} {id : Text} (h : id ∉ d.ids) (label : Text) :
    d.mention id label = { d with nodes := d.nodes ++ [⟨id, label, [], none⟩] } := by
  rw [mention, if_neg fun hk => h (any_eq_true_iff_mem_ids.mp hk)]

/-- New nodes are added in the order in which they are mentioned. -/
theorem foldl_mention {α : Type} (id label : α → Text) : ∀ {xs : List α} {d : Draft},
    (xs.map id).Nodup → (∀ i ∈ xs.map id, i ∉ d.ids) →
    xs.foldl (fun e x => e.mention (id x) (label x)) d =
      { d with nodes := d.nodes ++ xs.map (fun x => ⟨id x, label x, [], none⟩) }
  | [], d, _, _ => by simp
  | x :: xs, d, hnodup, hnew => by
      obtain ⟨hx, hrest⟩ := List.nodup_cons.mp hnodup
      rw [List.foldl_cons, mention_of_not_mem (hnew (id x) (by simp)), foldl_mention id label hrest]
      · simp
      · intro i hi
        have hold := hnew i (by simp only [List.map_cons, List.mem_cons]; exact .inr hi)
        have hne : i ≠ id x := fun he => hx (he ▸ hi)
        simpa [ids, hne] using hold

/-- A change of the newest node leaves the others alone. -/
theorem update_newest {d : Draft} {ns : List Node} {n : Node} (hd : d.nodes = ns ++ [n])
    (hn : n.id ∉ ns.map Node.id) (change : Node → Node) :
    d.update n.id change = { d with nodes := ns ++ [change n] } := by
  have hold : ns.map (fun m => if m.id = n.id then change m else m) = ns := by
    refine (List.map_congr_left fun m hm => if_neg fun he => hn ?_).trans (List.map_id' ns)
    exact he ▸ List.mem_map_of_mem hm
  rw [update, hd, List.map_append, hold]
  simp

theorem mem_ids_mention (d : Draft) (id label : Text) : id ∈ (d.mention id label).ids := by
  rw [ids_mention]
  split
  · assumption
  · simp

theorem mem_ids_mention_of_mem {d : Draft} {known : Text} (h : known ∈ d.ids) (id label : Text) :
    known ∈ (d.mention id label).ids := by
  rw [ids_mention]
  split
  · exact h
  · simp [h]

/-! ## §2 Links -/

/-- Speaking of a node leaves the links as they are. -/
@[simp] theorem links_mention (d : Draft) (id label : Text) : (d.mention id label).links = d.links := by
  unfold mention update
  split <;> rfl

/-- Linking two known nodes adds the link, unless it is refused. -/
theorem connect_of_mem {d : Draft} {l : Link} (hs : l.source ∈ d.ids) (ht : l.target ∈ d.ids)
    (loops : Bool) :
    d.connect l loops = if refuses loops l then d else { d with links := d.links ++ [l] } := by
  rw [connect, mention_of_mem hs, mention_of_mem ht]

/-- Of links between known nodes, those that are not refused are added. -/
theorem foldl_connect (loops : Bool) : ∀ {links : List Link} {d : Draft},
    (∀ l ∈ links, l.source ∈ d.ids ∧ l.target ∈ d.ids) →
    links.foldl (fun e l => e.connect l loops) d =
      { d with links := d.links ++ links.filter (fun l => !refuses loops l) }
  | [], d, _ => by simp
  | l :: links, d, h => by
      obtain ⟨hs, ht⟩ := h l (by simp)
      rw [List.foldl_cons, connect_of_mem hs ht]
      split
      · next hr =>
        rw [foldl_connect loops fun k hk => h k (List.mem_cons_of_mem l hk)]
        simp [hr]
      · next hr =>
        rw [foldl_connect loops (d := { d with links := d.links ++ [l] })
          fun k hk => h k (List.mem_cons_of_mem l hk)]
        simp [hr]

/-! ## §3 Soundness -/

/-- The invariant of a draft, given what its nodes, its links and its
unread statements have to satisfy. -/
structure Sound (onNode : Node → Prop) (onLink : Link → Prop) (onUnread : Text → Prop)
    (d : Draft) : Prop where
  nodup : d.ids.Nodup
  node : ∀ n ∈ d.nodes, onNode n
  ends : ∀ l ∈ d.links, l.source ∈ d.ids ∧ l.target ∈ d.ids
  link : ∀ l ∈ d.links, onLink l
  unread : ∀ t ∈ d.unread, onUnread t

namespace Sound

variable {onNode : Node → Prop} {onLink : Link → Prop} {onUnread : Text → Prop} {d : Draft}

theorem empty : Sound onNode onLink onUnread {} := by
  constructor <;> simp [ids]

/-- A change that keeps identifiers and the condition on nodes. -/
theorem update (h : Sound onNode onLink onUnread d) (id : Text) {change : Node → Node}
    (hid : ∀ n, (change n).id = n.id) (hn : ∀ n, onNode n → onNode (change n)) :
    Sound onNode onLink onUnread (d.update id change) := by
  have hids := ids_update d id hid
  refine ⟨hids ▸ h.nodup, ?_, fun l hl => hids ▸ h.ends l hl, h.link, h.unread⟩
  intro n hn'
  obtain ⟨m, hm, rfl⟩ := List.mem_map.mp hn'
  split
  · exact hn m (h.node m hm)
  · exact h.node m hm

theorem mention (h : Sound onNode onLink onUnread d) {id label : Text}
    (hnew : onNode ⟨id, label, [], none⟩) (hold : ∀ n, onNode n → onNode (n.offer label)) :
    Sound onNode onLink onUnread (d.mention id label) := by
  have hnodup := nodup_ids_mention h.nodup id label
  have hends : ∀ l ∈ d.links, l.source ∈ (d.mention id label).ids ∧
      l.target ∈ (d.mention id label).ids := fun l hl =>
    ⟨mem_ids_mention_of_mem (h.ends l hl).1 id label, mem_ids_mention_of_mem (h.ends l hl).2 id label⟩
  by_cases hk : id ∈ d.ids
  · rw [Draft.mention, if_pos (any_eq_true_iff_mem_ids.mpr hk)]
    exact h.update id (Node.id_offer label) hold
  · rw [mention_of_not_mem hk] at hnodup hends ⊢
    refine ⟨hnodup, ?_, hends, h.link, h.unread⟩
    intro n hm
    rcases List.mem_append.mp hm with hm | hm
    · exact h.node n hm
    · rw [List.mem_singleton.mp hm]
      exact hnew

/-- Speaking of a node without a label keeps the invariant if a node
with nothing but its identifier may be there. -/
theorem mention_bare (h : Sound onNode onLink onUnread d) {id : Text} (hnew : onNode ⟨id, [], [], none⟩) :
    Sound onNode onLink onUnread (d.mention id) :=
  h.mention hnew fun n hn => (offer_nil n).symm ▸ hn

/-- A link keeps the invariant: its ends are mentioned before it is added. -/
theorem connect (h : Sound onNode onLink onUnread d) {l : Link} {loops : Bool}
    (hs : onNode ⟨l.source, [], [], none⟩) (ht : onNode ⟨l.target, [], [], none⟩)
    (hl : refuses loops l = false → onLink l) :
    Sound onNode onLink onUnread (d.connect l loops) := by
  have hboth := (h.mention_bare hs).mention_bare ht
  rw [Draft.connect]
  split
  · exact hboth
  · next hr =>
    refine ⟨hboth.nodup, hboth.node, ?_, ?_, hboth.unread⟩
    · intro k hk
      rcases List.mem_append.mp hk with hk | hk
      · exact hboth.ends k hk
      · rw [List.mem_singleton.mp hk]
        exact ⟨mem_ids_mention_of_mem (mem_ids_mention d l.source []) l.target [],
          mem_ids_mention (d.mention l.source) l.target []⟩
    · intro k hk
      rcases List.mem_append.mp hk with hk | hk
      · exact hboth.link k hk
      · rw [List.mem_singleton.mp hk]
        exact hl (by simpa using hr)

theorem setAside (h : Sound onNode onLink onUnread d) {line : Text} (hu : onUnread line) :
    Sound onNode onLink onUnread (d.setAside line) := by
  refine ⟨h.nodup, h.node, h.ends, h.link, ?_⟩
  intro t ht
  rcases List.mem_append.mp ht with ht | ht
  · exact h.unread t ht
  · rw [List.mem_singleton.mp ht]
    exact hu

end Sound
end Draft
end DiagramGraph
