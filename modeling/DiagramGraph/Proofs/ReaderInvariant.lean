/-
DiagramGraph.Proofs.ReaderInvariant — what holds of every diagram that
was read, whatever the text.

The main statement is `wellFormed_read`. `WellFormed` says that the
identifiers are names and stand once, that links join nodes of the
diagram, that captions are squeezed and not empty, which dialect and
orientation a text has, and what each dialect says of members, links and
labels.

Both readers build a draft, statement by statement, so the invariant is
`Draft.Sound` with the conditions of the dialect on nodes and links. One
statement keeps it (`sound_step`, `sound_readStatement`) by what
`Proofs.StatementSoundness` says of single lines; along the whole text it
is kept because every statement is a trimmed line that is not empty.
-/
import DiagramGraph.Mermaid.Reader
import DiagramGraph.Proofs.ClassMachine
import DiagramGraph.Proofs.StatementSoundness

namespace DiagramGraph.Mermaid

open Text Label

/-! ## §1 Nodes -/

/-- What both readers keep of a node. -/
structure NamedNode (n : Node) : Prop where
  name : IsName n.id
  label : Squeezed n.label

section NamedNode

variable {n : Node}

theorem NamedNode.squeezed_caption (h : NamedNode n) : Squeezed n.caption := by
  unfold Node.caption
  split
  · exact h.name.squeezed
  · exact h.label

theorem NamedNode.offer (h : NamedNode n) {label : Text} (hl : Squeezed label) :
    NamedNode (n.offer label) := by
  refine ⟨(Node.id_offer label n).symm ▸ h.name, ?_⟩
  unfold Node.offer
  split
  · exact hl
  · exact h.label

end NamedNode

theorem members_offer (n : Node) (label : Text) :
    (n.offer label).members = n.members ∧ (n.offer label).stereotype = n.stereotype := by
  unfold Node.offer
  split <;> exact ⟨rfl, rfl⟩

/-! ## §2 Class diagrams -/

namespace ClassDiagram

/-- A node of a class diagram: its members are lines of the text, and its
stereotype stands on one of them. -/
structure SoundNode (n : Node) : Prop extends NamedNode n where
  members : ∀ m ∈ n.members, Entry m
  stereotype : ∀ s ∈ n.stereotype, OneLine s

/-- A link of a class diagram, between two classes and with a label that
is the end of a line. -/
structure SoundLink (l : Link) : Prop where
  noLoop : l.source ≠ l.target
  trimmed : Trimmed l.label
  oneLine : OneLine l.label

/-- The invariant of the reader of class diagrams. -/
abbrev Sound (d : Draft) : Prop := d.Sound SoundNode SoundLink Entry

theorem SoundNode.fresh {id label : Text} (hid : IsName id) (hl : Squeezed label) :
    SoundNode ⟨id, label, [], none⟩ := ⟨⟨hid, hl⟩, by simp, by simp⟩

theorem sound_mention {d : Draft} (h : Sound d) {id label : Text} (hid : IsName id)
    (hl : Squeezed label) : Sound (d.mention id label) := by
  refine h.mention (.fresh hid hl) fun n hn => ?_
  obtain ⟨hmembers, hstereotype⟩ := members_offer n label
  exact ⟨hn.toNamedNode.offer hl, hmembers ▸ hn.members, hstereotype ▸ hn.stereotype⟩

/-- A body gains members. -/
theorem sound_addMembers {d : Draft} (h : Sound d) (id : Text) {members : List Text}
    (hm : ∀ m ∈ members, Entry m) :
    Sound (d.update id fun n => { n with members := n.members ++ members }) := by
  refine h.update id (fun _ => rfl) fun n hn =>
    ⟨⟨hn.name, hn.label⟩, fun m hmem => ?_, hn.stereotype⟩
  rcases List.mem_append.mp hmem with hmem | hmem
  · exact hn.members m hmem
  · exact hm m hmem

/-- A stereotype is a piece of its line. -/
theorem mem_of_mem_stereotype? {line s : Text} (h : stereotype? line = some s) {c : Char}
    (hc : c ∈ s) : c ∈ line := by
  unfold stereotype? at h
  split at h
  · obtain rfl := Option.some.inj h
    exact List.mem_of_mem_drop (List.mem_of_mem_take (mem_of_mem_trim hc))
  · simp at h

theorem sound_fill {d : Draft} (h : Sound d) (id : Text) {line : Text} (hline : Entry line) :
    Sound (fill id d line) := by
  unfold fill
  split
  · next s hs =>
    refine h.update id (fun _ => rfl) fun n hn => ⟨⟨hn.name, hn.label⟩, hn.members, ?_⟩
    rintro _ ⟨⟩
    exact hline.oneLine.of_subset fun c hc => mem_of_mem_stereotype? hs hc
  · exact sound_addMembers h id (by simpa using hline)

theorem sound_declare {d : Draft} (h : Sound d) {line : Text} (hline : Entry line)
    {decl : Declaration} (hdecl : declaration? line = some decl) : Sound (declare d decl).draft := by
  obtain ⟨hname, hrest⟩ := of_declaration? hdecl
  have hmention := sound_mention h hname (squeezed_clean decl.label)
  rw [declare_eq]
  cases hbody : decl.body with
  | absent => exact hmention
  | opened => exact hmention
  | closed members =>
    have honeLine : OneLine decl.rest := hline.oneLine.of_subset fun c hc => hrest.subset hc
    exact sound_addMembers hmention decl.name (entry_of_body honeLine hbody)

theorem sound_relate {d : Draft} (h : Sound d) {line : Text} (hline : Entry line) :
    Sound (relate d line) := by
  unfold relate
  cases hl : relationship? line with
  | none => exact h.setAside hline
  | some l =>
    obtain ⟨hsource, htarget, htrimmed, honeLine⟩ := of_relationship? hline.oneLine hl
    refine h.connect (.fresh hsource rfl) (.fresh htarget rfl) fun hrefuse => ?_
    exact ⟨by simpa [Draft.refuses] using hrefuse, htrimmed, honeLine⟩

/-- One statement keeps the invariant. -/
theorem sound_step {m : Machine} (h : Sound m.draft) {line : Text} (hline : Entry line) :
    Sound (m.step line).draft := by
  obtain ⟨mode, d⟩ := m
  cases mode with
  | body name =>
    unfold Machine.step
    dsimp only
    split
    · exact h
    · exact sound_fill h name hline
  | top =>
    by_cases hg : isGrouping line = true
    · rw [run_top_of_isGrouping hg]
      exact h
    · cases hd : declaration? line with
      | none =>
        rw [run_top_of_declaration?_eq_none hg hd]
        exact sound_relate h hline
      | some decl =>
        rw [run_top_of_declaration? hg hd]
        exact sound_declare h hline hd

/-- So do all of them. -/
theorem sound_run {lines : List Text} (hlines : ∀ line ∈ lines, Entry line) :
    ∀ {m : Machine}, Sound m.draft → Sound (m.run lines).draft := by
  induction lines with
  | nil => intro m h; exact h
  | cons line rest ih =>
    intro m h
    have hstep : Sound (m.step line).draft := sound_step h (hlines line (by simp))
    exact ih (fun l hl => hlines l (List.mem_cons_of_mem line hl)) hstep

theorem entry_of_mem_survivors {t line : Text} (h : line ∈ survivors (trimmedLines t)) :
    Entry line := by
  have hmem : line ∈ (trimmedLines t).filter survives := by
    unfold survivors skipHeader at h
    split at h
    · simp at h
    · next first rest heq =>
      rw [heq]
      split at h
      · exact List.mem_cons_of_mem first h
      · exact h
  obtain ⟨hline, hsurvives⟩ := List.mem_filter.mp hmem
  obtain ⟨htrimmed, honeLine⟩ := of_mem_trimmedLines hline
  refine ⟨fun he => ?_, htrimmed, honeLine⟩
  rw [he] at hsurvives
  exact absurd hsurvives (by decide)

theorem sound_readLines (t : Text) : Sound (Machine.run {} (survivors (trimmedLines t))).draft :=
  sound_run (fun _ hline => entry_of_mem_survivors hline) .empty

end ClassDiagram

/-! ## §3 Flowcharts -/

namespace Flowchart

/-- A node of a flowchart: it has no body. -/
structure SoundNode (n : Node) : Prop extends NamedNode n where
  members : n.members = []
  stereotype : n.stereotype = none

/-- A link of a flowchart, with a relation that there is a glyph for and a
cleaned label. -/
structure SoundLink (l : Link) : Prop where
  relation : l.relation ∈ flowRelations
  label : Squeezed l.label

/-- The invariant of the reader of flowcharts. -/
abbrev Sound (d : Draft) : Prop := d.Sound SoundNode SoundLink Entry

theorem SoundNode.fresh {id label : Text} (hid : IsName id) (hl : Squeezed label) :
    SoundNode ⟨id, label, [], none⟩ := ⟨⟨hid, hl⟩, rfl, rfl⟩

theorem sound_mentionToken {d : Draft} (h : Sound d) {token : Text} (ht : StartsWithWord token) :
    Sound (mentionToken d token) := by
  obtain ⟨hname, hlabel⟩ := tokenParts_spec ht
  refine h.mention (.fresh hname hlabel) fun n hn => ?_
  obtain ⟨hmembers, hstereotype⟩ := members_offer n (tokenParts token).2
  exact ⟨hn.toNamedNode.offer hlabel, hmembers.trans hn.members, hstereotype.trans hn.stereotype⟩

theorem sound_addEdge {d : Draft} (h : Sound d) {e : Edge} (he : SoundEdge e) :
    Sound (addEdge d e) := by
  have hboth := sound_mentionToken (sound_mentionToken h he.left) he.right
  exact hboth.connect (.fresh (tokenParts_spec he.left).1 rfl)
    (.fresh (tokenParts_spec he.right).1 rfl) fun _ => ⟨he.relation, squeezed_clean e.label⟩

/-- One statement keeps the invariant. -/
theorem sound_readStatement {d : Draft} (h : Sound d) {line : Text} (hline : line ≠ [] → Entry line) :
    Sound (readStatement d line) := by
  unfold readStatement
  split
  · exact h
  · next hne =>
    cases hedge : Edge.ofLine? line with
    | some e => exact sound_addEdge h (soundEdge_of_ofLine? hedge)
    | none =>
      cases htoken : lastToken? line with
      | some token => exact sound_mentionToken h (startsWithWord_of_lastToken? htoken).2
      | none =>
        refine h.setAside (hline fun he => hne ?_)
        simp [he]

/-- So do all of them. -/
theorem sound_foldl {lines : List Text} (hlines : ∀ line ∈ lines, line ≠ [] → Entry line) :
    ∀ {d : Draft}, Sound d → Sound (lines.foldl readStatement d) := by
  induction lines with
  | nil => intro d h; exact h
  | cons line rest ih =>
    intro d h
    have hstep : Sound (readStatement d line) := sound_readStatement h (hlines line (by simp))
    exact ih (fun l hl => hlines l (List.mem_cons_of_mem line hl)) hstep

/-- What is left of a trimmed line without its semicolons is trimmed. -/
theorem entry_dropSemicolons {line : Text} (htrimmed : Trimmed line) (honeLine : OneLine line)
    (hne : dropSemicolons line ≠ []) : Entry (dropSemicolons line) := by
  have hstart : dropSemicolons line <+: line := by
    refine (prefix_trimEnd _).trans ?_
    obtain ⟨s, hs⟩ := List.dropWhile_suffix (l := line.reverse) (· == ';')
    exact ⟨s.reverse, by rw [← List.reverse_append, hs, List.reverse_reverse]⟩
  refine ⟨hne, trim_eq_self_iff.mpr ⟨fun c hc => ?_, getLast?_trimEnd _⟩,
    honeLine.of_subset fun c hc => hstart.subset hc⟩
  obtain ⟨rest, hrest⟩ := hstart
  refine (trim_eq_self_iff.mp htrimmed).1 c ?_
  rw [← hrest, List.head?_append, Option.mem_def.mp hc]
  rfl

theorem sound_readLines (t : Text) :
    Sound (((statements directives (trimmedLines t)).map dropSemicolons).foldl readStatement {}) := by
  refine sound_foldl (fun line hline hne => ?_) .empty
  obtain ⟨raw, hraw, rfl⟩ := List.mem_map.mp hline
  obtain ⟨htrimmed, honeLine⟩ := of_mem_trimmedLines (List.mem_filter.mp hraw).1
  exact entry_dropSemicolons htrimmed honeLine hne

end Flowchart

/-! ## §4 Every text -/

/-- What holds of a graph that was read in either dialect. -/
structure SoundGraph (d : Diagram) : Prop where
  nodup : (d.nodes.map Node.id).Nodup
  name : ∀ n ∈ d.nodes, IsName n.id
  caption : ∀ n ∈ d.nodes, n.caption ≠ [] ∧ Squeezed n.caption
  ends : ∀ l ∈ d.links, l.source ∈ d.nodes.map Node.id ∧ l.target ∈ d.nodes.map Node.id
  unread : ∀ line ∈ d.unread, Entry line

/-- What holds of a diagram that was read from a text. -/
structure WellFormed (t : Text) (d : Diagram) : Prop extends SoundGraph d where
  dialect : d.dialect = dialect? t
  orientation : d.orientation = none ↔ d.dialect = none
  classDiagram : d.dialect = some .classDiagram →
    d.orientation = some "TB".toList ∧
      (∀ n ∈ d.nodes, ∀ m ∈ n.members, Entry m) ∧
      ∀ l ∈ d.links, l.source ≠ l.target ∧ Trimmed l.label ∧ OneLine l.label
  flowchart : d.dialect = some .flowchart →
    d.orientation ∈ ["TB", "TD", "BT", "RL", "LR"].map (fun o => some o.toList) ∧
      (∀ n ∈ d.nodes, n.members = [] ∧ n.stereotype = none) ∧
      ∀ l ∈ d.links, l.relation ∈ [.dependency, .composition, .association, .link] ∧
        Squeezed l.label

theorem soundGraph_finish {d : Draft} {onNode : Node → Prop} {onLink : Link → Prop}
    (h : d.Sound onNode onLink Entry) (hn : ∀ n, onNode n → NamedNode n)
    (dialect : Option Dialect) (orientation : Option Text) :
    SoundGraph (d.finish dialect orientation) where
  nodup := h.nodup
  name n hm := (hn n (h.node n hm)).name
  caption n hm :=
    ⟨Node.caption_ne_nil (hn n (h.node n hm)).name.ne_nil, (hn n (h.node n hm)).squeezed_caption⟩
  ends := h.ends
  unread := h.unread

theorem wellFormed_classDiagram {t : Text} (hd : dialect? t = some .classDiagram) :
    WellFormed t
      { ClassDiagram.readLines (trimmedLines t) with orientation := some classOrientation } := by
  have h := ClassDiagram.sound_readLines t
  rw [ClassDiagram.readLines_eq_finish]
  refine ⟨soundGraph_finish h (fun n hn => hn.toNamedNode) (some .classDiagram)
    (some classOrientation), hd.symm, ?_, fun _ => ⟨rfl, ?_, ?_⟩, ?_⟩
  · simp [Draft.finish]
  · exact fun n hn => (h.node n hn).members
  · exact fun l hl => ⟨(h.link l hl).noLoop, (h.link l hl).trimmed, (h.link l hl).oneLine⟩
  · simp [Draft.finish]

theorem wellFormed_flowchart {t direction : Text} (hd : dialect? t = some .flowchart)
    (hdirection : direction ∈ directions) :
    WellFormed t (Flowchart.readLines (trimmedLines t) (some direction)) := by
  have h := Flowchart.sound_readLines t
  refine ⟨soundGraph_finish h (fun n hn => hn.toNamedNode) (some .flowchart) (some direction),
    hd.symm, ?_, ?_, fun _ => ⟨?_, ?_, ?_⟩⟩
  · simp [Flowchart.readLines, Draft.finish]
  · simp [Flowchart.readLines, Draft.finish]
  · exact List.mem_map_of_mem (f := some) hdirection
  · exact fun n hn => ⟨(h.node n hn).members, (h.node n hn).stereotype⟩
  · exact fun l hl => ⟨(h.link l hl).relation, (h.link l hl).label⟩

theorem mem_directions_of_flowDirection? {line direction : Text}
    (h : flowDirection? line = some direction) : direction ∈ directions := by
  unfold flowDirection? at h
  split at h
  · split at h
    · exact List.mem_of_find?_eq_some h
    · simp at h
  · simp at h

/-- Every text is read into a well-formed diagram, and so is no text at
all, which counts as an empty one. -/
theorem wellFormed_read (code : Option Text) :
    WellFormed (code.getD []) (read (code.getD [])) := by
  generalize code.getD [] = t
  unfold read
  dsimp only
  cases hfirst : firstStatement? (trimmedLines t) with
  | none =>
    have hd : dialect? t = none := by rw [dialect?, hfirst]; rfl
    refine ⟨⟨?_, ?_, ?_, ?_, ?_⟩, hd.symm, ?_, ?_, ?_⟩ <;> simp
  | some first =>
    dsimp only
    cases hdirection : flowDirection? first with
    | none =>
      refine wellFormed_classDiagram ?_
      simp only [dialect?, hfirst, Option.map_some, hdirection]
      rfl
    | some direction =>
      refine wellFormed_flowchart ?_ (mem_directions_of_flowDirection? hdirection)
      simp only [dialect?, hfirst, Option.map_some, hdirection]
      rfl

end DiagramGraph.Mermaid
