/-
DiagramGraph.Proofs.DotFaithful — a diagram that was read is drawn in DOT
as it is meant.

`drawing` says, without a word about quoting, what the DOT text of a
diagram has to mean: its header, the direction, the shape of the nodes, a
statement for each node, a statement for each link and the closing
bracket. The main statement, `write_means_drawing`, is that the writer
succeeds on every diagram that was read, that the text it writes means
exactly that, and that each statement has a line of its own.

  §1 Meaning     — `drawing`.
  §2 Statements  — the writer makes a statement of every node and every
                   link; nothing is passed over.
  §3 Attributes  — a bracketed list is read attribute by attribute.
  §4 Lines       — every line is read as one statement, whatever follows
                   it. Identifiers are names, so they are no markup and
                   have no colon; the other texts are escaped, so their
                   backslashes stand in pairs.
  §5 Diagrams    — what was read has such names and texts.
-/
import DiagramGraph.Dot.Writer
import DiagramGraph.Proofs.DotReader
import DiagramGraph.Proofs.ReaderInvariant
import DiagramGraph.Proofs.WriterTheorems

namespace DiagramGraph.Dot

open Text Json Document

/-! ## §1 Meaning -/

/-- The stereotype in guillemets, unless there is none or it is empty. -/
def stereotypeLines (n : Node) : List Text :=
  match n.stereotype with
  | none => []
  | some s => if s = [] then [] else ['«' :: s ++ ['»']]

/-- The lines that a node shows: its stereotype, its caption and its
members. -/
def shown (n : Node) : List Text := stereotypeLines n ++ n.caption :: n.members

/-- The statement of a node as it is meant. -/
def nodeMeaning (n : Node) : Meaning :=
  .node n.id [("label".toList, ['\n'].intercalate (shown n))]

/-- The statement of a link as it is meant: the label, if there is one,
and the attributes of the relation. -/
def linkMeaning (l : Link) : Meaning :=
  .edge l.source l.target
    ((if l.label = [] then [] else [("label".toList, l.label)]) ++ edgeAttributes l.relation)

/-- The statements of a diagram as they are meant. -/
def drawing (d : Diagram) (rank : Rank) : List Meaning :=
  [.opening defaultName, .setting "rankdir".toList rank.name,
    .nodeDefaults [("shape".toList, "box".toList)]] ++
    d.nodes.map nodeMeaning ++ d.links.map linkMeaning ++ [.closing]

theorem oneLine_of_mem_stereotypeLines {n : Node} (h : ∀ s ∈ n.stereotype, OneLine s)
    {line : Text} (hline : line ∈ stereotypeLines n) : OneLine line := by
  unfold stereotypeLines at hline
  split at hline
  · simp at hline
  · next s hs =>
    split at hline
    · simp at hline
    · obtain rfl := List.mem_singleton.mp hline
      exact oneLine_append.mpr ⟨oneLine_cons.mpr ⟨by decide, h s hs⟩, by decide⟩

/-! ## §2 Statements -/

/-- The statement of a node. -/
def Statement.ofNode (n : Node) : Statement := .node n.id (escapeLines (shown n))

/-- The lines of the label of a link: one, unless it has none. -/
def labelLines? (l : Link) : Option (List Text) := if l.label = [] then none else some [l.label]

/-- The statement of a link. -/
def Statement.ofLink (l : Link) : Statement :=
  .edge l.source l.target ((labelLines? l).map escapeLines) (edgeAttributes l.relation)

theorem shownLines_ofNode {n : Node} (h : n.id ≠ []) :
    shownLines (Document.ofNode n) = .ok ((shown n).map .str) := by
  have hcaption := Mermaid.isTruthy_str (Node.caption_ne_nil h)
  have hlines : shownLines (Document.ofNode n) =
      .ok ((stereotypeLines n).map .str ++
        (if (Value.str n.caption).isTruthy then Value.str n.caption else .str n.id) ::
          n.members.map .str) := by
    obtain ⟨id, label, members, stereotype⟩ := n
    cases stereotype with
    | none => cases members <;> rfl
    | some s => cases s <;> cases members <;> rfl
  rw [hlines, if_pos hcaption, shown, List.map_append, List.map_cons]

theorem nodeStatement?_ofNode {n : Node} (h : n.id ≠ []) :
    nodeStatement? (Document.ofNode n) = .ok (some (.ofNode n)) := by
  have hid : field (Document.ofNode n) "id".toList = .ok (.str n.id) := rfl
  have htexts : ((shown n).map Value.str).mapM textOrEmpty = .ok (shown n) := by
    rw [mapM_map_eq_ok fun t _ => textOrEmpty_str t, List.map_id']
  unfold nodeStatement?
  simp only [hid, bind, Except.bind, pure, Except.pure, Mermaid.isTruthy_str h, if_true, asIdentifier,
    shownLines_ofNode h, htexts, Statement.ofNode]

theorem attributesNamed_name (r : Relation) : attributesNamed r.name = edgeAttributes r := by
  cases r <;> decide

theorem edgeStatement?_ofLink {l : Link} (hs : l.source ≠ []) (ht : l.target ≠ []) :
    edgeStatement? (Document.ofLink l) = .ok (some (.ofLink l)) := by
  have hsource : field (Document.ofLink l) "source".toList = .ok (.str l.source) := rfl
  have htarget : field (Document.ofLink l) "target".toList = .ok (.str l.target) := rfl
  have htype : field (Document.ofLink l) "type".toList = .ok (.str l.relation.name) := rfl
  have hlabel : field (Document.ofLink l) "label".toList = .ok (.str l.label) := rfl
  unfold edgeStatement?
  simp only [hsource, htarget, htype, hlabel, bind, Except.bind, pure, Except.pure,
    Mermaid.isTruthy_str hs, Mermaid.isTruthy_str ht, Bool.and_self, if_true, textOrEmpty_str,
    attributesNamed_name, asEndpoint, Statement.ofLink, labelLines?, List.isEmpty_iff,
    escapeLine_eq]
  split <;> rfl

/-- The graph of a diagram. -/
def Digraph.ofDiagram (d : Diagram) (rank : Rank) : Digraph :=
  ⟨defaultName, rank, d.nodes.map .ofNode ++ d.links.map .ofLink⟩

/-- No node and no link is passed over. -/
theorem write_ofDiagram {d : Diagram} (hn : ∀ n ∈ d.nodes, n.id ≠ [])
    (hl : ∀ l ∈ d.links, l.source ≠ [] ∧ l.target ≠ []) (orientation : Text) :
    write (Document.ofDiagram d) orientation =
      .ok (Digraph.ofDiagram d (Rank.ofOrientation orientation)).render := by
  have hnodes : (d.nodes.map Document.ofNode).mapM nodeStatement? =
      .ok ((d.nodes.map Statement.ofNode).map some) := by
    rw [List.map_map]
    exact mapM_map_eq_ok fun n hm => nodeStatement?_ofNode (hn n hm)
  have hlinks : (d.links.map Document.ofLink).mapM edgeStatement? =
      .ok ((d.links.map Statement.ofLink).map some) := by
    rw [List.map_map]
    exact mapM_map_eq_ok fun l hm => edgeStatement?_ofLink (hl l hm).1 (hl l hm).2
  have hstatements : statements (Document.ofDiagram d) =
      .ok (d.nodes.map .ofNode ++ d.links.map .ofLink) := by
    have hlists : statements (Document.ofDiagram d) =
        (do
          let nodes ← (d.nodes.map Document.ofNode).mapM nodeStatement?
          let edges ← (d.links.map Document.ofLink).mapM edgeStatement?
          return (nodes ++ edges).filterMap id) := rfl
    rw [hlists, hnodes, hlinks]
    simp [bind, Except.bind, pure, Except.pure]
  simp only [write, ofDocument, hstatements, textOrEmpty_str, bind, Except.bind, pure, Except.pure]
  rfl

/-! ## §3 Attributes -/

/-- The chunk is read as the attribute. -/
def ReadsAttribute (chunk : Text) (a : Text × Text) : Prop :=
  ∃ value, Lexes chunk [.id a.1, .mark '=', .id value] ∧ attributeValue? a.1 value = some a.2

theorem readsAttribute {name chunk value meant : Text} (hname : IsPlain name)
    (hvalue : Lexes chunk [.id value]) (hmeant : attributeValue? name value = some meant) :
    ReadsAttribute (name ++ '=' :: chunk) (name, meant) :=
  ⟨value, hname.lexes.append (hvalue.mark_cons (by decide)) (stops_cons (by decide) chunk), hmeant⟩

/-- The label of a statement is read as its lines. -/
theorem readsAttribute_label (lines : List Text) :
    ReadsAttribute ("label=".toList ++ label (escapeLines lines))
      ("label".toList, ['\n'].intercalate lines) := by
  have hname : IsPlain "label".toList := by decide
  have hvalue := lexes_label (newline_not_mem_escapeLines lines) (quotable_escapeLines lines)
  exact readsAttribute hname hvalue ((if_pos rfl).trans (unescape?_escapeLines lines))

/-- Attributes that are names are read as they stand. -/
theorem readsAttribute_of_isPlain {a : Text × Text} (hname : IsPlain a.1) (hvalue : IsPlain a.2)
    (hlabel : a.1 ≠ "label".toList) : ReadsAttribute (a.1 ++ '=' :: a.2) a :=
  readsAttribute hname hvalue.lexes (if_neg hlabel)

/-- So are the attributes of a relation. -/
theorem readsAttribute_of_mem_edgeAttributes {r : Relation} :
    ∀ a ∈ edgeAttributes r, ReadsAttribute (a.1 ++ '=' :: a.2) a := by
  have hall : ∀ a ∈ edgeAttributes r, IsPlain a.1 ∧ IsPlain a.2 ∧ a.1 ≠ "label".toList := by
    cases r <;> decide
  intro a ha
  obtain ⟨hname, hvalue, hlabel⟩ := hall a ha
  exact readsAttribute_of_isPlain hname hvalue hlabel

/-- Attributes are read up to the bracket, one after the other. -/
theorem exists_lexes_attributes {chunks : List Text} {attributes : List (Text × Text)}
    (h : List.Forall₂ ReadsAttribute chunks attributes) :
    ∃ ks, Lexes ([' '].intercalate chunks ++ [']']) ks ∧
      ∀ more, attributes? (ks ++ more) = some (attributes, more) := by
  induction h with
  | nil => exact ⟨_, lexes_nil.mark_cons (by decide), fun _ => rfl⟩
  | @cons chunk a chunks attributes hchunk _ ih =>
    obtain ⟨value, hlexes, hvalue⟩ := hchunk
    obtain ⟨ks, hks, hattributes⟩ := ih
    refine ⟨[.id a.1, .mark '=', .id value] ++ ks, ?_, fun more => ?_⟩
    · cases chunks with
      | nil =>
        rw [List.intercalate_singleton]
        exact hlexes.append hks (stops_cons (by decide) [])
      | cons next chunks =>
        rw [List.intercalate_cons_cons, List.append_assoc, List.append_assoc]
        exact hlexes.append_space hks
    · show (attributeValue? a.1 value).bind
        (fun v => (attributes? (ks ++ more)).map fun s => ((a.1, v) :: s.1, s.2)) = _
      rw [hvalue, hattributes]
      rfl

/-- A list of attributes with the lines of a label, if it has one, is
read as it is meant. -/
theorem exists_lexes_attributeList (lines? : Option (List Text)) {attributes : List (Text × Text)}
    (h : ∀ a ∈ attributes, ReadsAttribute (a.1 ++ '=' :: a.2) a) :
    ∃ ks, Lexes (attributeList (lines?.map escapeLines) attributes) (.mark '[' :: ks) ∧
      ∀ more, attributes? (ks ++ more) = some
        ((lines?.map fun lines => ("label".toList, ['\n'].intercalate lines)).toList ++
          attributes, more) := by
  have hrest : List.Forall₂ ReadsAttribute (attributes.map fun a => a.1 ++ '=' :: a.2) attributes :=
    List.forall₂_map_left_iff.mpr (List.forall₂_same.mpr h)
  have hlabel : List.Forall₂ ReadsAttribute
      ((lines?.map escapeLines).map (fun l => "label=".toList ++ label l)).toList
      (lines?.map fun lines => ("label".toList, ['\n'].intercalate lines)).toList := by
    cases lines? with
    | none => exact .nil
    | some lines => exact .cons (readsAttribute_label lines) .nil
  obtain ⟨ks, hks, hattributes⟩ := exists_lexes_attributes (List.rel_append hlabel hrest)
  exact ⟨ks, hks.mark_cons (by decide), hattributes⟩

/-! ## §4 Lines -/

/-- A list of attributes whose texts stay in their lines is one line. -/
theorem oneLine_attributeList {label? : Option Text} {attributes : List (Text × Text)}
    (hlabel : ∀ t ∈ label?, OneLine t) (h : ∀ a ∈ attributes, OneLine a.1 ∧ OneLine a.2) :
    OneLine (attributeList label? attributes) := by
  have hwritten : ∀ chunk ∈ (label?.map (fun l => "label=".toList ++ label l)).toList ++
      attributes.map (fun a => a.1 ++ '=' :: a.2), OneLine chunk := by
    intro chunk hchunk
    rcases List.mem_append.mp hchunk with hchunk | hchunk
    · obtain ⟨t, ht, rfl⟩ := Option.map_eq_some_iff.mp (Option.mem_toList.mp hchunk)
      exact oneLine_append.mpr ⟨by decide, oneLine_label (hlabel t ht)⟩
    · obtain ⟨a, ha, rfl⟩ := List.mem_map.mp hchunk
      exact oneLine_append.mpr ⟨(h a ha).1, oneLine_cons.mpr ⟨by decide, (h a ha).2⟩⟩
  have hinner := oneLine_intercalate (by decide : OneLine [' ']) hwritten
  exact oneLine_append.mpr ⟨oneLine_cons.mpr ⟨by decide, hinner⟩, by decide⟩

theorem oneLine_ofNode {n : Node} (h : IsName n.id) (hlines : ∀ line ∈ shown n, OneLine line) :
    OneLine (Statement.ofNode n).render := by
  have hid : OneLine ('\t' :: identifier n.id) := by
    rw [identifier_eq_label h]
    exact oneLine_cons.mpr ⟨by decide, oneLine_label h.oneLine⟩
  have hattributes : OneLine (attributeList (some (escapeLines (shown n))) []) :=
    oneLine_attributeList (by simpa using oneLine_escapeLines hlines) (by simp)
  exact oneLine_append.mpr ⟨hid, oneLine_cons.mpr ⟨by decide, hattributes⟩⟩

theorem oneLine_ofLink {l : Link} (hsource : IsName l.source) (htarget : IsName l.target)
    (hlabel : OneLine l.label) : OneLine (Statement.ofLink l).render := by
  have hrelation : ∀ a ∈ edgeAttributes l.relation, OneLine a.1 ∧ OneLine a.2 := by
    cases l.relation <;> decide
  have hlines : ∀ t ∈ (labelLines? l).map escapeLines, OneLine t := by
    intro t ht
    obtain ⟨lines, hlines, rfl⟩ := Option.map_eq_some_iff.mp ht
    unfold labelLines? at hlines
    split at hlines
    · contradiction
    · obtain rfl := Option.some.inj hlines
      exact oneLine_escapeLines (by simpa using hlabel)
  have hends : OneLine ('\t' :: endpoint l.source ++ " -> ".toList ++ endpoint l.target) := by
    rw [endpoint_eq_label hsource, endpoint_eq_label htarget]
    exact oneLine_append.mpr ⟨oneLine_append.mpr
      ⟨oneLine_cons.mpr ⟨by decide, oneLine_label hsource.oneLine⟩, by decide⟩,
        oneLine_label htarget.oneLine⟩
  exact oneLine_append.mpr
    ⟨hends, oneLine_cons.mpr ⟨by decide, oneLine_attributeList hlines hrelation⟩⟩

/-- The text is one line and is read as the statement, whatever follows
it. -/
structure States (line : Text) (m : Meaning) : Prop where
  oneLine : OneLine line
  tokens : ∃ ks, Lexes line ks ∧ ∀ more, statement? (ks ++ more) = some (m, more)

theorem states_ofNode {n : Node} (h : IsName n.id) (hlines : ∀ line ∈ shown n, OneLine line) :
    States (Statement.ofNode n).render (nodeMeaning n) := by
  have hnone : ∀ a ∈ ([] : List (Text × Text)), ReadsAttribute (a.1 ++ '=' :: a.2) a := by simp
  obtain ⟨ks, hks, hattributes⟩ := exists_lexes_attributeList (some (shown n)) hnone
  have hline : (Statement.ofNode n).render =
      '\t' :: (label n.id ++ ' ' :: attributeList (some (escapeLines (shown n))) []) := by
    rw [Statement.ofNode, Statement.render, identifier_eq_label h]
    rfl
  refine ⟨oneLine_ofNode h hlines, .id n.id :: .mark '[' :: ks, ?_, fun more => ?_⟩
  · rw [hline]
    exact ((lexes_label_of_isName h).append_space hks).space_cons rfl
  · show (attributes? (ks ++ more)).map (fun s => (Meaning.node n.id s.1, s.2)) = _
    rw [hattributes]
    rfl

theorem states_ofLink {l : Link} (hsource : IsName l.source) (htarget : IsName l.target)
    (honeLine : OneLine l.label) : States (Statement.ofLink l).render (linkMeaning l) := by
  obtain ⟨ks, hks, hattributes⟩ :=
    exists_lexes_attributeList (labelLines? l) readsAttribute_of_mem_edgeAttributes
  have hline : (Statement.ofLink l).render =
      '\t' :: (label l.source ++ ' ' :: ("->".toList ++ ' ' :: (label l.target ++ ' ' ::
        attributeList ((labelLines? l).map escapeLines) (edgeAttributes l.relation)))) := by
    rw [Statement.ofLink, Statement.render, endpoint_eq_label hsource, endpoint_eq_label htarget]
    simp
  have hlabel : ((labelLines? l).map fun lines => ("label".toList, ['\n'].intercalate lines)).toList =
      if l.label = [] then [] else [("label".toList, l.label)] := by
    unfold labelLines?
    split
    · rfl
    · simp
  refine ⟨oneLine_ofLink hsource htarget honeLine,
    .id l.source :: .arrow :: .id l.target :: .mark '[' :: ks, ?_, fun more => ?_⟩
  · rw [hline]
    exact ((lexes_label_of_isName hsource).append_space
      (lexes_arrow.append_space ((lexes_label_of_isName htarget).append_space hks))).space_cons rfl
  · show (attributes? (ks ++ more)).map (fun s => (Meaning.edge l.source l.target s.1, s.2)) = _
    rw [hattributes, hlabel]
    rfl

theorem states_header (d : Diagram) (rank : Rank) :
    States (Digraph.ofDiagram d rank).header (.opening defaultName) := by
  have hkeyword : Lexes "digraph".toList [.keyword .digraph] := lexes_of_isName (by decide)
  have hname : Lexes ['G'] [.id ['G']] := IsPlain.lexes (by decide)
  have hbrace : Lexes ['\x7b'] [.mark '\x7b'] := lexes_nil.mark_cons (by decide)
  have honeLine : OneLine (Digraph.ofDiagram d rank).header := by
    show OneLine "digraph G \x7b".toList
    decide
  exact ⟨honeLine, _, hkeyword.append_space (hname.append_space hbrace), fun _ => rfl⟩

theorem states_rank (rank : Rank) :
    States ("\trankdir=".toList ++ rank.name) (.setting "rankdir".toList rank.name) := by
  have hname : Lexes "rankdir".toList [.id "rankdir".toList] := IsPlain.lexes (by decide)
  have hrank : IsPlain rank.name := by cases rank <;> decide
  have honeLine : OneLine ("\trankdir=".toList ++ rank.name) := by cases rank <;> decide
  exact ⟨honeLine, _, (hname.append (hrank.lexes.mark_cons (by decide))
    (stops_cons (by decide) rank.name)).space_cons rfl, fun _ => rfl⟩

theorem states_nodeDefaults :
    States "\tnode [shape=box]".toList (.nodeDefaults [("shape".toList, "box".toList)]) := by
  have hkeyword : Lexes "node".toList [.keyword .node] := lexes_of_isName (by decide)
  have hshape : ∀ a ∈ [("shape".toList, "box".toList)], ReadsAttribute (a.1 ++ '=' :: a.2) a := by
    intro a ha
    obtain rfl := List.mem_singleton.mp ha
    exact readsAttribute_of_isPlain (by decide) (by decide) (by decide)
  obtain ⟨ks, hks, hattributes⟩ := exists_lexes_attributeList none hshape
  refine ⟨by decide, _, (hkeyword.append_space hks).space_cons rfl, fun more => ?_⟩
  show (attributes? (ks ++ more)).map (fun s => (Meaning.nodeDefaults s.1, s.2)) = _
  rw [hattributes]
  rfl

theorem states_closing : States "\x7d".toList .closing :=
  ⟨by decide, _, lexes_nil.mark_cons (by decide), fun _ => rfl⟩

/-- Statements are read one after the other. -/
theorem scan?_statement?_append {ks : List Token} {m : Meaning}
    (h : ∀ more, statement? (ks ++ more) = some (m, more)) (more : List Token) :
    scan? statement? (ks ++ more) = (scan? statement? more).map (m :: ·) := by
  have hne : ks ≠ [] := by
    rintro rfl
    exact Option.some_ne_none _ (h []).symm
  exact scan?_append hne (h more)

theorem States.readText?_eq {line : Text} {m : Meaning} (h : States line m) :
    readText? line = some [m] := by
  obtain ⟨ks, hks, hstatement⟩ := h.tokens
  rw [hks.readText?_eq, ← List.append_nil ks, scan?_statement?_append hstatement]
  rfl

/-- A text of lines is read line by line. -/
theorem readText?_unlines {lines : List Text} {ms : List Meaning}
    (h : List.Forall₂ States lines ms) : readText? (Mermaid.unlines lines) = some ms := by
  have htokens : ∃ ks, Lexes (Mermaid.unlines lines) ks ∧ scan? statement? ks = some ms := by
    induction h with
    | nil => exact ⟨[], lexes_nil, rfl⟩
    | @cons line m lines ms hline _ ih =>
      obtain ⟨ks, hks, hstatement⟩ := hline.tokens
      obtain ⟨ls, hls, hrest⟩ := ih
      refine ⟨ks ++ ls, ?_, ?_⟩
      · have hcons : Mermaid.unlines (line :: lines) = line ++ '\n' :: Mermaid.unlines lines := by
          simp [Mermaid.unlines]
        rw [hcons]
        exact hks.append (hls.space_cons rfl) (stops_cons (by decide) _)
      · rw [scan?_statement?_append hstatement, hrest]
        rfl
  obtain ⟨ks, hks, hread⟩ := htokens
  rw [hks.readText?_eq, hread]

example : readText? "digraph G \x7b\n\t1 -> \"node\" [label=\"\\\"b\\\"\\n\\\\\"]\n\x7d\n".toList =
    some [.opening "G".toList,
      .edge "1".toList "node".toList [("label".toList, "\"b\"\n\\".toList)], .closing] := by
  decide

/-! ## §5 Diagrams -/

/-- The diagram has names for identifiers, and its texts stay in their
lines. -/
structure Drawable (d : Diagram) : Prop where
  name : ∀ n ∈ d.nodes, IsName n.id
  shown : ∀ n ∈ d.nodes, ∀ line ∈ shown n, OneLine line
  ends : ∀ l ∈ d.links, IsName l.source ∧ IsName l.target
  label : ∀ l ∈ d.links, OneLine l.label

/-- The lines of a drawable diagram are the statements of its drawing. -/
theorem states_lines {d : Diagram} (h : Drawable d) (rank : Rank) :
    List.Forall₂ States (Digraph.ofDiagram d rank).lines (drawing d rank) := by
  have hnodes : List.Forall₂ States ((d.nodes.map Statement.ofNode).map Statement.render)
      (d.nodes.map nodeMeaning) := by
    rw [List.map_map, List.forall₂_map_left_iff, List.forall₂_map_right_iff]
    exact List.forall₂_same.mpr fun n hn => states_ofNode (h.name n hn) (h.shown n hn)
  have hlinks : List.Forall₂ States ((d.links.map Statement.ofLink).map Statement.render)
      (d.links.map linkMeaning) := by
    rw [List.map_map, List.forall₂_map_left_iff, List.forall₂_map_right_iff]
    exact List.forall₂_same.mpr fun l hl =>
      states_ofLink (h.ends l hl).1 (h.ends l hl).2 (h.label l hl)
  have hlines : (Digraph.ofDiagram d rank).lines = (Digraph.ofDiagram d rank).header ::
      ("\trankdir=".toList ++ rank.name) :: "\tnode [shape=box]".toList ::
      ((d.nodes.map Statement.ofNode).map Statement.render ++
        (d.links.map Statement.ofLink).map Statement.render ++ ["\x7d".toList]) := by
    rw [← List.map_append]
    rfl
  rw [hlines]
  refine .cons (states_header d rank) (.cons (states_rank rank) (.cons states_nodeDefaults ?_))
  exact List.rel_append (List.rel_append hnodes hlinks) (.cons states_closing .nil)

theorem drawable_finish {d : Draft} {onNode : Node → Prop} {onLink : Link → Prop}
    {onUnread : Text → Prop} (h : d.Sound onNode onLink onUnread)
    (hnode : ∀ n, onNode n → Mermaid.NamedNode n ∧ (∀ m ∈ n.members, OneLine m) ∧
      ∀ s ∈ n.stereotype, OneLine s)
    (hlink : ∀ l, onLink l → OneLine l.label) (dialect : Option Dialect)
    (orientation : Option Text) : Drawable (d.finish dialect orientation) := by
  have hname : ∀ n ∈ d.nodes, IsName n.id := fun n hn => (hnode n (h.node n hn)).1.name
  have hend : ∀ id ∈ d.ids, IsName id := by
    intro id hid
    obtain ⟨n, hn, rfl⟩ := List.mem_map.mp hid
    exact hname n hn
  refine ⟨hname, fun n hn line hline => ?_, fun l hl => ?_, fun l hl => hlink l (h.link l hl)⟩
  · obtain ⟨hnamed, hmembers, hstereotype⟩ := hnode n (h.node n hn)
    rcases List.mem_append.mp hline with hline | hline
    · exact oneLine_of_mem_stereotypeLines hstereotype hline
    · rcases List.mem_cons.mp hline with rfl | hline
      · exact hnamed.squeezed_caption.oneLine
      · exact hmembers line hline
  · exact ⟨hend _ (h.ends l hl).1, hend _ (h.ends l hl).2⟩

/-- Every text is read into a drawable diagram. -/
theorem drawable_read (code : Text) : Drawable (Mermaid.read code) := by
  unfold Mermaid.read
  dsimp only
  cases Mermaid.firstStatement? (trimmedLines code) with
  | none => constructor <;> simp
  | some first =>
    dsimp only
    cases Mermaid.flowDirection? first with
    | none =>
      rw [Mermaid.ClassDiagram.readLines_eq_finish]
      exact drawable_finish (Mermaid.ClassDiagram.sound_readLines code)
        (fun n hn => ⟨hn.toNamedNode, fun m hm => (hn.members m hm).oneLine, hn.stereotype⟩)
        (fun l hl => hl.oneLine) _ _
    | some direction =>
      exact drawable_finish (Mermaid.Flowchart.sound_readLines code)
        (fun n hn => ⟨hn.toNamedNode, by simp [hn.members], by simp [hn.stereotype]⟩)
        (fun l hl => hl.label.oneLine) _ _

/-- Every text is read into a diagram whose DOT text means the diagram.
The writer succeeds; its text is read as the statements of `drawing`, no
more and no less; each of them is one of its lines; and the attributes
of each relation stand in the order of their names, with no label among
them. -/
theorem write_means_drawing (code orientation : Text) :
    ∃ lines, write (Document.ofDiagram (Mermaid.read code)) orientation =
        .ok (Mermaid.unlines lines) ∧
      readText? (Mermaid.unlines lines) =
        some (drawing (Mermaid.read code) (Rank.ofOrientation orientation)) ∧
      List.Forall₂ (fun line m => OneLine line ∧ readText? line = some [m]) lines
        (drawing (Mermaid.read code) (Rank.ofOrientation orientation)) ∧
      ∀ r, ((edgeAttributes r).map Prod.fst).Pairwise (· < ·) ∧
        "label".toList ∉ (edgeAttributes r).map Prod.fst := by
  have hdrawable := drawable_read code
  have hwrite := write_ofDiagram (fun n hn => (hdrawable.name n hn).ne_nil)
    (fun l hl => ⟨(hdrawable.ends l hl).1.ne_nil, (hdrawable.ends l hl).2.ne_nil⟩) orientation
  have hlines := states_lines hdrawable (Rank.ofOrientation orientation)
  refine ⟨_, hwrite, readText?_unlines hlines,
    hlines.imp fun _ _ h => ⟨h.oneLine, h.readText?_eq⟩, fun r => ?_⟩
  cases r <;> decide

end DiagramGraph.Dot
