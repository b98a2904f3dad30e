/-
DiagramGraph.Proofs.LabelContainment — labels and the skeleton of a
printed graph.

The skeleton of a graph is what it says apart from labels: the
identifiers of its nodes in order, and for each link its two ends and its
relation. A graph without bodies is written and read again, and the
question is for which labels the skeleton comes back.

  §1 Graphs          — `Drawable`: the names and relations that a dialect
                       can express; nothing is asked of the labels.
  §2 Documents       — a document whose labels are any strings, and what
                       is drawn of it.
  §3 Class diagrams  — a node line declares its node whatever the label;
                       a link label must stay in its line.
  §4 Flowcharts      — the skeleton comes back exactly if no node line
                       reads as an edge (`skeleton_read_flowLines_iff`).
                       Link labels stand between bars and do no harm.
  §5 Containment     — `skeleton_read_write`, for labels that are
                       `Contained`, in both dialects.

Neither dialect replaces a carriage return, a class diagram prints link
labels as they are, and a bracket in the label of a box can end it. Each
of these lets a label change the graph (`skeleton_changed_by_labels`).
-/
import DiagramGraph.Proofs.ClassRoundTrip
import DiagramGraph.Proofs.FlowRoundTrip

namespace DiagramGraph.Mermaid

open Text Label Json Document

/-! ## §1 Graphs -/

/-- What a graph says apart from labels and bodies. -/
def skeleton (d : Diagram) : List Text × List (Text × Text × Relation) :=
  (d.nodes.map Node.id, d.links.map fun l => (l.source, l.target, l.relation))

/-- The names that a dialect gives a meaning of its own at the start of a line. -/
def Reserved : Dialect → Text → Prop
  | .classDiagram, id => id = "class".toList ∨ "note".toList <+: id ∨ "namespace".toList <+: id
  | .flowchart, id => id = "end".toList ∨ id ∈ directiveWords

instance : (dialect : Dialect) → (id : Text) → Decidable (Reserved dialect id)
  | .classDiagram, _ => inferInstanceAs (Decidable (_ ∨ _ ∨ _))
  | .flowchart, id =>
    decidable_of_iff (id = "end".toList ∨ directiveWords.contains id = true) (by simp [Reserved])

/-- A graph whose names and relations the dialect can express. -/
@[mk_iff] structure Drawable (dialect : Dialect) (nodes : List Node) (links : List Link) : Prop where
  nodup : (nodes.map Node.id).Nodup
  name : ∀ n ∈ nodes, IsName n.id ∧ ¬ Reserved dialect n.id
  ends : ∀ l ∈ links, l.source ∈ nodes.map Node.id ∧ l.target ∈ nodes.map Node.id ∧
    l.source ≠ l.target
  relation : dialect = .flowchart → ∀ l ∈ links, isClassRelation l.relation = false

instance (dialect : Dialect) (nodes : List Node) (links : List Link) :
    Decidable (Drawable dialect nodes links) :=
  decidable_of_iff ((nodes.map Node.id).Nodup ∧
      (∀ n ∈ nodes, IsName n.id ∧ ¬ Reserved dialect n.id) ∧
      (∀ l ∈ links, (nodes.map Node.id).contains l.source = true ∧
        (nodes.map Node.id).contains l.target = true ∧ l.source ≠ l.target) ∧
      (dialect = .flowchart → ∀ l ∈ links, isClassRelation l.relation = false))
    (by simp only [drawable_iff, List.contains_iff_mem])

section Drawable

variable {dialect : Dialect} {nodes : List Node} {links : List Link}

theorem Drawable.of_mem (h : Drawable dialect nodes links) {id : Text}
    (hid : id ∈ nodes.map Node.id) : IsName id ∧ ¬ Reserved dialect id := by
  obtain ⟨n, hn, rfl⟩ := List.mem_map.mp hid
  exact h.name n hn

theorem Drawable.isName (h : Drawable dialect nodes links) {l : Link} (hl : l ∈ links) :
    IsName l.source ∧ IsName l.target :=
  ⟨(h.of_mem (h.ends l hl).1).1, (h.of_mem (h.ends l hl).2.1).1⟩

end Drawable

/-! ## §2 Documents -/

/-- The record of a node without a body. Its label is any string, the
empty one included. -/
structure DescribesBare (v : Value) (n : Node) : Prop where
  id : field v "id".toList = .ok (.str n.id)
  label : field v "label".toList = .ok (.str n.label)
  members : ∃ m, field v "members".toList = .ok m ∧ m.isTruthy = false
  stereotype : ∃ s, field v "stereotype".toList = .ok s ∧ s.isTruthy = false

/-- The document describes a graph of nodes without bodies. -/
structure DescribesBodiless (v : Value) (nodes : List Node) (links : List Link) : Prop where
  nodes : ∃ vs, listField v "nodes".toList = .ok vs ∧ List.Forall₂ DescribesBare vs nodes
  links : ∃ vs, listField v "links".toList = .ok vs ∧
    List.Forall₂ DescribesLink vs (links.map stated)

section Document

variable {v : Value} {n : Node}

theorem ownLabel_of_bare (h : DescribesBare v n) (hid : n.id ≠ []) :
    ownLabel v (.str n.id) = .ok (drawnLabel n) := by
  by_cases hempty : n.label = []
  · have hcaption : n.caption = n.id := by simp [Node.caption, hempty]
    unfold ownLabel
    rw [h.label, drawnLabel, if_pos hcaption, hempty]
    rfl
  · -- the record shows the caption, so the general fact applies
    have hcaption : n.caption = n.label := by simp [Node.caption, hempty]
    have hrecord : DescribesNode (ofNode n) n := describesNode_ofNode n
    have hsame : ownLabel v (.str n.id) = ownLabel (ofNode n) (.str n.id) := by
      unfold ownLabel
      rw [h.label, hrecord.label, hcaption]
    rw [hsame, ownLabel_eq hrecord hid]

theorem flowBox?_of_bare (h : DescribesBare v n) (hid : n.id ≠ []) :
    flowBox? v = .ok (some (flowBox n)) := by
  unfold flowBox?
  simp only [h.id, bind, Except.bind, pure, Except.pure, isTruthy_str hid, ownLabel_of_bare h hid,
    if_true, flowBox, display]

/-- Without a body, a class is drawn as in a flowchart. -/
theorem classBox?_of_bare (h : DescribesBare v n) (hid : n.id ≠ []) :
    classBox? v = .ok (some (flowBox n)) := by
  obtain ⟨m, hm, hmembers⟩ := h.members
  obtain ⟨s, hs, hstereotype⟩ := h.stereotype
  unfold classBox?
  simp only [h.id, hm, hs, bind, Except.bind, pure, Except.pure, isTruthy_str hid,
    ownLabel_of_bare h hid, hmembers, hstereotype, if_true, Bool.false_eq_true, if_false, flowBox,
    display, List.map_nil]

end Document

section Lines

variable {nodes : List Node} {links : List Link}

/-! ## §3 Class diagrams -/

theorem classLines_flowBox (n : Node) : (flowBox n).classLines = ["  ".toList ++ headerOf n] := by
  simp [Box.classLines, flowBox, headerOf_eq]

/-- A drawn label stays in its line, unless a carriage return stands in it. -/
theorem oneLine_of_mem_drawnLabel {n : Node} (hl : '\r' ∉ n.label) :
    ∀ t ∈ drawnLabel n, OneLine t := by
  intro t ht
  unfold drawnLabel at ht
  split at ht
  · simp at ht
  · next hne =>
    obtain rfl := Option.mem_some.mp ht
    rw [Node.caption_eq_label hne, oneLine_quotable_iff]
    exact hl

/-- The header of a class declares it, whatever the label. -/
theorem step_headerOf_bare {n : Node} (hid : IsName n.id) (d : Draft) :
    ClassDiagram.Machine.step ⟨.top, d⟩ (headerOf n) =
      ⟨.top, d.mention n.id (clean ((drawnLabel n).getD []))⟩ := by
  have hdecl := declaration?_headerOf hid .nil
  have hgrouping := isGrouping_headerOf n []
  rw [List.append_nil] at hdecl hgrouping
  rw [ClassDiagram.run_top_of_declaration? (by simp [hgrouping]) hdecl]
  rfl

/-- Trimming a line that relates two names trims what stands on the right. -/
theorem trim_joinLine {source : Text} (hs : IsName source) (r : Relation) {c : Char}
    (hc : isBlank c = false) (rest : Text) :
    trim (joinLine source r (c :: rest)) = joinLine source r (trim (c :: rest)) := by
  obtain ⟨d, u, rfl, hd⟩ := hs.exists_cons
  have hline (t : Text) : joinLine (d :: u) r t =
      (d :: u ++ ' ' :: (classSign (some r) ++ [' '])) ++ t := by simp [joinLine]
  have hrest : trim (c :: rest) = c :: trimEnd rest := by
    rw [trim, trimStart_eq_self (by simp [hc]), trimEnd_cons hc]
  rw [hrest, hline, hline, trim,
    trimStart_eq_self (by simp [isBlank_eq_false_of_isWord hd]), trimEnd_append, trimEnd_cons hc]
  rfl

/-- Only a space can follow a target. -/
theorem trim_colonLabel {target : Text} (h : IsName target) (label : Text) :
    ∃ tail, trim (target ++ colonLabel label) = target ++ tail ∧ ∀ c ∈ tail.head?, c = ' ' := by
  refine ⟨trimEnd (colonLabel label), ?_, ?_⟩
  · obtain ⟨d, u, rfl, hd⟩ := h.exists_cons
    have hself : trimEnd (d :: u) = d :: u :=
      trimEnd_eq_self fun c hc => h.isBlank c (List.mem_of_mem_getLast? hc)
    rw [trim, trimStart_eq_self (by simp [isBlank_eq_false_of_isWord hd]), trimEnd_append]
    split
    · next hnil => rw [hself, List.isEmpty_iff.mp hnil, List.append_nil]
    · rfl
  · unfold colonLabel
    split
    · simp
    · have hcolon : trimEnd (" : ".toList ++ label) = ' ' :: ':' :: trimEnd (' ' :: label) := by
        rw [show " : ".toList ++ label = [' '] ++ ':' :: (' ' :: label) from rfl, trimEnd_append,
          trimEnd_cons (by decide)]
        rfl
      rw [hcolon]
      simp

/-- The target is found, whatever the label after it. -/
theorem fst_target {target tail : Text} (h : IsName target) (htail : ∀ c ∈ tail.head?, c = ' ') :
    (Mermaid.target (target ++ tail)).1 = target := by
  have hword : ∀ c ∈ tail.head?, isWord c = false := by
    intro c hc
    rw [htail c hc]
    decide
  unfold Mermaid.target
  cases hl : labelled? (target ++ tail) with
  | none =>
    -- the target is then the first word, which the space ends
    obtain ⟨d, u, rfl, hd⟩ := h.exists_cons
    have hall : ∀ c ∈ d :: u, (!isBlank c) = true := fun c hc => by simp [h.isBlank c hc]
    rw [Option.getD_none, firstWord, trimStart_eq_self (by simp [isBlank_eq_false_of_isWord hd]),
      List.takeWhile_append_of_pos hall]
    cases tail with
    | nil => simp
    | cons c rest =>
      obtain rfl := htail c (by simp)
      have hblank : isBlank ' ' = true := by decide
      simp [hblank]
  | some found =>
    unfold labelled? at hl
    rw [h.takeWhile_append hword] at hl
    split at hl
    · dsimp only at hl
      split at hl
      · simp at hl
      · obtain rfl := Option.some.inj hl
        rfl
    · simp at hl

/-- The line of a link as the reader gets it. -/
def trimmedLine (l : Link) : Text :=
  joinLine l.source l.relation (trim (l.target ++ colonLabel l.label))

/-- The link that is read from its line. -/
def reread (l : Link) : Link :=
  { l with label := (Mermaid.target (trim (l.target ++ colonLabel l.label))).2 }

theorem trim_linkLine {l : Link} (hs : IsName l.source) (ht : IsName l.target) :
    trim ("  ".toList ++ linkLine l) = trimmedLine l := by
  obtain ⟨c, u, htarget, hc⟩ := ht.exists_cons
  rw [trim_append (by decide), linkLine, trimmedLine, htarget, List.cons_append,
    trim_joinLine hs l.relation (isBlank_eq_false_of_isWord hc)]

theorem step_trimmedLine {l : Link} (hs : IsName l.source) (ht : IsName l.target)
    (hreserved : ¬ Reserved .classDiagram l.source) (d : Draft) :
    ClassDiagram.Machine.step ⟨.top, d⟩ (trimmedLine l) = ⟨.top, d.connect (reread l) false⟩ := by
  obtain ⟨tail, htrim, htail⟩ := trim_colonLabel ht l.label
  have htwice : trim (trim (l.target ++ colonLabel l.label)) = trim (l.target ++ colonLabel l.label) :=
    trimmed_trim _
  have htarget : (Mermaid.target (trim (l.target ++ colonLabel l.label))).1 = l.target := by
    rw [htrim, fst_target ht htail]
  rw [trimmedLine, step_joinLine hs (fun h => hreserved (.inr (.inr h)))
    (fun h => hreserved (.inl h.2)) (by rw [htwice, htarget]; exact ht), htwice, htarget]
  rfl

/-- The machine along the lines of a class diagram without bodies. -/
theorem run_trimmedLines (h : Drawable .classDiagram nodes links) :
    ClassDiagram.Machine.run {} (nodes.map headerOf ++ links.map trimmedLine) =
      ⟨.top, { nodes := nodes.map fun n => ⟨n.id, clean ((drawnLabel n).getD []), [], none⟩,
               links := links.map reread }⟩ := by
  have hnodes : ClassDiagram.Machine.run {} (nodes.map headerOf) =
      ⟨.top, { nodes := nodes.map fun n => ⟨n.id, clean ((drawnLabel n).getD []), [], none⟩ }⟩ := by
    rw [ClassDiagram.Machine.run_map fun n hn d => step_headerOf_bare (h.name n hn).1 d,
      Draft.foldl_mention Node.id (fun n => clean ((drawnLabel n).getD [])) h.nodup
        (by simp [Draft.ids])]
    rfl
  rw [ClassDiagram.Machine.run_append, hnodes, ClassDiagram.Machine.run_map fun l hl d =>
    step_trimmedLine (h.isName hl).1 (h.isName hl).2 (h.of_mem (h.ends l hl).1).2 d]
  have hkept : (links.map reread).filter (fun l => !Draft.refuses false l) = links.map reread := by
    refine List.filter_eq_self.mpr fun k hk => ?_
    obtain ⟨l, hl, rfl⟩ := List.mem_map.mp hk
    simp [Draft.refuses, reread, (h.ends l hl).2.2]
  have hfold (d : Draft) : links.foldl (fun e l => e.connect (reread l) false) d =
      (links.map reread).foldl (fun e l => e.connect l false) d := by
    rw [List.foldl_map]
  rw [hfold, Draft.foldl_connect, hkept]
  · rfl
  · intro k hk
    obtain ⟨l, hl, rfl⟩ := List.mem_map.mp hk
    have hends := h.ends l hl
    simpa [Draft.ids, reread] using And.intro hends.1 hends.2.1

/-- The printed lines of a class diagram without bodies, indented. -/
theorem bodilessLines_eq (nodes : List Node) (links : List Link) :
    (nodes.map flowBox).flatMap Box.classLines ++
        ((links.map stated).map (arrow classSign id)).map Arrow.classLine =
      (nodes.map headerOf ++ links.map linkLine).map ("  ".toList ++ ·) := by
  simp only [List.flatMap_map, classLines_flowBox, ← List.map_eq_flatMap, List.map_map,
    List.map_append]
  congr 1
  exact List.map_congr_left fun l _ => classLine_arrow l

theorem map_trim_bodilessLines (h : Drawable .classDiagram nodes links) :
    ((nodes.map headerOf ++ links.map linkLine).map ("  ".toList ++ ·)).map trim =
      nodes.map headerOf ++ links.map trimmedLine := by
  rw [List.map_append, List.map_append]
  congr 1
  · refine map_trim_map_append (by decide) fun line hline => ?_
    obtain ⟨n, hn, rfl⟩ := List.mem_map.mp hline
    simpa using trimmed_headerOf (h.name n hn).1 .nil
  · simp only [List.map_map]
    exact List.map_congr_left fun l hl => trim_linkLine (h.isName hl).1 (h.isName hl).2

theorem oneLine_bodilessLines (h : Drawable .classDiagram nodes links)
    (hn : ∀ n ∈ nodes, '\r' ∉ n.label) (hl : ∀ l ∈ links, OneLine l.label) :
    ∀ line ∈ (nodes.map headerOf ++ links.map linkLine).map ("  ".toList ++ ·), OneLine line := by
  intro line hline
  obtain ⟨body, hbody, rfl⟩ := List.mem_map.mp hline
  refine oneLine_append.mpr ⟨by decide, ?_⟩
  rcases List.mem_append.mp hbody with hbody | hbody
  · obtain ⟨n, hmem, rfl⟩ := List.mem_map.mp hbody
    exact oneLine_headerOf (h.name n hmem).1 (oneLine_of_mem_drawnLabel (hn n hmem))
  · obtain ⟨l, hmem, rfl⟩ := List.mem_map.mp hbody
    exact oneLine_linkLine (h.isName hmem).1 (h.isName hmem).2 (hl l hmem)

theorem survives_bodilessLines (h : Drawable .classDiagram nodes links) :
    ∀ line ∈ nodes.map headerOf ++ links.map trimmedLine, ClassDiagram.survives line = true := by
  intro line hline
  rcases List.mem_append.mp hline with hline | hline
  · obtain ⟨n, -, rfl⟩ := List.mem_map.mp hline
    simpa using survives_headerOf n []
  · obtain ⟨l, hl, rfl⟩ := List.mem_map.mp hline
    exact survives_joinLine (h.isName hl).1
      (fun hnote => (h.of_mem (h.ends l hl).1).2 (.inr (.inl hnote))) _ _

/-- In a class diagram the skeleton comes back for all node labels
without carriage returns and all link labels that stay in their line. -/
theorem skeleton_read_classLines (h : Drawable .classDiagram nodes links)
    (hn : ∀ n ∈ nodes, '\r' ∉ n.label) (hl : ∀ l ∈ links, OneLine l.label) :
    skeleton (read (unlines ("classDiagram".toList ::
        ((nodes.map flowBox).flatMap Box.classLines ++
          ((links.map stated).map (arrow classSign id)).map Arrow.classLine)))) =
      skeleton { nodes, links } := by
  have htrim := map_trim_bodilessLines h
  rw [bodilessLines_eq, read_classText (oneLine_bodilessLines h hn hl)
    (by rw [htrim]; exact survives_bodilessLines h), htrim, run_trimmedLines h]
  simp [skeleton, Draft.finish, reread]

/-! ## §4 Flowcharts -/

/-- Every line that reads as an edge adds one link, and no other line does. -/
theorem length_links_readStatement (d : Draft) (line : Text) :
    (Flowchart.readStatement d line).links.length =
      d.links.length + if (Edge.ofLine? line).isSome then 1 else 0 := by
  unfold Flowchart.readStatement
  split
  · next hsilent =>
    have hnone : Edge.ofLine? line = none := by
      simp only [Flowchart.isGrouping, Bool.or_eq_true, List.isEmpty_iff, decide_eq_true_eq] at hsilent
      rcases hsilent with rfl | rfl | rfl
      · rfl
      · exact ofLine?_name (by decide)
      · exact ofLine?_name (by decide)
    simp [hnone]
  · cases Edge.ofLine? line with
    | some e =>
      simp [Flowchart.addEdge, Flowchart.mentionToken, Draft.connect, Draft.refuses]
    | none =>
      dsimp only
      split
      · simp [Flowchart.mentionToken]
      · simp [Draft.setAside]

theorem length_links_foldl : ∀ (lines : List Text) (d : Draft),
    (lines.foldl Flowchart.readStatement d).links.length =
      d.links.length + lines.countP fun line => (Edge.ofLine? line).isSome
  | [], d => by simp
  | line :: lines, d => by
      rw [List.foldl_cons, length_links_foldl lines, length_links_readStatement, List.countP_cons]
      omega

/-- The node as its line shows it. -/
def shown (n : Node) : Node := { n with label := quotable n.caption }

/-- Quoting makes no text a name that was none. -/
theorem quotable_eq_iff {t id : Text} (hid : IsName id) : quotable t = id ↔ t = id := by
  constructor
  · intro h
    have hquote : '"' ∉ t := fun hm => hid.not_mem (c := '\'') (by decide) (by
      rw [← h]
      simp [quotable, mem_replaceChar, hm])
    have hline : '\n' ∉ t := fun hm => hid.not_mem (c := ' ') (by decide) (by
      rw [← h]
      simp [quotable, mem_replaceChar, hm])
    rw [← h, quotable, replaceChar_eq_self hquote, replaceChar_eq_self hline]
  · rintro rfl
    rw [quotable, replaceChar_eq_self (hid.not_mem (by decide)),
      replaceChar_eq_self (hid.not_mem (by decide))]

theorem caption_shown {n : Node} (hid : n.id ≠ []) : (shown n).caption = quotable n.caption := by
  have hne : quotable n.caption ≠ [] := by
    simpa [quotable, replaceChar] using Node.caption_ne_nil hid
  exact if_neg (by simpa [shown] using hne)

theorem flowLine_shown {n : Node} (hid : IsName n.id) :
    (flowBox n).flowLine = "  ".toList ++ nodeLine (shown n) := by
  have hline : (flowBox n).flowLine = "  ".toList ++ n.id ++ bracketed (drawnLabel n) := rfl
  have hshown : (shown n).id = n.id := rfl
  rw [hline, drawnLabel, nodeLine, caption_shown hid.ne_nil, hshown]
  by_cases he : n.caption = n.id
  · rw [if_pos he, if_pos ((quotable_eq_iff hid).mpr he)]
    simp [bracketed]
  · rw [if_neg he, if_neg fun h => he ((quotable_eq_iff hid).mp h)]
    simp [bracketed, boxToken, boxShape, quotedText]

/-- The link as its line shows it. -/
def shownLink (l : Link) : StatedLink := { stated l with label := barred l.label }

/-- The line of a node speaks of that node, whatever the label, unless it
reads as an edge. -/
theorem readStatement_shown {n : Node} (hid : IsName n.id) (hreserved : ¬ Reserved .flowchart n.id)
    (hedge : Edge.ofLine? (nodeLine (shown n)) = none) (d : Draft) :
    Flowchart.readStatement d (nodeLine (shown n)) =
      d.mention n.id (tokenParts (nodeLine (shown n))).2 := by
  have hgroup : (shown n).caption = (shown n).id → n.id ≠ "end".toList ∧ n.id ≠ "subgraph".toList :=
    fun _ => ⟨fun he => hreserved (.inl he), fun he => hreserved (.inr (he ▸ by decide))⟩
  have hline : '\n' ∉ (shown n).caption := by
    rw [caption_shown hid.ne_nil]
    simp [quotable, mem_replaceChar]
  have hname : (tokenParts (nodeLine (shown n))).1 = n.id := by
    unfold nodeLine
    split
    · rw [show (shown n).id = n.id from rfl, tokenParts_name hid]
    · rw [show (shown n).id = n.id from rfl, tokenParts_boxToken hid]
  rw [readStatement_nodeLine (n := shown n) hid hgroup hline hedge, Flowchart.mentionToken, hname]

section Flow

variable (h : Drawable .flowchart nodes links)
include h

theorem Drawable.ends_shownLink {l : StatedLink} (hl : l ∈ links.map shownLink) :
    IsName l.source ∧ IsName l.target ∧ '|' ∉ l.label := by
  obtain ⟨k, hk, rfl⟩ := List.mem_map.mp hl
  exact ⟨(h.isName hk).1, (h.isName hk).2, bar_not_mem_barred k.label⟩

theorem flowLines_eq : (nodes.map flowBox).map Box.flowLine ++
      ((links.map stated).map (arrow flowSign barred)).map Arrow.flowLine =
    ((nodes.map shown).map nodeLine ++ (links.map shownLink).map edgeLine).map ("  ".toList ++ ·) := by
  simp only [List.map_map, List.map_append]
  congr 1
  · exact List.map_congr_left fun n hn => flowLine_shown (h.name n hn).1
  · exact List.map_congr_left fun l _ => flowLine_arrow (stated l)

/-- Without carriage returns, the printed lines reach the reader as they are. -/
theorem plain_flowLines (hn : ∀ n ∈ nodes, '\r' ∉ n.label) (hl : ∀ l ∈ links, '\r' ∉ l.label) :
    ∀ line ∈ (nodes.map shown).map nodeLine ++ (links.map shownLink).map edgeLine,
      Plain line ∧ startsWithAny Flowchart.directives line = false := by
  intro line hline
  rcases List.mem_append.mp hline with hline | hline
  · obtain ⟨m, hm, rfl⟩ := List.mem_map.mp hline
    obtain ⟨n, hmem, rfl⟩ := List.mem_map.mp hm
    have hid := (h.name n hmem).1
    have hcaption : '\r' ∉ n.caption := by
      unfold Node.caption
      split
      · exact hid.not_mem (by decide)
      · exact hn n hmem
    refine ⟨plain_nodeLine hid ?_, startsWithAny_nodeLine hid⟩
    rw [caption_shown hid.ne_nil, oneLine_quotable_iff]
    exact hcaption
  · obtain ⟨k, hk, rfl⟩ := List.mem_map.mp hline
    obtain ⟨l, hmem, rfl⟩ := List.mem_map.mp hk
    obtain ⟨hs, ht⟩ := h.isName hmem
    have hdirective : l.source ∉ directiveWords := fun hd =>
      (h.of_mem (h.ends l hmem).1).2 (.inr hd)
    exact ⟨plain_edgeLine hs ht (oneLine_barred_iff.mpr (hl l hmem)),
      startsWithAny_edgeLine hs hdirective⟩

/-- The printed lines of a flowchart are read one by one. -/
theorem read_flowLines (hn : ∀ n ∈ nodes, '\r' ∉ n.label) (hl : ∀ l ∈ links, '\r' ∉ l.label)
    (orientation : Text) :
    read (unlines (("flowchart ".toList ++ (Rank.ofOrientation orientation).name) ::
        ((nodes.map flowBox).map Box.flowLine ++
          ((links.map stated).map (arrow flowSign barred)).map Arrow.flowLine))) =
      (((nodes.map shown).map nodeLine ++ (links.map shownLink).map edgeLine).foldl
        Flowchart.readStatement {}).finish (some .flowchart)
          (some (Rank.ofOrientation orientation).name) := by
  have hplain := plain_flowLines h hn hl
  rw [flowLines_eq h]
  exact read_flowText (fun line hline => (hplain line hline).1)
    (fun line hline => (hplain line hline).2) _

/-- Node lines that are no edges add their nodes, and link lines their links. -/
theorem foldl_shown (hedge : ∀ n ∈ nodes, Edge.ofLine? (nodeLine (shown n)) = none) :
    ((nodes.map shown).map nodeLine ++ (links.map shownLink).map edgeLine).foldl
        Flowchart.readStatement {} =
      { nodes := nodes.map fun n => ⟨n.id, (tokenParts (nodeLine (shown n))).2, [], none⟩,
        links := (links.map shownLink).map cleanedLink } := by
  have hnodes : ((nodes.map shown).map nodeLine).foldl Flowchart.readStatement {} =
      { nodes := nodes.map fun n => ⟨n.id, (tokenParts (nodeLine (shown n))).2, [], none⟩ } := by
    rw [List.foldl_map, List.foldl_map, List.foldl_ext _
      (fun e n => e.mention n.id (tokenParts (nodeLine (shown n))).2) _
      (fun e n hn => readStatement_shown (h.name n hn).1 (h.name n hn).2 (hedge n hn) e),
      Draft.foldl_mention Node.id (fun n => (tokenParts (nodeLine (shown n))).2) h.nodup
        (by simp [Draft.ids])]
    rfl
  rw [List.foldl_append, hnodes, foldl_edgeLines fun l hl => h.ends_shownLink hl]
  · rfl
  · intro k hk
    obtain ⟨l, hl, rfl⟩ := List.mem_map.mp hk
    have hends := h.ends l hl
    simpa [Draft.ids, shownLink, stated] using And.intro hends.1 hends.2.1

/-- The lines of the links all read as edges. -/
theorem countP_edgeLines : ((links.map shownLink).map edgeLine).countP
    (fun line => (Edge.ofLine? line).isSome) = links.length := by
  rw [List.countP_eq_length.mpr]
  · simp
  · intro line hline
    obtain ⟨l, hl, rfl⟩ := List.mem_map.mp hline
    obtain ⟨hs, ht, hbar⟩ := h.ends_shownLink hl
    rw [ofLine?_edgeLine hs ht hbar]
    rfl

/-- In a flowchart without carriage returns in its labels, the skeleton
comes back exactly if no line of a node reads as an edge. -/
theorem skeleton_read_flowLines_iff (hn : ∀ n ∈ nodes, '\r' ∉ n.label)
    (hl : ∀ l ∈ links, '\r' ∉ l.label) (orientation : Text) :
    skeleton (read (unlines (("flowchart ".toList ++ (Rank.ofOrientation orientation).name) ::
        ((nodes.map flowBox).map Box.flowLine ++
          ((links.map stated).map (arrow flowSign barred)).map Arrow.flowLine)))) =
      skeleton { nodes, links } ↔
    ∀ n ∈ nodes, Edge.ofLine? (nodeLine (shown n)) = none := by
  rw [read_flowLines h hn hl]
  constructor
  · -- each link line adds one link, so there is none left for the node lines
    intro hsame
    have hlength : (((nodes.map shown).map nodeLine ++ (links.map shownLink).map edgeLine).foldl
        Flowchart.readStatement {}).links.length = links.length := by
      simpa [skeleton, Draft.finish] using congrArg (fun s => s.2.length) hsame
    rw [length_links_foldl, List.countP_append, countP_edgeLines h] at hlength
    have hzero : ((nodes.map shown).map nodeLine).countP
        (fun line => (Edge.ofLine? line).isSome) = 0 := by
      simpa using hlength
    intro n hmem
    have hnone := List.countP_eq_zero.mp hzero (nodeLine (shown n))
      (List.mem_map_of_mem (List.mem_map_of_mem hmem))
    simpa using hnone
  · intro hedge
    have hkept : ∀ r : Relation, isClassRelation r = false → kept (some r) = r := by
      intro r
      cases r <;> decide
    rw [foldl_shown h hedge]
    simp only [skeleton, Draft.finish, List.map_map, Prod.mk.injEq]
    refine ⟨rfl, List.map_congr_left fun l hmem => ?_⟩
    simp [cleanedLink, keptLink, shownLink, stated, hkept _ (h.relation rfl l hmem)]

end Flow
end Lines

/-! ## §5 Containment -/

/-- The labels stay where the dialect prints them: they hold no line end
that the printer keeps, and none in a box is read as its end and a glyph. -/
def Contained : Dialect → List Node → List Link → Prop
  | .classDiagram, nodes, links =>
    (∀ n ∈ nodes, '\r' ∉ n.label) ∧ ∀ l ∈ links, OneLine l.label
  | .flowchart, nodes, links =>
    (∀ n ∈ nodes, '\r' ∉ n.label ∧ ¬ LeavesBox (quotable n.label)) ∧ ∀ l ∈ links, '\r' ∉ l.label

instance : (dialect : Dialect) → (nodes : List Node) → (links : List Link) →
    Decidable (Contained dialect nodes links)
  | .classDiagram, _, _ => inferInstanceAs (Decidable (_ ∧ _))
  | .flowchart, _, _ => inferInstanceAs (Decidable (_ ∧ _))

/-- A label that stays in its box makes no edge of the line. -/
theorem ofLine?_shown {n : Node} (hid : IsName n.id) (hl : ¬ LeavesBox (quotable n.label)) :
    Edge.ofLine? (nodeLine (shown n)) = none := by
  have hcaption := caption_shown hid.ne_nil
  unfold nodeLine
  split
  · exact ofLine?_name hid
  · next hne =>
    rw [hcaption] at hne ⊢
    rw [Node.caption_eq_label fun he => hne ((quotable_eq_iff hid).mpr he)]
    exact ofLine?_boxToken hid hl

/-- Whatever the labels say, as long as they are contained, a graph that
is written in either dialect is read with the same nodes in the same
order and the same links between them. -/
theorem skeleton_read_write {dialect : Dialect} {document : Value} {nodes : List Node}
    {links : List Link} (hdocument : DescribesBodiless document nodes links)
    (h : Drawable dialect nodes links) (hlabels : Contained dialect nodes links)
    (orientation : Text) :
    ∃ t, write document (some dialect) orientation = .ok t ∧
      skeleton (read t) = skeleton { nodes, links } := by
  obtain ⟨ns, hns, hnodes⟩ := hdocument.nodes
  obtain ⟨ls, hls, hlinks⟩ := hdocument.links
  have hid (n : Node) (hn : n ∈ nodes) : n.id ≠ [] := (h.name n hn).1.ne_nil
  have hends : ∀ k ∈ links.map stated, k.source ≠ [] ∧ k.target ≠ [] := by
    intro k hk
    obtain ⟨l, hl, rfl⟩ := List.mem_map.mp hk
    exact ⟨(h.isName hl).1.ne_nil, (h.isName hl).2.ne_nil⟩
  cases dialect with
  | classDiagram =>
    have hboxes := drawn_eq (f := flowBox) hns hnodes
      fun v n hn hv => classBox?_of_bare hv (hid n hn)
    exact ⟨_, write_of_classBoxes hboxes (drawn_classArrow? hls hlinks hends) orientation,
      skeleton_read_classLines h hlabels.1 hlabels.2⟩
  | flowchart =>
    have hboxes := drawn_eq (f := flowBox) hns hnodes
      fun v n hn hv => flowBox?_of_bare hv (hid n hn)
    refine ⟨_, write_of_flowBoxes hboxes (drawn_flowArrow? hls hlinks hends) orientation, ?_⟩
    rw [skeleton_read_flowLines_iff h (fun n hn => (hlabels.1 n hn).1) hlabels.2]
    exact fun n hn => ofLine?_shown (h.name n hn).1 (hlabels.1 n hn).2

/-- The document of a graph without bodies, all of whose labels say something. -/
theorem describesBodiless_ofDiagram {d : Diagram}
    (h : ∀ n ∈ d.nodes, n.label ≠ [] ∧ n.members = [] ∧ n.stereotype = none) :
    DescribesBodiless (ofDiagram d) d.nodes d.links := by
  refine ⟨⟨d.nodes.map ofNode, rfl, ?_⟩, (describes_ofDiagram d).links⟩
  rw [List.forall₂_map_left_iff]
  refine List.forall₂_same.mpr fun n hn => ?_
  obtain ⟨hlabel, hmembers, hstereotype⟩ := h n hn
  have hcaption : n.caption = n.label := if_neg (by simpa using hlabel)
  have hrecord := describesNode_ofNode n
  refine ⟨hrecord.id, hcaption ▸ hrecord.label, ⟨_, hrecord.members, ?_⟩,
    ⟨_, hrecord.stereotype, ?_⟩⟩
  · simp [hmembers, Value.isTruthy]
  · simp [hstereotype, Value.isTruthy]

/-- Labels with quotes, brackets, line feeds, braces, bars and glyphs. -/
theorem skeleton_read_write_marks :
    let nodes : List Node :=
      [⟨"A".toList, "\"]\nclass C \x7b x --> C[".toList, [], none⟩,
       ⟨"B".toList, "A --> B |x] %%".toList, [], none⟩]
    let links : List Link :=
      [⟨"A".toList, "B".toList, .association, "B <|-- A : x \"|".toList⟩,
       ⟨"B".toList, "A".toList, .link, "|C| --> D".toList⟩]
    ∀ dialect, Drawable dialect nodes links ∧ Contained dialect nodes links ∧
      ∃ t, write (ofDiagram { nodes, links }) (some dialect) "LR".toList = .ok t ∧
        skeleton (read t) = skeleton { nodes, links } := by
  intro nodes links dialect
  have hgraph : Drawable dialect nodes links ∧ Contained dialect nodes links := by
    cases dialect <;> decide +kernel
  have hdocument : DescribesBodiless (ofDiagram { nodes, links }) nodes links :=
    describesBodiless_ofDiagram (d := { nodes, links }) (by decide)
  exact ⟨hgraph.1, hgraph.2, skeleton_read_write hdocument hgraph.1 hgraph.2 _⟩

/-- What is not contained can change the graph: a line feed in the link
label of a class diagram, a bracket before a glyph in a box, and a
carriage return in either dialect. -/
theorem skeleton_changed_by_labels :
    let a : Text := "A".toList
    let b : Text := "B".toList
    let joined : Diagram :=
      { nodes := [⟨a, a, [], none⟩, ⟨b, b, [], none⟩],
        links := [⟨a, b, .association, "x\nB --> A".toList⟩] }
    let boxed : Diagram := { nodes := [⟨a, "x] --> B[y".toList, [], none⟩] }
    let returned : Diagram := { nodes := [⟨a, "x\rclass B".toList, [], none⟩] }
    (Drawable .classDiagram joined.nodes joined.links ∧
      ∃ t, write (ofDiagram joined) (some .classDiagram) [] = .ok t ∧
        skeleton (read t) = ([a, b], [(a, b, .association), (b, a, .association)])) ∧
    (Drawable .flowchart boxed.nodes boxed.links ∧
      ∃ t, write (ofDiagram boxed) (some .flowchart) [] = .ok t ∧
        skeleton (read t) = ([a, b], [(a, b, .association)])) ∧
    (Drawable .classDiagram returned.nodes returned.links ∧
      ∃ t, write (ofDiagram returned) (some .classDiagram) [] = .ok t ∧
        skeleton (read t) = ([a, b], [])) ∧
    (Drawable .flowchart returned.nodes returned.links ∧
      ∃ t, write (ofDiagram returned) (some .flowchart) [] = .ok t ∧
        skeleton (read t) = ([], [])) := by
  refine ⟨⟨by decide +kernel, _, rfl, by decide +kernel⟩, ⟨by decide +kernel, _, rfl, by decide +kernel⟩,
    ⟨by decide +kernel, _, rfl, by decide +kernel⟩, ⟨by decide +kernel, _, rfl, by decide +kernel⟩⟩

end DiagramGraph.Mermaid
