/-
DiagramGraph.Proofs.FlowRoundTrip — a flowchart that is written and read
again is the same graph, as far as a flowchart can say it.

The main statement is `ofDiagram_read_flowchart`. A flowchart has no
members and no stereotypes, and tells four relations apart (`kept`); what
it does say comes back in order, links from a node to itself included.

The conditions on the graph are `FlowGraph`. Two of them are about words
that the reader passes over: a name that stands alone on its line must
not open or end a group, and a source must not begin a directive.

Statements of a flowchart are read one by one, so the proof follows the
lists: the line of a node adds that node to the draft, the line of a link
that link (`FlowNode.readStatement_nodeLine`, `readStatement_edgeLine`).
-/
import DiagramGraph.Mermaid.Reader
import DiagramGraph.Proofs.DraftTheorems
import DiagramGraph.Proofs.FlowLines
import DiagramGraph.Proofs.WriterTheorems

namespace DiagramGraph.Mermaid

open Text Label Flowchart Document

/-! ## §1 The graphs that flowcharts express -/

/-- The words that begin a directive if a space follows. -/
def directiveWords : List Text :=
  ["flowchart".toList, "graph".toList, "subgraph".toList, "style".toList, "classDef".toList,
   "class".toList, "linkStyle".toList, "click".toList, "direction".toList]

/-- A node whose line declares it, and is neither an edge nor the limit
of a group. -/
@[mk_iff] structure FlowNode (n : Node) : Prop where
  name : IsName n.id
  noGrouping : n.caption = n.id → n.id ≠ "end".toList ∧ n.id ≠ "subgraph".toList
  caption : n.caption = n.id ∨ PlainLabel n.caption
  noEdge : ¬ (']' ∈ n.caption ∧ HasGlyph n.caption)

/-- A link between nodes of these names, whose line states it and is no
directive. -/
@[mk_iff] structure FlowLink (ids : List Text) (l : StatedLink) : Prop where
  source : l.source ∈ ids
  target : l.target ∈ ids
  noDirective : l.source ∉ directiveWords
  label : PlainLabel l.label
  noBar : '|' ∉ l.label

/-- A graph that a flowchart can express. -/
@[mk_iff] structure FlowGraph (nodes : List Node) (links : List StatedLink) : Prop where
  nodup : (nodes.map Node.id).Nodup
  node : ∀ n ∈ nodes, FlowNode n
  link : ∀ l ∈ links, FlowLink (nodes.map Node.id) l

instance (n : Node) : Decidable (FlowNode n) := decidable_of_iff _ (flowNode_iff n).symm

instance (ids : List Text) (l : StatedLink) : Decidable (FlowLink ids l) :=
  decidable_of_iff (ids.contains l.source = true ∧ ids.contains l.target = true ∧
      directiveWords.contains l.source = false ∧ PlainLabel l.label ∧ '|' ∉ l.label)
    (by simp [flowLink_iff])

instance (nodes : List Node) (links : List StatedLink) : Decidable (FlowGraph nodes links) :=
  decidable_of_iff _ (flowGraph_iff nodes links).symm

theorem FlowGraph.isName {nodes : List Node} {links : List StatedLink} (h : FlowGraph nodes links)
    {id : Text} (hid : id ∈ nodes.map Node.id) : IsName id := by
  obtain ⟨n, hn, rfl⟩ := List.mem_map.mp hid
  exact (h.node n hn).name

/-- What a flowchart says of a node. -/
def bare (n : Node) : Node := { n with members := [], stereotype := none }

/-- What a flowchart says of a link. -/
def keptLink (l : StatedLink) : Link := ⟨l.source, l.target, kept l.relation, l.label⟩

/-- What the reader gives back of a link: its label is cleaned. -/
def cleanedLink (l : StatedLink) : Link := keptLink { l with label := clean l.label }

/-! ## §2 The printed lines, trimmed -/

/-- The line of a node as the reader gets it. -/
def nodeLine (n : Node) : Text := if n.caption = n.id then n.id else boxToken n.id n.caption

/-- A link label between bars. -/
def barLabel (label : Text) : Text := if label = [] then [] else '|' :: (label ++ ['|'])

/-- The line of a link as the reader gets it. -/
def edgeLine (l : StatedLink) : Text :=
  l.source ++ ' ' :: (flowSign l.relation ++ (barLabel l.label ++ ' ' :: l.target))

/-- A line that reaches the reader as it was printed: it neither begins
like a comment nor ends in blanks or semicolons. -/
structure Plain (line : Text) : Prop where
  oneLine : OneLine line
  first : ∃ c rest, line = c :: rest ∧ isWord c = true
  last : ∃ c init, line = init ++ [c] ∧ c ≠ ';' ∧ isBlank c = false

section Plain

variable {line : Text}

theorem Plain.trimmed (h : Plain line) : Trimmed line := by
  refine trim_eq_self_iff.mpr ⟨fun c hc => ?_, fun c hc => ?_⟩
  · obtain ⟨first, rest, rfl, hword⟩ := h.first
    obtain rfl : first = c := by simpa using hc
    exact isBlank_eq_false_of_isWord hword
  · obtain ⟨last, init, rfl, -, hblank⟩ := h.last
    obtain rfl : last = c := by simpa using hc
    exact hblank

/-- A line that starts with a word is no comment. -/
theorem isMeaningful_cons {c : Char} (hword : isWord c = true) (rest : Text) :
    isMeaningful (c :: rest) = true := by
  have hpercent : ('%' == c) = false := by
    rw [beq_eq_false_iff_ne]
    rintro rfl
    exact absurd hword (by decide)
  simp [Text.isMeaningful, isComment, List.isPrefixOf, hpercent]

theorem dropSemicolons_concat {c : Char} (hsemicolon : c ≠ ';') (hblank : isBlank c = false)
    (init : Text) : dropSemicolons (init ++ [c]) = init ++ [c] := by
  have hdrop : (init ++ [c]).reverse.dropWhile (· == ';') = (init ++ [c]).reverse := by
    simp [hsemicolon]
  rw [Flowchart.dropSemicolons, hdrop, List.reverse_reverse]
  exact trimEnd_eq_self (by simpa using hblank)

theorem Plain.isMeaningful (h : Plain line) : isMeaningful line = true := by
  obtain ⟨c, rest, rfl, hword⟩ := h.first
  exact isMeaningful_cons hword rest

theorem Plain.dropSemicolons (h : Plain line) : dropSemicolons line = line := by
  obtain ⟨c, init, rfl, hsemicolon, hblank⟩ := h.last
  exact dropSemicolons_concat hsemicolon hblank init

end Plain

theorem exists_concat_of_isName {id : Text} (h : IsName id) (before : Text) :
    ∃ c init, before ++ id = init ++ [c] ∧ c ≠ ';' ∧ isBlank c = false := by
  have hlast := h.isWord _ (List.getLast_mem h.ne_nil)
  refine ⟨id.getLast h.ne_nil, before ++ id.dropLast, ?_, ?_, isBlank_eq_false_of_isWord hlast⟩
  · rw [List.append_assoc, List.dropLast_append_getLast]
  · intro he
    rw [he] at hlast
    exact absurd hlast (by decide)

theorem plain_nodeLine {n : Node} (hid : IsName n.id) (hl : OneLine n.caption) :
    Plain (nodeLine n) := by
  obtain ⟨c, rest, hcons, hword⟩ := hid.exists_cons
  unfold nodeLine
  split
  · exact ⟨hid.oneLine, ⟨c, rest, hcons, hword⟩, exists_concat_of_isName hid []⟩
  · have hquoted : OneLine (quotedText n.caption) :=
      oneLine_cons.mpr ⟨by decide, oneLine_append.mpr ⟨hl, by decide⟩⟩
    have hshape : OneLine (boxShape n.caption) :=
      oneLine_cons.mpr ⟨by decide, oneLine_append.mpr ⟨hquoted, by decide⟩⟩
    refine ⟨oneLine_append.mpr ⟨hid.oneLine, hshape⟩, ?_, ?_⟩
    · exact ⟨c, rest ++ boxShape n.caption, by simp [boxToken, hcons], hword⟩
    · exact ⟨']', n.id ++ '[' :: quotedText n.caption, by simp [boxToken, boxShape], by decide,
        by decide⟩

theorem plain_edgeLine {l : StatedLink} (hs : IsName l.source) (ht : IsName l.target)
    (hl : OneLine l.label) : Plain (edgeLine l) := by
  have hsign : OneLine (flowSign l.relation) := by
    rcases l.relation with _ | r
    · decide
    · cases r <;> decide
  have hlabel : OneLine (barLabel l.label) := by
    unfold barLabel
    split
    · decide
    · exact oneLine_cons.mpr ⟨by decide, oneLine_append.mpr ⟨hl, by decide⟩⟩
  have htarget : OneLine (' ' :: l.target) := oneLine_cons.mpr ⟨by decide, ht.oneLine⟩
  obtain ⟨c, rest, hsource, hword⟩ := hs.exists_cons
  refine ⟨?_, ⟨c, _, by rw [edgeLine, hsource]; rfl, hword⟩, ?_⟩
  · rw [edgeLine, oneLine_append, oneLine_cons, oneLine_append, oneLine_append]
    exact ⟨hs.oneLine, by decide, hsign, hlabel, htarget⟩
  · have hlast := exists_concat_of_isName ht
      (l.source ++ ' ' :: (flowSign l.relation ++ (barLabel l.label ++ [' '])))
    simpa [edgeLine] using hlast

theorem FlowNode.oneLine {n : Node} (h : FlowNode n) : OneLine n.caption := by
  rcases h.caption with he | hplain
  · rw [he]
    exact h.name.oneLine
  · exact hplain.squeezed.oneLine

theorem flowLine_flowBox {n : Node} (h : FlowNode n) :
    (flowBox n).flowLine = "  ".toList ++ nodeLine n := by
  have hline : (flowBox n).flowLine = "  ".toList ++ n.id ++ bracketed (drawnLabel n) := rfl
  rw [hline, drawnLabel_eq h.caption, nodeLine]
  split
  · simp [bracketed]
  · simp [bracketed, boxToken, boxShape, quotedText]

/-- The line of a link shows its label as it can stand between bars. -/
theorem flowLine_arrow (l : StatedLink) :
    (arrow flowSign barred l).flowLine = "  ".toList ++ edgeLine { l with label := barred l.label } := by
  by_cases he : l.label = []
  · have hline : (arrow flowSign barred l).flowLine =
        "  ".toList ++ l.source ++ ' ' :: flowSign l.relation ++ [] ++ ' ' :: l.target := by
      rw [arrow, if_pos he]
      rfl
    have hbarred : barred l.label = [] := by rw [he]; rfl
    rw [hline, edgeLine, barLabel, if_pos hbarred]
    simp
  · have hline : (arrow flowSign barred l).flowLine = "  ".toList ++ l.source ++
        ' ' :: flowSign l.relation ++ ('|' :: barred l.label ++ ['|']) ++ ' ' :: l.target := by
      rw [arrow, if_neg he]
      rfl
    have hbarred : barred l.label ≠ [] := by
      simpa [barred, quotable, replaceChar] using he
    rw [hline, edgeLine, barLabel, if_neg hbarred]
    simp

theorem barred_eq_self {t : Text} (h : PlainLabel t) (hbar : '|' ∉ t) : barred t = t := by
  rw [barred, quotable_eq_self h, replaceChar_eq_self hbar]

/-! ## §3 What the reader passes over -/

/-- The directives are known by these words and a space after them. -/
theorem directives_eq : directives = directiveWords.map (· ++ [' ']) := by decide

theorem not_startsWithAny_directives {line : Text}
    (h : ∀ w ∈ directiveWords, ¬ w ++ [' '] <+: line) : startsWithAny directives line = false := by
  rw [startsWithAny, List.any_eq_false]
  intro piece hpiece hp
  rw [directives_eq] at hpiece
  obtain ⟨w, hw, rfl⟩ := List.mem_map.mp hpiece
  exact h w hw (List.isPrefixOf_iff_prefix.mp hp)

theorem not_mem_directiveWords : ∀ w ∈ directiveWords, ' ' ∉ w ∧ '[' ∉ w ++ [' '] := by decide

/-- In the line of a node no space follows a word at its start. -/
theorem startsWithAny_nodeLine {n : Node} (hid : IsName n.id) :
    startsWithAny directives (nodeLine n) = false := by
  refine not_startsWithAny_directives fun w hw hp => ?_
  have hword : w ++ [' '] <+: n.id := by
    unfold nodeLine at hp
    split at hp
    · exact hp
    · exact prefix_of_prefix_append_cons (not_mem_directiveWords w hw).2 hp
  exact hid.not_mem (by decide) (hword.subset (List.mem_append_right w (List.mem_singleton_self ' ')))

theorem startsWithAny_edgeLine {l : StatedLink} (hs : IsName l.source)
    (hdirective : l.source ∉ directiveWords) : startsWithAny directives (edgeLine l) = false := by
  refine not_startsWithAny_directives fun w hw ⟨rest, hrest⟩ => hdirective ?_
  have hsource : ' ' ∉ l.source := hs.not_mem (by decide)
  have hsame : w ++ ' ' :: rest = l.source ++ ' ' ::
      (flowSign l.relation ++ (barLabel l.label ++ ' ' :: l.target)) := by
    simpa [edgeLine] using hrest
  have hcut := congrArg (cutAt ' ') hsame
  rw [cutAt_append (not_mem_directiveWords w hw).1, cutAt_append hsource] at hcut
  obtain rfl := (Prod.mk.inj (Option.some.inj hcut)).1
  exact hw

theorem isGrouping_eq_false {line : Text} (hend : line ≠ "end".toList)
    (hsubgraph : line ≠ "subgraph".toList) : isGrouping line = false := by
  rw [isGrouping, decide_eq_false hsubgraph, decide_eq_false hend]
  rfl

/-- A character that both words lack tells a line from them. -/
theorem isGrouping_eq_false_of_mem {c : Char} {line : Text} (h : c ∈ line)
    (hc : c ∉ "end".toList ∧ c ∉ "subgraph".toList) : isGrouping line = false :=
  isGrouping_eq_false (fun he => hc.1 (he ▸ h)) (fun he => hc.2 (he ▸ h))

/-! ## §4 Reading along the lines -/

/-- The line of a node that is no edge speaks of one node. -/
theorem readStatement_nodeLine {n : Node} (hid : IsName n.id)
    (hgroup : n.caption = n.id → n.id ≠ "end".toList ∧ n.id ≠ "subgraph".toList)
    (hline : '\n' ∉ n.caption) (hedge : Edge.ofLine? (nodeLine n) = none) (d : Draft) :
    readStatement d (nodeLine n) = mentionToken d (nodeLine n) := by
  rw [readStatement, hedge]
  by_cases hne : n.caption = n.id
  · obtain ⟨hend, hsubgraph⟩ := hgroup hne
    have hempty : n.id.isEmpty = false := by simp [hid.ne_nil]
    rw [nodeLine, if_pos hne, hempty, isGrouping_eq_false hend hsubgraph, lastToken?_name hid]
    rfl
  · have hbracket : '[' ∈ boxToken n.id n.caption := by simp [boxToken, boxShape]
    have hempty : (boxToken n.id n.caption).isEmpty = false := by
      rw [List.isEmpty_eq_false_iff]
      exact List.ne_nil_of_mem hbracket
    obtain ⟨token, htoken⟩ := Option.isSome_iff_exists.mp (isSome_lastToken?_boxToken hid hline)
    rw [nodeLine, if_neg hne, hempty, isGrouping_eq_false_of_mem hbracket (by decide), htoken]
    rfl

/-- The line of a node speaks of it, with the label that was printed. -/
theorem FlowNode.readStatement_nodeLine {n : Node} (h : FlowNode n) (d : Draft) :
    readStatement d (nodeLine n) = d.mention n.id (settled n).label := by
  by_cases hne : n.caption = n.id
  · have hlabel : (settled n).label = [] := if_pos hne
    have hline : nodeLine n = n.id := if_pos hne
    rw [Mermaid.readStatement_nodeLine h.name h.noGrouping h.oneLine.1
      (by rw [hline]; exact ofLine?_name h.name), hlabel, hline, mentionToken, tokenParts_name h.name]
  · have hlabel : (settled n).label = n.caption := if_neg hne
    have hline : nodeLine n = boxToken n.id n.caption := if_neg hne
    rw [Mermaid.readStatement_nodeLine h.name h.noGrouping h.oneLine.1
      (by rw [hline]; exact ofLine?_boxToken h.name (not_leavesBox h.noEdge)), hlabel, hline, mentionToken,
      tokenParts_boxToken h.name, quotedText, (h.caption.resolve_left hne).clean_quoted]

theorem ofLine?_edgeLine {l : StatedLink} (hs : IsName l.source) (ht : IsName l.target)
    (hbar : '|' ∉ l.label) :
    Edge.ofLine? (edgeLine l) = some ⟨l.source, l.target, kept l.relation, l.label⟩ := by
  unfold edgeLine barLabel
  split
  · next he => rw [he, List.nil_append, ofLine?_bare l.relation hs ht]
  · rw [← ofLine?_piped l.relation hs ht hbar]
    simp

/-- The line of a link between known nodes links them, whatever the label. -/
theorem readStatement_edgeLine {l : StatedLink} (hs : IsName l.source) (ht : IsName l.target)
    (hbar : '|' ∉ l.label) {d : Draft} (hd : l.source ∈ d.ids ∧ l.target ∈ d.ids) :
    readStatement d (edgeLine l) = d.connect (cleanedLink l) true := by
  have hspace : ' ' ∈ edgeLine l := by simp [edgeLine]
  have hgrouping := isGrouping_eq_false_of_mem hspace (by decide)
  have hempty : (edgeLine l).isEmpty = false := by
    rw [List.isEmpty_eq_false_iff]
    exact List.ne_nil_of_mem hspace
  rw [readStatement, hempty, hgrouping, ofLine?_edgeLine hs ht hbar]
  simp only [addEdge, mentionToken, tokenParts_name hs, tokenParts_name ht]
  rw [Draft.mention_of_mem hd.1, Draft.mention_of_mem hd.2]
  rfl

/-- The lines of the links between known nodes add them in order, their labels cleaned. -/
theorem foldl_edgeLines : ∀ {links : List StatedLink} {d : Draft},
    (∀ l ∈ links, IsName l.source ∧ IsName l.target ∧ '|' ∉ l.label) →
    (∀ l ∈ links, l.source ∈ d.ids ∧ l.target ∈ d.ids) →
    (links.map edgeLine).foldl readStatement d =
      { d with links := d.links ++ links.map cleanedLink }
  | [], d, _, _ => by simp
  | l :: links, d, h, hd => by
      obtain ⟨hs, ht, hbar⟩ := h l (by simp)
      have hl := hd l (by simp)
      have hstep : readStatement d (edgeLine l) =
          { d with links := d.links ++ [cleanedLink l] } := by
        rw [readStatement_edgeLine hs ht hbar hl,
          Draft.connect_of_mem (l := cleanedLink l) hl.1 hl.2]
        simp [Draft.refuses]
      rw [List.map_cons, List.foldl_cons, hstep, foldl_edgeLines
        (d := { d with links := d.links ++ [cleanedLink l] })
        (fun k hk => h k (List.mem_cons_of_mem l hk)) (fun k hk => hd k (List.mem_cons_of_mem l hk))]
      simp

/-! ## §5 The printed text -/

/-- The header of a flowchart. -/
def flowHeader (rank : Rank) : Text := "flowchart ".toList ++ rank.name

theorem flowDirection?_flowHeader (rank : Rank) : flowDirection? (flowHeader rank) = some rank.name := by
  cases rank <;> decide

theorem startsWithAny_flowHeader (rank : Rank) : startsWithAny directives (flowHeader rank) = true := by
  cases rank <;> decide

/-- A header reaches the reader as it was printed. -/
theorem flowHeader_spec (rank : Rank) :
    (flowHeader rank).head? ≠ some '\uFEFF' ∧ flowHeader rank ≠ [] ∧
      OneLine (flowHeader rank) ∧ trim (flowHeader rank) = flowHeader rank := by
  cases rank <;> decide

/-- A text under the header of a flowchart is read statement by statement. -/
theorem read_flowText {lines : List Text} (hplain : ∀ line ∈ lines, Plain line)
    (hdirective : ∀ line ∈ lines, startsWithAny directives line = false) (rank : Rank) :
    read (unlines (flowHeader rank :: lines.map ("  ".toList ++ ·))) =
      (lines.foldl readStatement {}).finish (some .flowchart) (some rank.name) := by
  obtain ⟨hmark, hne, honeLine, hheader⟩ := flowHeader_spec rank
  have htrimmed : trimmedLines (unlines (flowHeader rank :: lines.map ("  ".toList ++ ·))) =
      flowHeader rank :: lines ++ [[]] := by
    have htrim : (lines.map ("  ".toList ++ ·)).map trim = lines :=
      map_trim_map_append (by decide) fun line hline => (hplain line hline).trimmed
    rw [trimmedLines_unlines hmark hne, List.map_cons, htrim, hheader]
    intro line hline
    rcases List.mem_cons.mp hline with rfl | hline
    · exact honeLine
    · obtain ⟨body, hbody, rfl⟩ := List.mem_map.mp hline
      exact oneLine_append.mpr ⟨by decide, (hplain body hbody).oneLine⟩
  have hstatements : statements directives (flowHeader rank :: lines ++ [[]]) = lines := by
    rw [statements, List.cons_append,
      List.filter_cons_of_neg (by simp [startsWithAny_flowHeader]),
      List.filter_append, List.filter_eq_self.mpr, List.filter_cons_of_neg (by decide)]
    · simp
    · intro line hline
      rw [(hplain line hline).isMeaningful, hdirective line hline]
      rfl
  have hsemicolons : lines.map dropSemicolons = lines := by
    refine (List.map_congr_left fun line hline => ?_).trans (List.map_id' _)
    exact (hplain line hline).dropSemicolons
  have hfirst : firstStatement? (flowHeader rank :: lines ++ [[]]) = some (flowHeader rank) := rfl
  rw [read]
  dsimp only
  rw [htrimmed, hfirst]
  dsimp only
  rw [flowDirection?_flowHeader]
  dsimp only
  rw [readLines, hstatements, hsemicolons]

section Text

variable {nodes : List Node} {links : List StatedLink}

/-- The printed lines, indented. -/
theorem flowDrawing_eq (h : FlowGraph nodes links) (orientation : Text) :
    flowDrawing orientation nodes links = flowHeader (Rank.ofOrientation orientation) ::
      (nodes.map nodeLine ++ links.map edgeLine).map ("  ".toList ++ ·) := by
  have hboxes : (nodes.map flowBox).map Box.flowLine =
      (nodes.map nodeLine).map ("  ".toList ++ ·) := by
    rw [List.map_map, List.map_map]
    exact List.map_congr_left fun n hn => flowLine_flowBox (h.node n hn)
  have harrows : (links.map (arrow flowSign barred)).map Arrow.flowLine =
      (links.map edgeLine).map ("  ".toList ++ ·) := by
    rw [List.map_map, List.map_map]
    refine List.map_congr_left fun l hl => ?_
    rw [Function.comp_apply, flowLine_arrow, barred_eq_self (h.link l hl).label (h.link l hl).noBar]
    rfl
  rw [flowDrawing, hboxes, harrows, List.map_append]
  rfl

theorem plain_of_mem (h : FlowGraph nodes links) :
    ∀ line ∈ nodes.map nodeLine ++ links.map edgeLine, Plain line := by
  intro line hline
  rcases List.mem_append.mp hline with hline | hline
  · obtain ⟨n, hn, rfl⟩ := List.mem_map.mp hline
    exact plain_nodeLine (h.node n hn).name (h.node n hn).oneLine
  · obtain ⟨l, hl, rfl⟩ := List.mem_map.mp hline
    have hlink := h.link l hl
    exact plain_edgeLine (h.isName hlink.source) (h.isName hlink.target) hlink.label.squeezed.oneLine

theorem startsWithAny_of_mem (h : FlowGraph nodes links) :
    ∀ line ∈ nodes.map nodeLine ++ links.map edgeLine, startsWithAny directives line = false := by
  intro line hline
  rcases List.mem_append.mp hline with hline | hline
  · obtain ⟨n, hn, rfl⟩ := List.mem_map.mp hline
    exact startsWithAny_nodeLine (h.node n hn).name
  · obtain ⟨l, hl, rfl⟩ := List.mem_map.mp hline
    exact startsWithAny_edgeLine (h.isName (h.link l hl).source) (h.link l hl).noDirective

theorem read_flowDrawing (h : FlowGraph nodes links) (orientation : Text) :
    read (unlines (flowDrawing orientation nodes links)) =
      ⟨nodes.map (fun n => bare (settled n)), links.map keptLink, some .flowchart,
        some (Rank.ofOrientation orientation).name, []⟩ := by
  have hnodes : (nodes.map nodeLine).foldl readStatement {} =
      { nodes := nodes.map (fun n => bare (settled n)) } := by
    rw [List.foldl_map, List.foldl_ext _ (fun e n => e.mention n.id (settled n).label) _
      (fun e n hn => (h.node n hn).readStatement_nodeLine e),
      Draft.foldl_mention Node.id (fun n => (settled n).label) h.nodup (by simp [Draft.ids])]
    rfl
  have hclean : links.map cleanedLink = links.map keptLink :=
    List.map_congr_left fun l hl => by rw [cleanedLink, (h.link l hl).label.clean_eq]
  rw [flowDrawing_eq h, read_flowText (plain_of_mem h) (startsWithAny_of_mem h), List.foldl_append,
    hnodes, foldl_edgeLines, hclean]
  · rfl
  · intro l hl
    have hlink := h.link l hl
    exact ⟨h.isName hlink.source, h.isName hlink.target, hlink.noBar⟩
  · intro l hl
    have hids : ({ nodes := nodes.map (fun n => bare (settled n)) } : Draft).ids =
        nodes.map Node.id := by
      simp [Draft.ids, bare, settled]
    rw [hids]
    exact ⟨(h.link l hl).source, (h.link l hl).target⟩

theorem ofDiagram_read_flowDrawing (h : FlowGraph nodes links) (orientation : Text) :
    ofDiagram (read (unlines (flowDrawing orientation nodes links))) =
      ofDiagram { nodes := nodes.map bare, links := links.map keptLink } := by
  have hnodes : (nodes.map (fun n => bare (settled n))).map ofNode =
      (nodes.map bare).map ofNode := by
    rw [List.map_map, List.map_map]
    refine List.map_congr_left fun n hn => ?_
    exact ofNode_settled (n := bare n) (h.node n hn).name.ne_nil
  rw [read_flowDrawing h, ofDiagram, ofDiagram, hnodes]

/-- A graph that a flowchart can express is printed as one. -/
theorem FlowGraph.write_eq (h : FlowGraph nodes links) {document : Json.Value}
    (hdocument : Describes document nodes links) (orientation : Text) :
    write document (some .flowchart) orientation =
      .ok (unlines (flowDrawing orientation nodes links)) :=
  write_flowchart hdocument (fun n hn => (h.node n hn).name.ne_nil)
    (fun l hl => ⟨(h.isName (h.link l hl).source).ne_nil, (h.isName (h.link l hl).target).ne_nil⟩)
    orientation

/-- A graph that a flowchart can express, written as one and read again,
is the same graph without members and stereotypes, each link with the
relation that flowcharts keep of it. Nothing printed is left unread. -/
theorem ofDiagram_read_flowchart {document : Json.Value} (hdocument : Describes document nodes links)
    (h : FlowGraph nodes links) (orientation : Text) :
    ∃ t, write document (some .flowchart) orientation = .ok t ∧
      ofDiagram (read t) =
        ofDiagram { nodes := nodes.map bare, links := links.map keptLink } ∧
      Describes (ofDiagram (read t)) (nodes.map bare) ((links.map keptLink).map stated) ∧
      (read t).dialect = some .flowchart ∧
      (read t).orientation = some (Rank.ofOrientation orientation).name ∧
      (read t).unread = [] := by
  have hsame := ofDiagram_read_flowDrawing h orientation
  refine ⟨_, h.write_eq hdocument orientation, hsame, describes_of_eq_ofDiagram hsame, ?_⟩
  rw [read_flowDrawing h]
  exact ⟨rfl, rfl, rfl⟩

end Text

/-- Labels that look like edges, a link from a node to itself and a
relation that flowcharts do not have. -/
theorem ofDiagram_read_flowchart_glyphs :
    let nodes : List Node :=
      [⟨"A".toList, "B --> C ([((".toList, ["m".toList], some "s".toList⟩,
       ⟨"end".toList, "x] : y)".toList, [], none⟩]
    let links : List StatedLink :=
      [⟨"A".toList, "end".toList, some .inheritance, "a --> [b".toList⟩,
       ⟨"end".toList, "end".toList, some .link, []⟩]
    let readNodes : List Node :=
      [⟨"A".toList, "B --> C ([((".toList, [], none⟩, ⟨"end".toList, "x] : y)".toList, [], none⟩]
    let readLinks : List Link :=
      [⟨"A".toList, "end".toList, .association, "a --> [b".toList⟩,
       ⟨"end".toList, "end".toList, .link, []⟩]
    FlowGraph nodes links ∧
      ∃ document t, write document (some .flowchart) "lr".toList = .ok t ∧
        ofDiagram (read t) = ofDiagram { nodes := readNodes, links := readLinks } ∧
        Describes (ofDiagram (read t)) readNodes (readLinks.map stated) ∧
        (read t).orientation = some "LR".toList := by
  intro nodes links readNodes readLinks
  have hgraph : FlowGraph nodes links := by decide +kernel
  let graph : Diagram :=
    { nodes, links :=
        [⟨"A".toList, "end".toList, .inheritance, "a --> [b".toList⟩,
         ⟨"end".toList, "end".toList, .link, []⟩] }
  obtain ⟨t, ht, hsame, hdescribes, -, hrank, -⟩ :=
    ofDiagram_read_flowchart (describes_ofDiagram graph) hgraph "lr".toList
  exact ⟨hgraph, ofDiagram graph, t, ht, hsame, hdescribes, hrank⟩

end DiagramGraph.Mermaid
