/-
DiagramGraph.Proofs.ClassRoundTrip — a class diagram that is written and
read again is the same graph.

The main statement is `ofDiagram_read_classDiagram`. The conditions on
the graph are `ClassGraph`; each rules out a text that the line it stands
on would be read differently for: a member that would close its body, a
name that would begin a note, and so on. A link from a class to itself
is printed, but class diagrams do not keep it.

## How the proof goes

The printed text is cut into its lines, trimmed: `classStatements` for
each node and `linkLine` for each link. The machine of
`Proofs.ClassMachine` is run along them. It is outside of bodies before
and after the lines of each node (`run_classStatements`), and these add
exactly that node to the draft, so the induction over the nodes is on the
draft alone; the same holds for the links (`run_linkLines`).
-/
import DiagramGraph.Mermaid.Reader
import DiagramGraph.Proofs.ClassLines
import DiagramGraph.Proofs.ClassMachine
import DiagramGraph.Proofs.LabelTheorems
import DiagramGraph.Proofs.WriterTheorems

namespace DiagramGraph.Mermaid

open Text Label ClassDiagram Document

/-! ## §1 The graphs that class diagrams express -/

/-- A member that stands on a body line of its own. -/
@[mk_iff] structure BodyMember (m : Text) : Prop where
  ne_nil : m ≠ []
  trimmed : Trimmed m
  oneLine : OneLine m
  noClose : ¬ "\x7d".toList <+: m
  noComment : ¬ "%%".toList <+: m
  noNote : ¬ "note".toList <+: m
  noStereotype : ¬ ("<<".toList <+: m ∧ ">>".toList <:+ m ∧ 4 ≤ m.length)

/-- A node whose lines are read as they were printed. -/
@[mk_iff] structure ClassNode (n : Node) : Prop where
  name : IsName n.id
  caption : n.caption = n.id ∨ PlainLabel n.caption
  members : ∀ m ∈ n.members, BodyMember m
  stereotype : ∀ s ∈ n.stereotype, s ≠ [] ∧ Trimmed s ∧ OneLine s

/-- A link between nodes of these names, whose line states it and is no
note, no namespace and no declaration. -/
@[mk_iff] structure ClassLink (ids : List Text) (l : Link) : Prop where
  source : l.source ∈ ids
  target : l.target ∈ ids
  trimmed : Trimmed l.label
  oneLine : OneLine l.label
  noNote : ¬ "note".toList <+: l.source
  noNamespace : ¬ "namespace".toList <+: l.source
  noClass : ¬ (l.relation = .aggregation ∧ l.source = "class".toList)

/-- A graph that a class diagram can express. -/
@[mk_iff] structure ClassGraph (nodes : List Node) (links : List Link) : Prop where
  nodup : (nodes.map Node.id).Nodup
  node : ∀ n ∈ nodes, ClassNode n
  link : ∀ l ∈ links, ClassLink (nodes.map Node.id) l

instance (m : Text) : Decidable (BodyMember m) := decidable_of_iff _ (bodyMember_iff m).symm

instance (n : Node) : Decidable (ClassNode n) := decidable_of_iff _ (classNode_iff n).symm

instance (ids : List Text) (l : Link) : Decidable (ClassLink ids l) :=
  decidable_of_iff (ids.contains l.source = true ∧ ids.contains l.target = true ∧
      Trimmed l.label ∧ OneLine l.label ∧ ¬ "note".toList <+: l.source ∧
      ¬ "namespace".toList <+: l.source ∧
      ¬ (l.relation = .aggregation ∧ l.source = "class".toList))
    (by simp only [classLink_iff, List.contains_iff_mem])

instance (nodes : List Node) (links : List Link) : Decidable (ClassGraph nodes links) :=
  decidable_of_iff _ (classGraph_iff nodes links).symm

theorem ClassGraph.isName {nodes : List Node} {links : List Link} (h : ClassGraph nodes links)
    {id : Text} (hid : id ∈ nodes.map Node.id) : IsName id := by
  obtain ⟨n, hn, rfl⟩ := List.mem_map.mp hid
  exact (h.node n hn).name

/-! ## §2 The printed lines, trimmed -/

/-- The line that declares a node, up to its body. -/
def headerOf (n : Node) : Text := "class ".toList ++ n.id ++ bracketed (drawnLabel n)

-- Rewriting with `headerOf` itself would have the keyword evaluated first.
theorem headerOf_eq (n : Node) :
    headerOf n = "class ".toList ++ n.id ++ bracketed (drawnLabel n) := rfl

/-- The line of a stereotype in a body. -/
def stereotypeLine (s : Text) : Text := '<' :: '<' :: (s ++ ">>".toList)

/-- The lines of a node as the reader gets them. -/
def classStatements (n : Node) : List Text :=
  if n.members = [] ∧ n.stereotype = none then [headerOf n]
  else
    (headerOf n ++ " \x7b".toList) ::
      ((n.stereotype.map stereotypeLine).toList ++ n.members ++ ["\x7d".toList])

section Node

variable {n : Node}

theorem filter_stereotype (h : ClassNode n) :
    n.stereotype.filter (fun s => !s.isEmpty) = n.stereotype := by
  cases hs : n.stereotype with
  | none => rfl
  | some s => simp [(h.stereotype s hs).1]

theorem trimmed_headerOf (hid : IsName n.id) {tail : Text} (htail : HeaderTail tail) :
    Trimmed (headerOf n ++ tail) := by
  have hclass : Trimmed "class".toList := by decide
  cases htail with
  | brace =>
    have := hclass.append (by decide) (b := "\x7b".toList) (by decide) (by decide)
      (' ' :: (n.id ++ (bracketed (drawnLabel n) ++ [' '])))
    simpa [headerOf_eq] using this
  | nil =>
    cases hl : drawnLabel n with
    | none =>
      have := hclass.append (by decide) hid.trimmed hid.ne_nil [' ']
      simpa [headerOf_eq, hl, bracketed] using this
    | some t =>
      have := hclass.append (by decide) (b := [']']) (by decide) (by decide)
        (' ' :: (n.id ++ ("[\"".toList ++ t ++ ['"'])))
      simpa [headerOf_eq, hl, bracketed] using this

theorem trim_stereotypeLine (s : Text) : trim ("    <<".toList ++ s ++ ">>".toList) = stereotypeLine s := by
  have htrimmed : Trimmed ("<<".toList ++ (s ++ ">>".toList)) :=
    Trimmed.append (by decide) (by decide) (by decide) (by decide) s
  have hline : "    <<".toList ++ s ++ ">>".toList =
      "    ".toList ++ ("<<".toList ++ (s ++ ">>".toList)) := by simp
  rw [hline, trim_append (by decide), htrimmed]
  rfl

/-- What the reader gets of the lines of a box. -/
theorem map_trim_classLines (h : ClassNode n) : (classBox n).classLines.map trim = classStatements n := by
  have hheader {tail : Text} (htail : HeaderTail tail) :
      trim ("  class ".toList ++ n.id ++ bracketed (drawnLabel n) ++ tail) = headerOf n ++ tail := by
    have hline : "  class ".toList ++ n.id ++ bracketed (drawnLabel n) ++ tail =
        "  ".toList ++ (headerOf n ++ tail) := by simp [headerOf_eq]
    rw [hline, trim_append (by decide), trimmed_headerOf h.name htail]
  have hmembers : (n.members.map fun m => "    ".toList ++ m).map trim = n.members :=
    map_trim_map_append (by decide) fun m hm => (h.members m hm).trimmed
  have hstereotype : (n.stereotype.map fun s => "    <<".toList ++ s ++ ">>".toList).toList.map trim =
      (n.stereotype.map stereotypeLine).toList := by
    cases n.stereotype with
    | none => rfl
    | some s => simpa using trim_stereotypeLine s
  have hclose : trim "  \x7d".toList = "\x7d".toList := by decide
  unfold Box.classLines classStatements
  simp only [classBox, filter_stereotype h]
  by_cases hbody : n.members = [] ∧ n.stereotype = none
  · rw [if_pos hbody, if_pos (by simp [hbody])]
    simpa using hheader .nil
  · rw [if_neg hbody, if_neg (by simpa using hbody)]
    simp only [List.map_append, hmembers, hstereotype, List.map_cons, List.map_nil, hclose,
      hheader .brace]
    simp

/-! ## §3 The machine along the lines of a node -/

theorem isGrouping_headerOf (n : Node) (tail : Text) : isGrouping (headerOf n ++ tail) = false := by
  simp [isGrouping, headerOf_eq, List.isPrefixOf]

/-- A header declares its class, whatever the label. -/
theorem declaration?_headerOf (hid : IsName n.id) {tail : Text} (htail : HeaderTail tail) :
    declaration? (headerOf n ++ tail) = some ⟨n.id, (drawnLabel n).getD [], tail⟩ :=
  declaration?_header hid (fun _ ht => quote_not_mem_drawnLabel ht) htail

/-- The header adds the node, still without its body. -/
theorem step_headerOf (h : ClassNode n) {d : Draft} (hnew : n.id ∉ d.ids) {tail : Text}
    (htail : HeaderTail tail) :
    Machine.step ⟨.top, d⟩ (headerOf n ++ tail) =
      ⟨if tail = [] then .top else .body n.id,
        { d with nodes := d.nodes ++ [⟨n.id, (settled n).label, [], none⟩] }⟩ := by
  rw [run_top_of_declaration? (by simp [isGrouping_headerOf]) (declaration?_headerOf h.name htail),
    declare_eq]
  dsimp only
  rw [clean_drawnLabel h.caption, Draft.mention_of_not_mem hnew]
  cases htail <;> rfl

theorem stereotype?_stereotypeLine {s : Text} (h : Trimmed s) :
    stereotype? (stereotypeLine s) = some s := by
  have hprefix : "<<".toList.isPrefixOf (stereotypeLine s) = true := by
    rw [List.isPrefixOf_iff_prefix]
    exact ⟨s ++ ">>".toList, by simp [stereotypeLine]⟩
  have hsuffix : ">>".toList.isSuffixOf (stereotypeLine s) = true := by
    rw [List.isSuffixOf_iff_suffix]
    exact ⟨'<' :: '<' :: s, rfl⟩
  have hinner : ((stereotypeLine s).drop 2).take ((stereotypeLine s).length - 4) = s := by
    simp [stereotypeLine]
  have hlength : 4 ≤ (stereotypeLine s).length := by simp [stereotypeLine]
  rw [stereotype?, hprefix, hsuffix, hinner, h]
  simp [hlength]

theorem BodyMember.stereotype? {m : Text} (h : BodyMember m) : ClassDiagram.stereotype? m = none := by
  refine if_neg fun hs => h.noStereotype ?_
  simp only [Bool.and_eq_true, List.isPrefixOf_iff_prefix, List.isSuffixOf_iff_suffix,
    decide_eq_true_eq] at hs
  exact ⟨hs.1.1, hs.1.2, hs.2⟩

theorem BodyMember.closesBody {m : Text} (h : BodyMember m) : ClassDiagram.closesBody m = false :=
  Bool.eq_false_iff.mpr fun hc => h.noClose (List.isPrefixOf_iff_prefix.mp hc)

section Body

variable {d : Draft} {ns : List Node} {n : Node}

theorem foldl_fill_members : ∀ (members : List Text) {n : Node} {d : Draft},
    d.nodes = ns ++ [n] → n.id ∉ ns.map Node.id → (∀ m ∈ members, BodyMember m) →
    members.foldl (fill n.id) d =
      { d with nodes := ns ++ [{ n with members := n.members ++ members }] }
  | [], n, d, hd, _, _ => by
      simp [← hd]
  | m :: rest, n, d, hd, hn, h => by
      have hfill : fill n.id d m =
          { d with nodes := ns ++ [{ n with members := n.members ++ [m] }] } := by
        rw [fill, (h m (by simp)).stereotype?]
        exact Draft.update_newest hd hn _
      rw [List.foldl_cons, hfill]
      have hrest := foldl_fill_members rest (n := { n with members := n.members ++ [m] })
        (d := { d with nodes := ns ++ [{ n with members := n.members ++ [m] }] }) rfl hn
        fun k hk => h k (List.mem_cons_of_mem m hk)
      rw [hrest]
      simp

/-- The body lines of the newest node fill it. -/
theorem run_bodyLines (hd : d.nodes = ns ++ [n]) (hn : n.id ∉ ns.map Node.id)
    (hempty : n.stereotype = none) {stereotype : Option Text} (hs : ∀ s ∈ stereotype, Trimmed s)
    {members : List Text} (hm : ∀ m ∈ members, BodyMember m) :
    Machine.run ⟨.body n.id, d⟩
        ((stereotype.map stereotypeLine).toList ++ members ++ ["\x7d".toList]) =
      ⟨.top, { d with nodes := ns ++ [{ n with members := n.members ++ members, stereotype }] }⟩ := by
  have hopen : ∀ m ∈ members, closesBody m = false := fun m hk => (hm m hk).closesBody
  cases stereotype with
  | none =>
    rw [Machine.run_append, Option.map_none, Option.toList_none, List.nil_append,
      run_body_unclosed n.id d members hopen, foldl_fill_members members hd hn hm]
    simp [Machine.step, hempty]
  | some s =>
    have hstep : Machine.step ⟨.body n.id, d⟩ (stereotypeLine s) =
        ⟨.body n.id, { d with nodes := ns ++ [{ n with stereotype := some s }] }⟩ := by
      have hfill : fill n.id d (stereotypeLine s) =
          { d with nodes := ns ++ [{ n with stereotype := some s }] } := by
        rw [fill, stereotype?_stereotypeLine (hs s rfl)]
        exact Draft.update_newest hd hn _
      rw [← hfill]
      rfl
    rw [Option.map_some, Option.toList_some, List.append_assoc, List.singleton_append,
      Machine.run_cons, hstep, Machine.run_append,
      run_body_unclosed n.id _ members hopen,
      foldl_fill_members members (n := { n with stereotype := some s }) rfl hn hm]
    simp [Machine.step]

end Body

/-- The lines of a node add it to the draft, and leave the machine outside. -/
theorem run_classStatements (h : ClassNode n) {d : Draft} (hnew : n.id ∉ d.ids) :
    Machine.run ⟨.top, d⟩ (classStatements n) =
      ⟨.top, { d with nodes := d.nodes ++ [settled n] }⟩ := by
  unfold classStatements
  split
  · next hbody =>
    have hstep := step_headerOf h hnew .nil
    rw [List.append_nil] at hstep
    rw [Machine.run_cons, hstep]
    simp [settled, hbody.1, hbody.2]
  · rw [Machine.run_cons, step_headerOf h hnew .brace]
    have hbody := run_bodyLines (n := ⟨n.id, (settled n).label, [], none⟩)
      (d := { d with nodes := d.nodes ++ [⟨n.id, (settled n).label, [], none⟩] }) rfl hnew rfl
      (fun s hs => (h.stereotype s hs).2.1) h.members
    simpa [settled] using hbody

end Node

/-- The lines of the nodes add them in order. -/
theorem run_nodeLines : ∀ {nodes : List Node} {d : Draft}, (∀ n ∈ nodes, ClassNode n) →
    (nodes.map Node.id).Nodup → (∀ id ∈ nodes.map Node.id, id ∉ d.ids) →
    Machine.run ⟨.top, d⟩ (nodes.flatMap classStatements) =
      ⟨.top, { d with nodes := d.nodes ++ nodes.map settled }⟩
  | [], d, _, _, _ => by simp
  | n :: nodes, d, h, hnodup, hnew => by
      obtain ⟨hn, hrest⟩ := List.nodup_cons.mp hnodup
      rw [List.flatMap_cons, Machine.run_append,
        run_classStatements (h n (by simp)) (hnew n.id (by simp)),
        run_nodeLines (fun m hm => h m (List.mem_cons_of_mem n hm)) hrest]
      · simp
      · intro id hid
        have hold := hnew id (by simp only [List.map_cons, List.mem_cons]; exact .inr hid)
        have hne : id ≠ n.id := fun he => hn (he ▸ hid)
        simpa [Draft.ids, settled, hne] using hold

/-! ## §4 The machine along the lines of the links -/

/-- A line that relates two names links them, whatever the label. -/
theorem step_joinLine {source : Text} (hs : IsName source) (hnamespace : ¬ "namespace".toList <+: source)
    {r : Relation} (hclass : ¬ (r = .aggregation ∧ source = "class".toList)) {rest : Text}
    (ht : IsName (Mermaid.target (trim rest)).1) (d : Draft) :
    Machine.step ⟨.top, d⟩ (joinLine source r rest) =
      ⟨.top, d.connect
        ⟨source, (Mermaid.target (trim rest)).1, r, (Mermaid.target (trim rest)).2⟩ false⟩ := by
  rw [run_top_of_declaration?_eq_none (by simp [isGrouping_joinLine hs hnamespace])
    (declaration?_joinLine hs hclass rest), relate, relationship?_joinLine hs ht]

theorem run_linkLines {ids : List Text} (hname : ∀ id ∈ ids, IsName id) {links : List Link}
    {d : Draft} (h : ∀ l ∈ links, ClassLink ids l) (hids : ∀ id ∈ ids, id ∈ d.ids) :
    Machine.run ⟨.top, d⟩ (links.map linkLine) =
      ⟨.top, { d with links := d.links ++ links.filter (fun l => l.source ≠ l.target) }⟩ := by
  have hstep : ∀ l ∈ links, ∀ e, Machine.step ⟨.top, e⟩ (linkLine l) = ⟨.top, e.connect l false⟩ := by
    intro l hl e
    have hlink := h l hl
    have ht := hname _ hlink.target
    have htarget := target_trim_colonLabel ht hlink.trimmed hlink.oneLine.1
    rw [linkLine, step_joinLine (hname _ hlink.source) hlink.noNamespace hlink.noClass
      (by rw [htarget]; exact ht), htarget]
  rw [Machine.run_map hstep, Draft.foldl_connect false fun l hl =>
    ⟨hids _ (h l hl).source, hids _ (h l hl).target⟩]
  simp [Draft.refuses]

/-! ## §5 The printed text -/

theorem survives_iff {line : Text} : survives line = true ↔
    line ≠ [] ∧ ¬ "%%".toList <+: line ∧ ¬ "note".toList <+: line := by
  simp only [survives, Bool.and_eq_true, Bool.not_eq_true', ← List.isPrefixOf_iff_prefix,
    Bool.not_eq_true, List.isEmpty_eq_false_iff, and_assoc]

theorem survives_headerOf (n : Node) (tail : Text) : survives (headerOf n ++ tail) = true := by
  simp [survives, headerOf_eq, List.isPrefixOf]

theorem survives_classStatements {n : Node} (h : ClassNode n) :
    ∀ line ∈ classStatements n, survives line = true := by
  unfold classStatements
  split
  · have hbare := survives_headerOf n []
    rw [List.append_nil] at hbare
    simpa using hbare
  · intro line hline
    simp only [List.mem_cons, List.mem_append, Option.mem_toList, List.not_mem_nil, or_false,
      Option.map_eq_some_iff] at hline
    rcases hline with rfl | (⟨s, hs, rfl⟩ | hm) | rfl
    · exact survives_headerOf n _
    · rfl
    · have hbody := h.members line hm
      exact survives_iff.mpr ⟨hbody.ne_nil, hbody.noComment, hbody.noNote⟩
    · decide

theorem survives_joinLine {source : Text} (hs : IsName source) (hnote : ¬ "note".toList <+: source)
    (r : Relation) (rest : Text) : survives (joinLine source r rest) = true := by
  refine survives_iff.mpr ⟨by simp [joinLine], fun hc => ?_, fun hn => hnote ?_⟩
  · have hstart : "%%".toList <+: source := prefix_of_prefix_append_cons (by decide) hc
    exact hs.not_mem (c := '%') (by decide) (hstart.subset (by decide))
  · exact prefix_of_prefix_append_cons (by decide) hn

theorem oneLine_headerOf {n : Node} (hid : IsName n.id) (hl : ∀ t ∈ drawnLabel n, OneLine t) :
    OneLine (headerOf n) := by
  rw [headerOf_eq, oneLine_append, oneLine_append]
  refine ⟨⟨by decide, hid.oneLine⟩, ?_⟩
  cases hd : drawnLabel n with
  | none => decide
  | some t =>
    rw [bracketed, oneLine_append, oneLine_append]
    exact ⟨⟨by decide, hl t hd⟩, by decide⟩

theorem oneLine_classLines {n : Node} (h : ClassNode n) :
    ∀ line ∈ (classBox n).classLines, OneLine line := by
  have hheader : OneLine ("  class ".toList ++ n.id ++ bracketed (drawnLabel n)) := by
    have hline : "  class ".toList ++ n.id ++ bracketed (drawnLabel n) =
        "  ".toList ++ headerOf n := by simp [headerOf_eq]
    rw [hline, oneLine_append]
    exact ⟨by decide, oneLine_headerOf h.name fun t ht =>
      (plainLabel_of_mem_drawnLabel h.caption t ht).squeezed.oneLine⟩
  unfold Box.classLines
  simp only [classBox, filter_stereotype h]
  split
  · simpa using hheader
  · intro line hline
    simp only [List.mem_append, List.mem_cons, List.not_mem_nil, or_false, Option.mem_toList,
      Option.map_eq_some_iff, List.mem_map] at hline
    rcases hline with ((rfl | ⟨s, hs, rfl⟩) | ⟨m, hm, rfl⟩) | rfl
    · rw [oneLine_append]
      exact ⟨hheader, by decide⟩
    · rw [oneLine_append, oneLine_append]
      exact ⟨⟨by decide, (h.stereotype s hs).2.2⟩, by decide⟩
    · rw [oneLine_append]
      exact ⟨by decide, (h.members m hm).oneLine⟩
    · decide

theorem classLine_arrow (l : Link) :
    (arrow classSign id (stated l)).classLine = "  ".toList ++ linkLine l := by
  unfold Arrow.classLine arrow linkLine joinLine colonLabel stated
  by_cases h : l.label = [] <;> simp [h]

theorem oneLine_linkLine {l : Link} (hs : IsName l.source) (ht : IsName l.target)
    (hl : OneLine l.label) : OneLine (linkLine l) := by
  have hsign : OneLine (classSign (some l.relation)) := by
    cases l.relation <;> decide
  have hlabel : OneLine (colonLabel l.label) := by
    unfold colonLabel
    split
    · decide
    · rw [oneLine_append]
      exact ⟨by decide, hl⟩
  have htarget : OneLine (' ' :: (l.target ++ colonLabel l.label)) :=
    oneLine_cons.mpr ⟨by decide, oneLine_append.mpr ⟨ht.oneLine, hlabel⟩⟩
  rw [linkLine, joinLine, oneLine_append]
  exact ⟨hs.oneLine, oneLine_cons.mpr ⟨by decide, oneLine_append.mpr ⟨hsign, htarget⟩⟩⟩

theorem trimmed_linkLine {l : Link} (hs : IsName l.source) (ht : IsName l.target)
    (hl : Trimmed l.label) : Trimmed (linkLine l) := by
  have happend := hs.trimmed.append hs.ne_nil (trimmed_colonLabel ht hl)
    (by simp [ht.ne_nil]) (' ' :: (classSign (some l.relation) ++ [' ']))
  simpa [linkLine, joinLine] using happend

/-- A text under the header of a class diagram is read by the machine, line by line. -/
theorem read_classText {lines : List Text} (hline : ∀ line ∈ lines, OneLine line)
    (hsurvives : ∀ line ∈ lines.map trim, survives line = true) :
    read (unlines ("classDiagram".toList :: lines)) =
      (Machine.run {} (lines.map trim)).draft.finish (some .classDiagram) (some classOrientation) := by
  have htrimmed : trimmedLines (unlines ("classDiagram".toList :: lines)) =
      "classDiagram".toList :: lines.map trim ++ [[]] := by
    rw [trimmedLines_unlines (by decide) (by decide), List.map_cons]
    · rfl
    · intro line hl
      rcases List.mem_cons.mp hl with rfl | hl
      · decide
      · exact hline line hl
  have hsurvivors : survivors ("classDiagram".toList :: lines.map trim ++ [[]]) = lines.map trim := by
    have hheader : survives "classDiagram".toList = true := by decide
    have hempty : survives [] = false := rfl
    rw [survivors, List.cons_append, List.filter_cons_of_pos hheader, List.filter_append,
      List.filter_eq_self.mpr hsurvives, List.filter_cons_of_neg (by simp [hempty])]
    simp [skipHeader]
  have hfirst : firstStatement? ("classDiagram".toList :: lines.map trim ++ [[]]) =
      some "classDiagram".toList := rfl
  have hdirection : flowDirection? "classDiagram".toList = none := by decide
  rw [read]
  dsimp only
  rw [htrimmed, hfirst]
  dsimp only
  rw [hdirection, readLines_eq_finish, hsurvivors]
  rfl

section Text

variable {nodes : List Node} {links : List Link}

/-- The printed lines, trimmed, are those that the machine is run along. -/
theorem map_trim_classDrawing (h : ClassGraph nodes links) :
    ((nodes.map classBox).flatMap Box.classLines ++
        ((links.map stated).map (arrow classSign id)).map Arrow.classLine).map trim =
      nodes.flatMap classStatements ++ links.map linkLine := by
  have hboxes : ((nodes.map classBox).flatMap Box.classLines).map trim =
      nodes.flatMap classStatements := by
    rw [List.flatMap_map, List.map_flatMap]
    exact List.flatMap_congr fun n hn => map_trim_classLines (h.node n hn)
  have harrows : (((links.map stated).map (arrow classSign id)).map Arrow.classLine).map trim =
      links.map linkLine := by
    have hindent : ((links.map stated).map (arrow classSign id)).map Arrow.classLine =
        (links.map linkLine).map ("  ".toList ++ ·) := by
      simp only [List.map_map]
      exact List.map_congr_left fun l _ => classLine_arrow l
    rw [hindent]
    refine map_trim_map_append (by decide) fun line hline => ?_
    obtain ⟨l, hl, rfl⟩ := List.mem_map.mp hline
    have hlink := h.link l hl
    exact trimmed_linkLine (h.isName hlink.source) (h.isName hlink.target) hlink.trimmed
  rw [List.map_append, hboxes, harrows]

theorem oneLine_classDrawing (h : ClassGraph nodes links) :
    ∀ line ∈ (nodes.map classBox).flatMap Box.classLines ++
      ((links.map stated).map (arrow classSign id)).map Arrow.classLine, OneLine line := by
  intro line hline
  rcases List.mem_append.mp hline with hline | hline
  · obtain ⟨box, hbox, hline⟩ := List.mem_flatMap.mp hline
    obtain ⟨n, hn, rfl⟩ := List.mem_map.mp hbox
    exact oneLine_classLines (h.node n hn) line hline
  · obtain ⟨a, ha, rfl⟩ := List.mem_map.mp hline
    obtain ⟨k, hk, rfl⟩ := List.mem_map.mp ha
    obtain ⟨l, hl, rfl⟩ := List.mem_map.mp hk
    have hlink := h.link l hl
    rw [classLine_arrow, oneLine_append]
    exact ⟨by decide, oneLine_linkLine (h.isName hlink.source) (h.isName hlink.target) hlink.oneLine⟩

theorem survives_classDrawing (h : ClassGraph nodes links) :
    ∀ line ∈ nodes.flatMap classStatements ++ links.map linkLine, survives line = true := by
  intro line hline
  rcases List.mem_append.mp hline with hline | hline
  · obtain ⟨n, hn, hline⟩ := List.mem_flatMap.mp hline
    exact survives_classStatements (h.node n hn) line hline
  · obtain ⟨l, hl, rfl⟩ := List.mem_map.mp hline
    exact survives_joinLine (h.isName (h.link l hl).source) (h.link l hl).noNote _ _

theorem read_classDrawing (h : ClassGraph nodes links) :
    read (unlines (classDrawing nodes (links.map stated))) =
      ⟨nodes.map settled, links.filter (fun l => l.source ≠ l.target), some .classDiagram,
        some classOrientation, []⟩ := by
  have hrun : Machine.run {} (nodes.flatMap classStatements ++ links.map linkLine) =
      ⟨.top, ⟨nodes.map settled, links.filter (fun l => l.source ≠ l.target), []⟩⟩ := by
    rw [Machine.run_append, run_nodeLines h.node h.nodup (by simp [Draft.ids]),
      run_linkLines (fun id hid => h.isName hid) h.link]
    · simp
    · simp [Draft.ids, settled]
  rw [classDrawing, read_classText (oneLine_classDrawing h), map_trim_classDrawing h, hrun]
  · rfl
  · rw [map_trim_classDrawing h]
    exact survives_classDrawing h

theorem ofDiagram_read_classDrawing (h : ClassGraph nodes links) :
    ofDiagram (read (unlines (classDrawing nodes (links.map stated)))) =
      ofDiagram { nodes, links := links.filter (fun l => l.source ≠ l.target) } := by
  have hnodes : (nodes.map settled).map ofNode = nodes.map ofNode := by
    rw [List.map_map]
    exact List.map_congr_left fun n hn => ofNode_settled (h.node n hn).name.ne_nil
  rw [read_classDrawing h, ofDiagram, ofDiagram, hnodes]

theorem ClassGraph.ends_ne_nil (h : ClassGraph nodes links) :
    ∀ l ∈ links.map stated, l.source ≠ [] ∧ l.target ≠ [] := by
  intro k hk
  obtain ⟨l, hl, rfl⟩ := List.mem_map.mp hk
  exact ⟨(h.isName (h.link l hl).source).ne_nil, (h.isName (h.link l hl).target).ne_nil⟩

/-- A graph that a class diagram can express is printed as one. -/
theorem ClassGraph.write_eq (h : ClassGraph nodes links) {document : Json.Value}
    (hdocument : Describes document nodes (links.map stated)) (orientation : Text) :
    write document (some .classDiagram) orientation =
      .ok (unlines (classDrawing nodes (links.map stated))) :=
  write_classDiagram hdocument (fun n hn => (h.node n hn).name.ne_nil) h.ends_ne_nil orientation

/-- A graph that a class diagram can express, written as one and read
again, is the same graph without the links from a class to itself. -/
theorem ofDiagram_read_classDiagram {document : Json.Value}
    (hdocument : Describes document nodes (links.map stated)) (h : ClassGraph nodes links)
    (orientation : Text) :
    ∃ t, write document (some .classDiagram) orientation = .ok t ∧
      ofDiagram (read t) =
        ofDiagram { nodes := nodes, links := links.filter (fun l => l.source ≠ l.target) } ∧
      Describes (ofDiagram (read t)) nodes
        ((links.filter (fun l => l.source ≠ l.target)).map stated) := by
  have hsame := ofDiagram_read_classDrawing h
  exact ⟨_, h.write_eq hdocument orientation, hsame, describes_of_eq_ofDiagram hsame⟩

end Text

/-- A label and a link label full of glyphs, and a member that looks like
a relationship, come back. -/
theorem ofDiagram_read_classDiagram_glyphs :
    let nodes : List Node :=
      [⟨"A".toList, "o-- <|-- \x7b x".toList, ["B *-- C".toList], some "<<s".toList⟩,
       ⟨"class".toList, [], [], none⟩]
    let links : List Link :=
      [⟨"A".toList, "class".toList, .link, "<|-- : --o".toList⟩,
       ⟨"class".toList, "class".toList, .association, []⟩]
    ClassGraph nodes links ∧
      ∃ t, write (ofDiagram { nodes, links }) (some .classDiagram) [] = .ok t ∧
        ofDiagram (read t) = ofDiagram { nodes, links := links.take 1 } ∧
        Describes (ofDiagram (read t)) nodes ((links.take 1).map stated) := by
  intro nodes links
  have hgraph : ClassGraph nodes links := by decide +kernel
  exact ⟨hgraph, ofDiagram_read_classDiagram (describes_ofDiagram { nodes, links }) hgraph []⟩

end DiagramGraph.Mermaid
