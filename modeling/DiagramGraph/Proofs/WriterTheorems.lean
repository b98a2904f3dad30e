/-
DiagramGraph.Proofs.WriterTheorems — what the Mermaid writer makes of a
document that describes a graph.

  §1 Documents  — `Describes`: a document describes a graph if its lists
                  hold a record for each node and each link, in order.
                  Neither the order of fields nor fields that no printer
                  asks for matter.
  §2 Drawings   — the boxes and arrows of such a document.
  §3 Texts      — `write` succeeds on it and prints the lines of its
                  drawing (`write_classDiagram`, `write_flowchart`), and
                  a reader gets these lines back, trimmed
                  (`trimmedLines_unlines`). The dialect that is needed is
                  read off the graph (`neededDialect_eq`).
-/
import DiagramGraph.Mermaid.Writer
import DiagramGraph.Proofs.DraftTheorems
import DiagramGraph.Proofs.LabelTheorems
import Mathlib.Data.List.Forall2

namespace DiagramGraph.Document

open Json

/-! ## §1 Documents -/

/-- A link as a document states it. The relation is missing if the type
of the link names none. -/
structure StatedLink where
  source : Text
  target : Text
  relation : Option Relation
  label : Text
  deriving DecidableEq, Repr

/-- A link as a document of its graph states it. -/
def stated (l : Link) : StatedLink := ⟨l.source, l.target, some l.relation, l.label⟩

/-- The record of a node. -/
structure DescribesNode (v : Value) (n : Node) : Prop where
  id : field v "id".toList = .ok (.str n.id)
  label : field v "label".toList = .ok (.str n.caption)
  members : field v "members".toList = .ok (.arr (n.members.map .str))
  stereotype : field v "stereotype".toList =
    .ok (match n.stereotype with | some s => .str s | none => .null)

/-- The record of a link. -/
structure DescribesLink (v : Value) (l : StatedLink) : Prop where
  source : field v "source".toList = .ok (.str l.source)
  target : field v "target".toList = .ok (.str l.target)
  relation : linkRelation v = .ok l.relation
  label : field v "label".toList = .ok (.str l.label)

/-- The document describes the graph of these nodes and links. -/
structure Describes (v : Value) (nodes : List Node) (links : List StatedLink) : Prop where
  nodes : ∃ vs, listField v "nodes".toList = .ok vs ∧ List.Forall₂ DescribesNode vs nodes
  links : ∃ vs, listField v "links".toList = .ok vs ∧ List.Forall₂ DescribesLink vs links

theorem describesNode_ofNode (n : Node) : DescribesNode (ofNode n) n := by
  constructor <;> rfl

theorem describesLink_ofLink (l : Link) : DescribesLink (ofLink l) (stated l) := by
  refine ⟨rfl, rfl, ?_, rfl⟩
  have hfield : field (ofLink l) "type".toList = .ok (.str l.relation.name) := rfl
  simp only [linkRelation, hfield, lookupName, Except.map, Option.bind_some,
    Relation.ofName?_name, stated]

/-- The document of a graph describes it. -/
theorem describes_ofDiagram (d : Diagram) :
    Describes (ofDiagram d) d.nodes (d.links.map stated) := by
  refine ⟨⟨_, rfl, ?_⟩, ⟨_, rfl, ?_⟩⟩
  · rw [List.forall₂_map_left_iff]
    exact List.forall₂_same.mpr fun n _ => describesNode_ofNode n
  · rw [List.forall₂_map_left_iff, List.forall₂_map_right_iff]
    exact List.forall₂_same.mpr fun l _ => describesLink_ofLink l

theorem describes_of_eq_ofDiagram {v : Value} {d : Diagram} (h : v = ofDiagram d) :
    Describes v d.nodes (d.links.map stated) := by
  rw [h]
  exact describes_ofDiagram d

@[simp] theorem textOrEmpty_str (t : Text) : textOrEmpty (.str t) = .ok t := by
  cases t <;> rfl

/-- What is made of a list, given what is made of each item. -/
theorem mapM_eq_ok {α β : Type} {describes : Value → β → Prop} {vs : List Value} {xs : List β}
    {make : Value → Except Fault α} {f : β → α} (hvs : List.Forall₂ describes vs xs)
    (hmake : ∀ v x, x ∈ xs → describes v x → make v = .ok (f x)) :
    vs.mapM make = .ok (xs.map f) := by
  induction hvs with
  | nil => rfl
  | cons hv _ ih =>
    rw [List.mapM_cons, hmake _ _ (by simp) hv,
      ih fun v x hx => hmake v x (List.mem_cons_of_mem _ hx)]
    rfl

theorem mapM_map_eq_ok {α β : Type} {record : β → Value} {xs : List β}
    {make : Value → Except Fault α} {f : β → α} (h : ∀ x ∈ xs, make (record x) = .ok (f x)) :
    (xs.map record).mapM make = .ok (xs.map f) := by
  have hrecords : List.Forall₂ (fun v x => v = record x) (xs.map record) xs :=
    List.forall₂_map_left_iff.mpr (List.forall₂_same.mpr fun _ _ => rfl)
  refine mapM_eq_ok hrecords fun v x hx hv => ?_
  rw [hv]
  exact h x hx

end DiagramGraph.Document

namespace DiagramGraph.Mermaid

open Text Json Document Label

/-! ## §2 Drawings -/

/-- The label that is drawn: the caption, unless it is the identifier. -/
def drawnLabel (n : Node) : Option Text := if n.caption = n.id then none else some (quotable n.caption)

/-- The box of a node in a class diagram. -/
def classBox (n : Node) : Box :=
  ⟨n.id, drawnLabel n, n.stereotype.filter (fun s => !s.isEmpty), n.members⟩

/-- The box of a node in a flowchart. -/
def flowBox (n : Node) : Box := ⟨n.id, drawnLabel n, none, []⟩

/-- The arrow of a link, given the glyph of a relation and what becomes
of its label. -/
def arrow (glyph : Option Relation → Text) (labelText : Text → Text) (l : StatedLink) : Arrow :=
  ⟨l.source, l.target, glyph l.relation, if l.label = [] then none else some (labelText l.label)⟩

theorem quotable_eq_self {t : Text} (h : PlainLabel t) : quotable t = t := by
  rw [quotable, replaceChar_eq_self h.noQuote, replaceChar_eq_self h.squeezed.oneLine.1]

theorem quote_not_mem_quotable (t : Text) : '"' ∉ quotable t := by
  simp [quotable, mem_replaceChar]

/-- Only a carriage return can take a quotable label out of its line. -/
theorem oneLine_quotable_iff {t : Text} : OneLine (quotable t) ↔ '\r' ∉ t := by
  simp [OneLine, quotable, mem_replaceChar]

section Label

variable {n : Node}

theorem quote_not_mem_drawnLabel {t : Text} (h : t ∈ drawnLabel n) : '"' ∉ t := by
  unfold drawnLabel at h
  split at h
  · simp at h
  · obtain rfl := Option.mem_some.mp h
    exact quote_not_mem_quotable _

/-- The label that is drawn is the caption as it is. -/
theorem drawnLabel_eq (h : n.caption = n.id ∨ PlainLabel n.caption) :
    drawnLabel n = if n.caption = n.id then none else some n.caption := by
  unfold drawnLabel
  split
  · rfl
  · next hne => rw [quotable_eq_self (h.resolve_left hne)]

theorem plainLabel_of_mem_drawnLabel (h : n.caption = n.id ∨ PlainLabel n.caption) :
    ∀ t ∈ drawnLabel n, PlainLabel t := by
  intro t ht
  rw [drawnLabel_eq h] at ht
  split at ht
  · simp at ht
  · next hne =>
    obtain rfl : n.caption = t := by simpa using ht
    exact h.resolve_left hne

/-- The node as it is read: a caption that is the identifier was not printed. -/
def settled (n : Node) : Node :=
  { n with label := if n.caption = n.id then [] else n.caption }

theorem clean_drawnLabel (h : n.caption = n.id ∨ PlainLabel n.caption) :
    clean ((drawnLabel n).getD []) = (settled n).label := by
  rw [drawnLabel_eq h, settled]
  split
  · rfl
  · next hne => exact (h.resolve_left hne).clean_eq

theorem ofNode_settled (h : n.id ≠ []) : ofNode (settled n) = ofNode n := by
  have hcaption : (settled n).caption = n.caption := by
    by_cases he : n.caption = n.id
    · have hlabel : (settled n).label = [] := if_pos he
      rw [he, Node.caption, hlabel]
      rfl
    · have hlabel : (settled n).label = n.caption := if_neg he
      rw [Node.caption, hlabel, if_neg (by simpa using Node.caption_ne_nil h)]
  rw [ofNode, ofNode, hcaption]
  rfl

end Label

theorem isTruthy_str {t : Text} (h : t ≠ []) : (Value.str t).isTruthy = true := by
  simpa [Value.isTruthy] using h

theorem ownLabel_eq {v : Value} {n : Node} (h : DescribesNode v n) (hid : n.id ≠ []) :
    ownLabel v (.str n.id) = .ok (drawnLabel n) := by
  have hcap := isTruthy_str (Node.caption_ne_nil hid)
  have hequals : (Value.str n.caption).equals (.str n.id) = decide (n.caption = n.id) := by
    simp [Value.equals, Value.sameContents]
  unfold ownLabel drawnLabel
  rw [h.label]
  simp only [bind, Except.bind, pure, Except.pure, hcap, hequals, textOrEmpty, if_true,
    Bool.true_and]
  by_cases he : n.caption = n.id
  · simp only [he, decide_true, Bool.not_true, Bool.false_eq_true, if_false, if_true]
  · simp only [he, decide_false, Bool.not_false, if_true, if_false]

theorem classBox?_eq {v : Value} {n : Node} (h : DescribesNode v n) (hid : n.id ≠ []) :
    classBox? v = .ok (some (classBox n)) := by
  have hdisplay : (n.members.map Value.str).map display = n.members := by
    rw [List.map_map]
    exact List.map_id' n.members
  have hstereotype {s : Value}
      (hs : s = match n.stereotype with | some s => .str s | none => .null) :
      (if s.isTruthy = true then some (display s) else none) =
        n.stereotype.filter (fun s => !s.isEmpty) := by
    subst hs
    cases n.stereotype with
    | none => rfl
    | some s => cases s <;> rfl
  unfold classBox?
  simp only [h.id, h.members, h.stereotype, bind, Except.bind, pure, Except.pure,
    isTruthy_str hid, ownLabel_eq h hid, hstereotype rfl, if_true]
  cases hm : n.members with
  | nil => simp [Value.isTruthy, classBox, hm, display]
  | cons m ms =>
    rw [hm] at hdisplay
    simp only [Value.isTruthy, List.map_cons, List.isEmpty_cons, Bool.not_false, if_true, items,
      classBox, hm]
    rw [← List.map_cons, ← List.map_cons, hdisplay]
    rfl

theorem flowBox?_eq {v : Value} {n : Node} (h : DescribesNode v n) (hid : n.id ≠ []) :
    flowBox? v = .ok (some (flowBox n)) := by
  unfold flowBox?
  simp only [h.id, bind, Except.bind, pure, Except.pure, isTruthy_str hid, ownLabel_eq h hid,
    if_true, flowBox, display]

theorem arrow?_eq {v : Value} {l : StatedLink} (h : DescribesLink v l) (hs : l.source ≠ [])
    (ht : l.target ≠ []) (glyph : Option Relation → Text) {labelText : Value → Except Fault Text}
    {text : Text → Text} (hl : ∀ t, t ≠ [] → labelText (.str t) = .ok (text t)) :
    arrow? glyph labelText v = .ok (some (arrow glyph text l)) := by
  unfold arrow?
  simp only [h.source, h.target, h.relation, h.label, bind, Except.bind, pure, Except.pure,
    isTruthy_str hs, isTruthy_str ht, Bool.and_self, if_true, arrow, display]
  by_cases he : l.label = []
  · simp only [he]
    rfl
  · simp only [he, isTruthy_str he, hl l.label he, Except.map, if_true, if_false]

theorem classArrow?_eq {v : Value} {l : StatedLink} (h : DescribesLink v l) (hs : l.source ≠ [])
    (ht : l.target ≠ []) : classArrow? v = .ok (some (arrow classSign id l)) :=
  arrow?_eq h hs ht classSign fun _ _ => rfl

/-- A link label as it stands between bars. -/
def barred (t : Text) : Text := replaceChar '|' '/' (quotable t)

theorem bar_not_mem_barred (t : Text) : '|' ∉ barred t := by
  simp [barred, mem_replaceChar]

theorem oneLine_barred_iff {t : Text} : OneLine (barred t) ↔ '\r' ∉ t := by
  rw [← oneLine_quotable_iff]
  simp [OneLine, barred, mem_replaceChar]

theorem flowArrow?_eq {v : Value} {l : StatedLink} (h : DescribesLink v l) (hs : l.source ≠ [])
    (ht : l.target ≠ []) : flowArrow? v = .ok (some (arrow flowSign barred l)) := by
  refine arrow?_eq h hs ht flowSign fun t hne => ?_
  simp only [textOrEmpty, isTruthy_str hne, if_true, Except.map, barred]

/-- What is drawn of a list, given what is drawn of each item. -/
theorem drawn_eq {α β : Type} {describes : Value → β → Prop} {document : Value} {key : Text}
    {vs : List Value} {xs : List β} {draw : Value → Except Fault (Option α)} {f : β → α}
    (hlist : listField document key = .ok vs) (hvs : List.Forall₂ describes vs xs)
    (hdraw : ∀ v x, x ∈ xs → describes v x → draw v = .ok (some (f x))) :
    drawn document key draw = .ok (xs.map f) := by
  have hmap : vs.mapM draw = .ok (xs.map fun x => some (f x)) := mapM_eq_ok hvs hdraw
  unfold drawn
  simp only [hlist, hmap, bind, Except.bind, pure, Except.pure, List.filterMap_map]
  simp

/-! ## §3 Texts -/

/-- The lines of a class diagram of the graph. -/
def classDrawing (nodes : List Node) (links : List StatedLink) : List Text :=
  "classDiagram".toList :: ((nodes.map classBox).flatMap Box.classLines ++
    (links.map (arrow classSign id)).map Arrow.classLine)

/-- The lines of a flowchart of the graph. -/
def flowDrawing (orientation : Text) (nodes : List Node) (links : List StatedLink) : List Text :=
  ("flowchart ".toList ++ (Rank.ofOrientation orientation).name) ::
    ((nodes.map flowBox).map Box.flowLine ++
      (links.map (arrow flowSign barred)).map Arrow.flowLine)

section Written

variable {v : Value} {boxes : List Box} {arrows : List Arrow}

/-- A class diagram is printed from its boxes and arrows. -/
theorem write_of_classBoxes (hboxes : drawn v "nodes".toList classBox? = .ok boxes)
    (harrows : drawn v "links".toList classArrow? = .ok arrows) (orientation : Text) :
    write v (some .classDiagram) orientation = .ok (unlines
      ("classDiagram".toList :: (boxes.flatMap Box.classLines ++ arrows.map Arrow.classLine))) := by
  simp only [write, writeIn, classLines, hboxes, harrows, bind, Except.bind, pure, Except.pure]

/-- A flowchart is printed from its boxes and arrows. -/
theorem write_of_flowBoxes (hboxes : drawn v "nodes".toList flowBox? = .ok boxes)
    (harrows : drawn v "links".toList flowArrow? = .ok arrows) (orientation : Text) :
    write v (some .flowchart) orientation = .ok (unlines
      (("flowchart ".toList ++ (Rank.ofOrientation orientation).name) ::
        (boxes.map Box.flowLine ++ arrows.map Arrow.flowLine))) := by
  simp only [write, writeIn, flowLines, textOrEmpty_str, hboxes, harrows, bind, Except.bind, pure,
    Except.pure]

variable {nodes : List Node} {links : List StatedLink} {ls : List Value}

theorem drawn_classArrow? (hls : listField v "links".toList = .ok ls)
    (hlinks : List.Forall₂ DescribesLink ls links)
    (hl : ∀ l ∈ links, l.source ≠ [] ∧ l.target ≠ []) :
    drawn v "links".toList classArrow? = .ok (links.map (arrow classSign id)) :=
  drawn_eq hls hlinks fun _ l hm hv => classArrow?_eq hv (hl l hm).1 (hl l hm).2

theorem drawn_flowArrow? (hls : listField v "links".toList = .ok ls)
    (hlinks : List.Forall₂ DescribesLink ls links)
    (hl : ∀ l ∈ links, l.source ≠ [] ∧ l.target ≠ []) :
    drawn v "links".toList flowArrow? = .ok (links.map (arrow flowSign barred)) :=
  drawn_eq hls hlinks fun _ l hm hv => flowArrow?_eq hv (hl l hm).1 (hl l hm).2

theorem write_classDiagram (h : Describes v nodes links) (hn : ∀ n ∈ nodes, n.id ≠ [])
    (hl : ∀ l ∈ links, l.source ≠ [] ∧ l.target ≠ []) (orientation : Text) :
    write v (some .classDiagram) orientation = .ok (unlines (classDrawing nodes links)) := by
  obtain ⟨ns, hns, hnodes⟩ := h.nodes
  obtain ⟨ls, hls, hlinks⟩ := h.links
  have hboxes := drawn_eq (f := classBox) hns hnodes fun v n hm hv => classBox?_eq hv (hn n hm)
  exact write_of_classBoxes hboxes (drawn_classArrow? hls hlinks hl) orientation

theorem write_flowchart (h : Describes v nodes links) (hn : ∀ n ∈ nodes, n.id ≠ [])
    (hl : ∀ l ∈ links, l.source ≠ [] ∧ l.target ≠ []) (orientation : Text) :
    write v (some .flowchart) orientation =
      .ok (unlines (flowDrawing orientation nodes links)) := by
  obtain ⟨ns, hns, hnodes⟩ := h.nodes
  obtain ⟨ls, hls, hlinks⟩ := h.links
  have hboxes := drawn_eq (f := flowBox) hns hnodes fun v n hm hv => flowBox?_eq hv (hn n hm)
  exact write_of_flowBoxes hboxes (drawn_flowArrow? hls hlinks hl) orientation

end Written

/-- What is said of some item of a list, given what is said of each. -/
theorem anyM_eq_ok {β : Type} {describes : Value → β → Prop} {vs : List Value} {xs : List β}
    {test : Value → Except Fault Bool} {p : β → Bool} (hvs : List.Forall₂ describes vs xs)
    (htest : ∀ v x, describes v x → test v = .ok (p x)) : vs.anyM test = .ok (xs.any p) := by
  induction hvs with
  | nil => rfl
  | cons hv _ ih =>
    rw [List.anyM_cons, htest _ _ hv, ih, List.any_cons]
    cases p _ <;> rfl

/-- Does the node have members or a stereotype that says anything? -/
def bodied (n : Node) : Bool := !n.members.isEmpty || n.stereotype.any (fun s => !s.isEmpty)

theorem hasBody_eq {v : Value} {n : Node} (h : DescribesNode v n) :
    hasBody v = .ok (bodied n) := by
  unfold hasBody bodied
  simp only [h.members, h.stereotype, bind, Except.bind, pure, Except.pure, Value.isTruthy,
    List.isEmpty_map]
  cases n.stereotype <;> rfl

/-- A class diagram is needed where a node has a body or a link is of a
relation that only a class diagram can express. -/
theorem neededDialect_eq {v : Value} {nodes : List Node} {links : List StatedLink}
    (h : Describes v nodes links) :
    neededDialect v = .ok (if nodes.any bodied || links.any (fun l => l.relation.any isClassRelation)
      then .classDiagram else .flowchart) := by
  obtain ⟨ns, hns, hnodes⟩ := h.nodes
  obtain ⟨ls, hls, hlinks⟩ := h.links
  have hbodies := anyM_eq_ok (p := bodied) hnodes fun v n hv => hasBody_eq hv
  have hclass : ls.anyM isClassLink =
      .ok (links.any fun l => l.relation.any isClassRelation) :=
    anyM_eq_ok hlinks fun v l hv => by rw [isClassLink, hv.relation]; rfl
  simp only [neededDialect, hns, hls, hbodies, hclass, bind, Except.bind, pure, Except.pure]
  cases nodes.any bodied <;> cases links.any (fun l => l.relation.any isClassRelation) <;> rfl

theorem splitOn_unlines : ∀ {lines : List Text}, (∀ line ∈ lines, '\n' ∉ line) →
    (unlines lines).splitOn '\n' = lines ++ [[]]
  | [], _ => rfl
  | line :: rest, h => by
      have hcons : unlines (line :: rest) = line ++ '\n' :: unlines rest := by
        simp [unlines]
      rw [hcons, List.splitOn_append_cons_self_of_not_mem (h line (by simp)),
        splitOn_unlines fun l hl => h l (List.mem_cons_of_mem line hl)]
      rfl

theorem return_not_mem_unlines {lines : List Text} (h : ∀ line ∈ lines, OneLine line) :
    '\r' ∉ unlines lines := by
  intro hm
  obtain ⟨line, hline, hc⟩ := List.mem_flatMap.mp hm
  rcases List.mem_append.mp hc with hc | hc
  · exact (h line hline).2 hc
  · simp at hc

/-- A reader gets printed lines back, trimmed, and an empty one after the
last line end. -/
theorem trimmedLines_unlines {first : Text} {lines : List Text}
    (hmark : first.head? ≠ some '\uFEFF') (hne : first ≠ [])
    (h : ∀ line ∈ first :: lines, OneLine line) :
    trimmedLines (unlines (first :: lines)) = (first :: lines).map trim ++ [[]] := by
  have hkeep : dropMark (unlines (first :: lines)) = unlines (first :: lines) := by
    obtain ⟨c, t, rfl⟩ := List.exists_cons_of_ne_nil hne
    exact if_neg fun hc => hmark (congrArg some hc)
  rw [trimmedLines, unifyNewlines_eq_self (return_not_mem_unlines h), hkeep,
    splitOn_unlines fun line hl => (h line hl).1, List.map_append]
  rfl

end DiagramGraph.Mermaid
