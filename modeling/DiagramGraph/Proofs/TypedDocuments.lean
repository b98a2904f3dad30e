/-
DiagramGraph.Proofs.TypedDocuments — documents whose fields are of the
right kind are printed, whatever they leave out.

The printers are written against values of any kind and look at them when
they use them. Here the fields of a document are of the kind that is meant
for them: a text or null, or a list of those. They may also be absent, and
a record may have other fields of any kind.

  §1 Types       — `TypedDocument`, and the nodes and links that such a
                   document lists (`nodeOf`, `linkOf`). What is absent or
                   null is empty there.
  §2 Statements  — a node with an identifier and a link with both ends
                   become the statement of that node or link, any other
                   one becomes none.
  §3 Printing    — the main statement, `write_typedDocument`: the document
                   is valid, and has a text in DOT, with these statements
                   in order, and in both dialects of Mermaid.
-/
import DiagramGraph.Proofs.DotFaithful
import DiagramGraph.Proofs.NeededDialect
import DiagramGraph.Proofs.PrinterDomain

namespace DiagramGraph.Document

open Json

/-! ## §1 Types -/

/-- A text, or null. -/
inductive IsText : Value → Prop
  | null : IsText .null
  | str (t : Text) : IsText (.str t)

/-- A list of texts and nulls, or null. -/
inductive AreTexts : Value → Prop
  | null : AreTexts .null
  | arr {vs : List Value} (h : ∀ v ∈ vs, IsText v) : AreTexts (.arr vs)

/-- The fields of a node are of the right kind, if they are there. -/
structure TypedNode (fs : Fields) : Prop where
  id : IsText (valueAt fs "id")
  label : IsText (valueAt fs "label")
  stereotype : IsText (valueAt fs "stereotype")
  members : AreTexts (valueAt fs "members")

/-- The fields of a link are of the right kind, if they are there. -/
structure TypedLink (fs : Fields) : Prop where
  source : IsText (valueAt fs "source")
  target : IsText (valueAt fs "target")
  type : IsText (valueAt fs "type")
  label : IsText (valueAt fs "label")

/-- The document lists these records as its nodes and links, with fields
of the right kind. -/
structure TypedDocument (v : Value) (nodes links : List Fields) : Prop where
  lists : Lists v (nodes.map .obj) (links.map .obj)
  node : ∀ fs ∈ nodes, TypedNode fs
  link : ∀ fs ∈ links, TypedLink fs

/-- The text that a value is, if it is one. -/
def text? : Value → Option Text
  | .str t => some t
  | _ => none

/-- The text that a value is, empty if it is none. -/
def textOf (v : Value) : Text := (text? v).getD []

/-- The texts of a list. -/
def textsOf : Value → List Text
  | .arr vs => vs.map textOf
  | _ => []

/-- The node that a record describes. -/
def nodeOf (fs : Fields) : Node where
  id := textOf (valueAt fs "id")
  label := textOf (valueAt fs "label")
  members := textsOf (valueAt fs "members")
  stereotype := text? (valueAt fs "stereotype")

/-- The link that a record describes. Its type may be written in capitals,
and is a plain link if it names no relation. -/
def linkOf (fs : Fields) : Link where
  source := textOf (valueAt fs "source")
  target := textOf (valueAt fs "target")
  relation := (Relation.ofName? (Text.lower (textOf (valueAt fs "type")))).getD .link
  label := textOf (valueAt fs "label")

section IsText

variable {v : Value} (h : IsText v)
include h

theorem IsText.textOrEmpty_eq : textOrEmpty v = .ok (textOf v) := by
  cases h with
  | null => rfl
  | str t => exact textOrEmpty_str t

theorem IsText.textOrNothing : TextOrNothing v := succeeds_textOrEmpty.mp ⟨_, h.textOrEmpty_eq⟩

theorem IsText.isKey : IsKey v := by
  cases h with
  | null => exact .null
  | str t => exact .str t

/-- A text says something unless it is empty. -/
theorem IsText.isTruthy_iff : v.isTruthy = true ↔ textOf v ≠ [] := by
  cases h with
  | null => simp [Value.isTruthy, textOf, text?]
  | str t => simp [Value.isTruthy, textOf, text?]

theorem IsText.eq_str_of_ne_nil (hne : textOf v ≠ []) : v = .str (textOf v) := by
  cases h with
  | null => exact absurd rfl hne
  | str t => rfl

end IsText

theorem mapM_textOrEmpty {vs : List Value} (h : ∀ v ∈ vs, IsText v) :
    vs.mapM textOrEmpty = .ok (vs.map textOf) := by
  have hmap : (vs.map id).mapM textOrEmpty = .ok (vs.map textOf) :=
    mapM_map_eq_ok fun v hv => (h v hv).textOrEmpty_eq
  rwa [List.map_id] at hmap

/-- The members of a node are the items of a list of texts. -/
theorem AreTexts.exists_memberItems {v : Value} (h : AreTexts v) :
    ∃ ms, memberItems v = .ok ms ∧ (∀ m ∈ ms, IsText m) ∧ ms.map textOf = textsOf v := by
  cases h with
  | null => exact ⟨[], rfl, by simp, rfl⟩
  | @arr vs hvs => cases vs with
    | nil => exact ⟨[], rfl, by simp, rfl⟩
    | cons m ms => exact ⟨m :: ms, rfl, hvs, rfl⟩

end DiagramGraph.Document

namespace DiagramGraph.Dot

open Text Json Document

/-! ## §2 Statements -/

/-- Before the members stand the stereotype, if it says anything, and the
caption. -/
theorem frontLines_typed {fs : Fields} (h : TypedNode fs) (hid : (nodeOf fs).id ≠ []) :
    frontLines fs = (stereotypeLines (nodeOf fs) ++ [(nodeOf fs).caption]).map .str := by
  have hstereotype : (if (valueAt fs "stereotype").isTruthy then
      [Value.str ('«' :: display (valueAt fs "stereotype") ++ ['»'])] else []) =
      (stereotypeLines (nodeOf fs)).map .str := by
    have htext := h.stereotype
    unfold stereotypeLines nodeOf
    generalize valueAt fs "stereotype" = v at htext
    cases htext with
    | null => rfl
    | str t => cases t <;> rfl
  have hcaption : (if (valueAt fs "label").isTruthy then valueAt fs "label"
      else (fs.get? "id".toList).getD (.str [])) = .str (nodeOf fs).caption := by
    rw [getD_of_valueAt (h.id.eq_str_of_ne_nil hid)]
    have htext := h.label
    unfold Node.caption nodeOf
    generalize valueAt fs "label" = v at htext
    cases htext with
    | null => rfl
    | str t => cases t <;> rfl
  rw [frontLines, hstereotype, hcaption, List.map_append]
  rfl

theorem nodeStatement?_typed {fs : Fields} (h : TypedNode fs) :
    nodeStatement? (.obj fs) =
      .ok (if (nodeOf fs).id ≠ [] then some (.ofNode (nodeOf fs)) else none) := by
  rw [nodeStatement?_obj]
  by_cases hid : (nodeOf fs).id ≠ []
  · obtain ⟨ms, hms, htexts, hmembers⟩ := h.members.exists_memberItems
    have hlines : (frontLines fs ++ ms).mapM textOrEmpty = .ok (shown (nodeOf fs)) := by
      have hall : ∀ v ∈ frontLines fs ++ ms, IsText v := by
        rw [frontLines_typed h hid]
        intro v hv
        rcases List.mem_append.mp hv with hv | hv
        · obtain ⟨t, -, rfl⟩ := List.mem_map.mp hv
          exact .str t
        · exact htexts v hv
      have hfront : (frontLines fs).map textOf =
          stereotypeLines (nodeOf fs) ++ [(nodeOf fs).caption] := by
        rw [frontLines_typed h hid, List.map_map]
        exact List.map_id' _
      rw [mapM_textOrEmpty hall, List.map_append, hfront, hmembers, List.append_assoc]
      rfl
    have hname : asIdentifier (valueAt fs "id") = .ok (nodeOf fs).id := by
      rw [h.id.eq_str_of_ne_nil hid]
      rfl
    rw [if_pos (h.id.isTruthy_iff.mpr hid), if_pos hid, hms, hname]
    simp only [hlines, bind, Except.bind, pure, Except.pure, Statement.ofNode]
  · rw [if_neg (mt h.id.isTruthy_iff.mp hid), if_neg hid]

theorem edgeStatement?_typed {fs : Fields} (h : TypedLink fs) :
    edgeStatement? (.obj fs) =
      .ok (if (linkOf fs).source ≠ [] ∧ (linkOf fs).target ≠ [] then some (.ofLink (linkOf fs))
        else none) := by
  have hends : ((valueAt fs "source").isTruthy && (valueAt fs "target").isTruthy) = true ↔
      (linkOf fs).source ≠ [] ∧ (linkOf fs).target ≠ [] := by
    rw [Bool.and_eq_true, h.source.isTruthy_iff, h.target.isTruthy_iff]
    rfl
  rw [edgeStatement?_obj]
  by_cases hboth : (linkOf fs).source ≠ [] ∧ (linkOf fs).target ≠ []
  · have htail : asEndpoint (valueAt fs "source") = .ok (linkOf fs).source := by
      rw [h.source.eq_str_of_ne_nil hboth.1]
      rfl
    have hhead : asEndpoint (valueAt fs "target") = .ok (linkOf fs).target := by
      rw [h.target.eq_str_of_ne_nil hboth.2]
      rfl
    have hlabel : (if (linkOf fs).label.isEmpty then none else some (escapeLine (linkOf fs).label)) =
        (labelLines? (linkOf fs)).map escapeLines := by
      unfold labelLines?
      simp only [List.isEmpty_iff, escapeLine_eq]
      split <;> rfl
    rw [if_pos (hends.mpr hboth), if_pos hboth, htail, hhead, Statement.ofLink, ← hlabel]
    simp only [h.type.textOrEmpty_eq, h.label.textOrEmpty_eq, bind, Except.bind, pure, Except.pure]
    rfl
  · rw [if_neg (mt hends.mp hboth), if_neg hboth]

/-- The statements of nodes with an identifier and of links with both
ends, in order. -/
def typedStatements (nodes links : List Fields) : List Statement :=
  ((nodes.map nodeOf).filter (fun n => n.id ≠ [])).map .ofNode ++
    ((links.map linkOf).filter (fun l => l.source ≠ [] ∧ l.target ≠ [])).map .ofLink

/-- What is left of a list when some of its items become nothing. -/
theorem filterMap_map_ite {α β γ : Type} (make : α → β) {p : β → Prop} [DecidablePred p]
    {f : β → γ} (xs : List α) :
    (xs.map fun x => if p (make x) then some (f (make x)) else none).filterMap id =
      ((xs.map make).filter (fun b => p b)).map f := by
  induction xs with
  | nil => rfl
  | cons x xs ih => by_cases hp : p (make x) <;> simpa [hp] using ih

theorem statements_typed {v : Value} {nodes links : List Fields} (h : TypedDocument v nodes links) :
    statements v = .ok (typedStatements nodes links) := by
  obtain ⟨hnodes, hlinks⟩ := h.lists.listField
  have hns := mapM_map_eq_ok fun fs hfs => nodeStatement?_typed (h.node fs hfs)
  have hes := mapM_map_eq_ok fun fs hfs => edgeStatement?_typed (h.link fs hfs)
  simp only [statements, hnodes, hlinks, hns, hes, bind, Except.bind, pure, Except.pure,
    List.filterMap_append]
  rw [filterMap_map_ite (p := fun n : Node => n.id ≠ []) (f := Statement.ofNode),
    filterMap_map_ite (p := fun l : Link => l.source ≠ [] ∧ l.target ≠ []) (f := Statement.ofLink)]
  rfl

/-- The graph of a typed document, under any name. -/
theorem ofDocument_typed {v : Value} {nodes links : List Fields} (h : TypedDocument v nodes links)
    (name orientation : Text) :
    ofDocument v (.str name) (.str orientation) =
      .ok ⟨name, Rank.ofOrientation orientation, typedStatements nodes links⟩ := by
  have hfields : Succeeds (fields v) := by
    obtain ⟨fs, rfl, -⟩ := h.lists
    exact succeeds_ok fs
  obtain ⟨fs, hfields⟩ := hfields
  have hname : graphName (.str name) = .ok name := by
    cases name <;> rfl
  simp only [ofDocument, hfields, statements_typed h, hname, textOrEmpty_str, bind, Except.bind, pure,
    Except.pure]

end DiagramGraph.Dot

namespace DiagramGraph.Mermaid

open Json Document

/-! ## §3 Printing -/

section Typed

variable {v : Value} {nodes links : List Fields} (h : TypedDocument v nodes links)
include h

theorem showsNode_of_typed : ∀ w ∈ nodes.map Value.obj,
    Record (fun fs => ShowsLabel fs ∧ ShowsMembers fs) w := by
  intro w hw
  obtain ⟨fs, hfs, rfl⟩ := List.mem_map.mp hw
  obtain ⟨ms, hms, -⟩ := (h.node fs hfs).members.exists_memberItems
  exact record_obj.mpr ⟨fun _ _ => (h.node fs hfs).label.textOrNothing,
    fun _ => succeeds_memberItems.mp ⟨ms, hms⟩⟩

theorem showsLink_of_typed : ∀ w ∈ links.map Value.obj,
    Record (fun fs => IsKey (valueAt fs "type") ∧ ShowsLinkLabel fs) w := by
  intro w hw
  obtain ⟨fs, hfs, rfl⟩ := List.mem_map.mp hw
  exact record_obj.mpr
    ⟨(h.link fs hfs).type.isKey, fun _ _ => (h.link fs hfs).label.textOrNothing⟩

/-- The search for a class diagram meets nothing that cannot be looked up. -/
theorem succeeds_neededDialect : Succeeds (neededDialect v) := by
  obtain ⟨hnodes, hlinks⟩ := h.lists.listField
  have hbody : Succeeds ((nodes.map Value.obj).anyM hasBody) := by
    refine succeeds_anyM fun w hw => ?_
    obtain ⟨fs, -, rfl⟩ := List.mem_map.mp hw
    obtain ⟨b, hb, -⟩ := hasBody_obj fs
    exact ⟨b, hb⟩
  have hclass : Succeeds ((links.map Value.obj).anyM isClassLink) := by
    refine succeeds_anyM fun w hw => ?_
    obtain ⟨fs, hfs, rfl⟩ := List.mem_map.mp hw
    rw [isClassLink_obj, succeeds_map, succeeds_lookupName]
    exact (h.link fs hfs).type.isKey
  obtain ⟨body, hbody⟩ := hbody
  obtain ⟨found, hclass⟩ := hclass
  simp only [neededDialect, hnodes, hlinks, hbody, hclass, bind, Except.bind, pure, Except.pure]
  cases body <;> cases found <;> exact succeeds_ok _

theorem succeeds_write_some (dialect : Dialect) (orientation : Text) :
    Succeeds (write v (some dialect) orientation) := by
  have hnodes := showsNode_of_typed h
  have hlinks := showsLink_of_typed h
  cases dialect with
  | classDiagram =>
    obtain ⟨lines, hlines⟩ := (succeeds_classLines_iff h.lists).mpr
      ⟨hnodes, fun w hw => (hlinks w hw).mono fun _ hfs _ _ => hfs.1⟩
    simp only [write, writeIn, hlines, bind, Except.bind, pure, Except.pure, succeeds_ok]
  | flowchart =>
    obtain ⟨lines, hlines⟩ := (succeeds_flowLines_iff h.lists orientation).mpr
      ⟨fun w hw => (hnodes w hw).mono fun _ hfs => hfs.1,
        fun w hw => (hlinks w hw).mono fun _ hfs => ⟨fun _ _ => hfs.1, hfs.2⟩⟩
    simp only [write, writeIn, hlines, bind, Except.bind, pure, Except.pure, succeeds_ok]

/-- A typed document is printed in the dialect that is asked for, or in
the one that it needs. -/
theorem succeeds_write_typed (dialect : Option Dialect) (orientation : Text) :
    Succeeds (write v dialect orientation) := by
  cases dialect with
  | some dialect => exact succeeds_write_some h dialect orientation
  | none =>
    obtain ⟨dialect, hneeded⟩ := succeeds_neededDialect h
    rw [write_none hneeded]
    exact succeeds_write_some h dialect orientation

end Typed

end DiagramGraph.Mermaid

namespace DiagramGraph.Document

open Json

/-- A document whose fields are of the right kind, as far as they are
there, is valid and is printed by every printer in every orientation. Its
DOT text has, after the two lines of defaults, one statement for each node
with an identifier and then one for each link with both ends, in the order
of the document. -/
theorem write_typedDocument {v : Value} {nodes links : List Fields}
    (h : TypedDocument v nodes links) (orientation : Text) :
    validate v = .ok v ∧
    (∀ name, Dot.ofDocument v (.str name) (.str orientation) =
      .ok ⟨name, Rank.ofOrientation orientation, Dot.typedStatements nodes links⟩) ∧
    Dot.write v orientation = .ok (Mermaid.unlines (
      ["digraph G \x7b".toList, "\trankdir=".toList ++ (Rank.ofOrientation orientation).name,
        "\tnode [shape=box]".toList] ++
      (Dot.typedStatements nodes links).map Dot.Statement.render ++ ["\x7d".toList])) ∧
    ∀ dialect : Option Dialect, ∃ t, Mermaid.write v dialect orientation = .ok t := by
  refine ⟨validate_eq_ok_iff.mpr ⟨rfl, _, _, h.lists⟩,
    fun name => Dot.ofDocument_typed h name orientation, ?_,
    fun dialect => Mermaid.succeeds_write_typed h dialect orientation⟩
  rw [Dot.write, Dot.ofDocument_typed h]
  rfl

/-- A node whose fields are all there, one with nothing but an identifier
and a field of another kind, and one whose identifier is null. -/
def sparseNodes : List Fields :=
  [[("id".toList, .str "a".toList), ("label".toList, .str "\"".toList),
      ("members".toList, .arr [.str "x\n".toList, .null]), ("stereotype".toList, .str "s".toList)],
    [("weight".toList, .int 3), ("id".toList, .str "b".toList), ("members".toList, .null)],
    [("id".toList, .null), ("label".toList, .str "c".toList)]]

/-- A link of a type in capitals, and one without a target. -/
def sparseLinks : List Fields :=
  [[("source".toList, .str "a".toList), ("target".toList, .str "b".toList),
      ("type".toList, .str "Inheritance".toList), ("label".toList, .str [])],
    [("source".toList, .str "a".toList), ("target".toList, .str []), ("type".toList, .null)]]

/-- The document of both, with a field that nothing reads. -/
def sparseDocument : Value :=
  .obj [("nodes".toList, .arr (sparseNodes.map .obj)), ("version".toList, .bool true),
    ("links".toList, .arr (sparseLinks.map .obj))]

theorem typedDocument_sparse : TypedDocument sparseDocument sparseNodes sparseLinks := by
  have hmembers : ∀ v ∈ [Value.str "x\n".toList, .null], IsText v :=
    List.forall_mem_cons.mpr ⟨.str _, List.forall_mem_singleton.mpr .null⟩
  refine ⟨⟨_, rfl, rfl, rfl⟩, ?_, ?_⟩
  · simp only [sparseNodes, List.mem_cons, List.not_mem_nil, or_false, forall_eq_or_imp, forall_eq]
    exact ⟨⟨.str _, .str _, .str _, .arr hmembers⟩, ⟨.str _, .null, .null, .null⟩,
      ⟨.null, .str _, .null, .null⟩⟩
  · simp only [sparseLinks, List.mem_cons, List.not_mem_nil, or_false, forall_eq_or_imp, forall_eq]
    exact ⟨⟨.str _, .str _, .str _, .str _⟩, ⟨.str _, .str _, .null, .null⟩⟩

/-- The nodes with an identifier and the link with both ends are drawn. -/
theorem write_typedDocument_sparse :
    TypedDocument sparseDocument sparseNodes sparseLinks ∧
      validate sparseDocument = .ok sparseDocument ∧
      Dot.ofDocument sparseDocument (.str []) (.str "bt".toList) = .ok ⟨[], .bottomTop,
        [.node "a".toList "«s»\\n\"\\nx\\n\\n".toList, .node "b".toList "b".toList,
          .edge "a".toList "b".toList none [("arrowhead".toList, "empty".toList)]]⟩ ∧
      ∀ dialect, ∃ t, Mermaid.write sparseDocument dialect "bt".toList = .ok t := by
  obtain ⟨hvalid, hgraph, -, hmermaid⟩ := write_typedDocument typedDocument_sparse "bt".toList
  refine ⟨typedDocument_sparse, hvalid, ?_, hmermaid⟩
  rw [hgraph]
  decide +kernel

end DiagramGraph.Document
