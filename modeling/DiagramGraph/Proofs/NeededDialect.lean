/-
DiagramGraph.Proofs.NeededDialect — a graph that is written without a
word about the dialect is written in one that can express it.

  §1 Expression  — `FlowSays`: a flowchart can say all that the graph
                   says. The relations that call for a class diagram are
                   those that the catalog of flowcharts has no glyph for
                   (`isClassRelation_eq_false_iff`), and a flowchart is
                   chosen exactly if it can say everything
                   (`neededDialect_eq_flowchart_iff`).
  §2 Round trip  — the graph comes back from either dialect, whichever
                   is chosen; what was read as a flowchart is written as
                   one (`flowSays_read`).

The main statement is `ofDiagram_read_neededDialect`. A graph has to meet
the conditions of both dialects, since names that one of them reserves
are free in the other.
-/
import DiagramGraph.Proofs.ClassRoundTrip
import DiagramGraph.Proofs.FlowRoundTrip
import DiagramGraph.Proofs.ReaderInvariant

namespace DiagramGraph.Mermaid

open Text Document

/-! ## §1 Expression -/

/-- A flowchart can say all that the graph says: no node has a body, and
there is a glyph for every relation. -/
structure FlowSays (nodes : List Node) (links : List Link) : Prop where
  members : ∀ n ∈ nodes, n.members = []
  stereotype : ∀ n ∈ nodes, ∀ s ∈ n.stereotype, s = []
  relation : ∀ l ∈ links, ∃ g ∈ flowGlyphs, g.relation = l.relation

/-- Only a class diagram can express what flowcharts have no glyph for. -/
theorem isClassRelation_eq_false_iff (r : Relation) :
    isClassRelation r = false ↔ ∃ g ∈ flowGlyphs, g.relation = r := by
  cases r <;> decide

/-- The relation of a glyph of flowcharts is kept. -/
theorem kept_of_mem_flowGlyphs {g : FlowGlyph} (hg : g ∈ flowGlyphs) :
    kept (some g.relation) = g.relation := by
  revert g
  decide

theorem bodied_eq_false_iff {n : Node} :
    bodied n = false ↔ n.members = [] ∧ ∀ s ∈ n.stereotype, s = [] := by
  unfold bodied
  rw [Bool.or_eq_false_iff]
  cases n.stereotype <;> simp

/-- A flowchart is chosen exactly if it can say all that the graph says. -/
theorem neededDialect_eq_flowchart_iff {v : Json.Value} {nodes : List Node} {links : List Link}
    (h : Describes v nodes (links.map stated)) :
    neededDialect v = .ok .flowchart ↔ FlowSays nodes links := by
  have hbodies : nodes.any bodied = false ↔
      (∀ n ∈ nodes, n.members = []) ∧ ∀ n ∈ nodes, ∀ s ∈ n.stereotype, s = [] := by
    simp only [List.any_eq_false, Bool.not_eq_true, bodied_eq_false_iff, ← forall₂_and]
  have hrelations : (links.map stated).any (fun l => l.relation.any isClassRelation) = false ↔
      ∀ l ∈ links, ∃ g ∈ flowGlyphs, g.relation = l.relation := by
    simp only [List.any_map, List.any_eq_false, Function.comp_apply, stated, Option.any_some,
      Bool.not_eq_true, isClassRelation_eq_false_iff]
  have hchosen : neededDialect v = .ok .flowchart ↔
      nodes.any bodied = false ∧
        (links.map stated).any (fun l => l.relation.any isClassRelation) = false := by
    rw [neededDialect_eq h, ← Bool.or_eq_false_iff]
    generalize (nodes.any bodied || _) = needed
    cases needed <;> simp
  rw [hchosen, hbodies, hrelations]
  constructor
  · rintro ⟨⟨hmembers, hstereotype⟩, hrelation⟩
    exact ⟨hmembers, hstereotype, hrelation⟩
  · intro hexpressed
    exact ⟨⟨hexpressed.members, hexpressed.stereotype⟩, hexpressed.relation⟩

/-! ## §2 Round trip -/

/-- Without a dialect, the one that is needed is written. -/
theorem write_none {v : Json.Value} {dialect : Dialect} (h : neededDialect v = .ok dialect)
    (orientation : Text) : write v none orientation = write v (some dialect) orientation := by
  simp only [write, writeIn, h]

section Graph

variable {document : Json.Value} {nodes : List Node} {links : List Link}

/-- Written as a class diagram, a graph without links from a node to
itself comes back whole. -/
theorem exists_write_classDiagram (hdocument : Describes document nodes (links.map stated))
    (h : ClassGraph nodes links) (hloop : ∀ l ∈ links, l.source ≠ l.target) (orientation : Text) :
    ∃ t, write document (some .classDiagram) orientation = .ok t ∧
      ofDiagram (read t) = ofDiagram { nodes, links } := by
  refine ⟨_, h.write_eq hdocument orientation, ?_⟩
  have hlinks : links.filter (fun l => l.source ≠ l.target) = links :=
    List.filter_eq_self.mpr fun l hl => decide_eq_true (hloop l hl)
  rw [ofDiagram_read_classDrawing h, hlinks]

/-- Written as a flowchart, a graph that a flowchart can say comes back
whole. -/
theorem exists_write_flowchart (hdocument : Describes document nodes (links.map stated))
    (hclass : ClassGraph nodes links) (hflow : FlowGraph nodes (links.map stated))
    (hexpressed : FlowSays nodes links) (orientation : Text) :
    ∃ t, write document (some .flowchart) orientation = .ok t ∧
      ofDiagram (read t) = ofDiagram { nodes, links } := by
  refine ⟨_, hflow.write_eq hdocument orientation, ?_⟩
  have hnodes : nodes.map bare = nodes := by
    refine (List.map_congr_left fun n hn => ?_).trans (List.map_id' nodes)
    -- a stereotype that is there says something, so there is none
    have hstereotype : n.stereotype = none := by
      cases hs : n.stereotype with
      | none => rfl
      | some s =>
        exact absurd (hexpressed.stereotype n hn s hs) ((hclass.node n hn).stereotype s hs).1
    rw [bare, ← hexpressed.members n hn, ← hstereotype]
  have hlinks : (links.map stated).map keptLink = links := by
    rw [List.map_map]
    refine (List.map_congr_left fun l hl => ?_).trans (List.map_id' links)
    obtain ⟨g, hg, hrelation⟩ := hexpressed.relation l hl
    have hkept := kept_of_mem_flowGlyphs hg
    rw [hrelation] at hkept
    simp only [Function.comp_apply, keptLink, stated, hkept]
  rw [ofDiagram_read_flowDrawing hflow, hnodes, hlinks]

end Graph

/-- A flowchart can say all that was read from one. -/
theorem flowSays_read {code : Text} (h : (read code).dialect = some .flowchart) :
    FlowSays (read code).nodes (read code).links := by
  unfold read at h ⊢
  dsimp only at h ⊢
  cases hfirst : firstStatement? (trimmedLines code) with
  | none => simp [hfirst] at h
  | some first =>
    simp only [hfirst] at h ⊢
    cases hdirection : flowDirection? first with
    | none => simp [hdirection, ClassDiagram.readLines_eq_finish, Draft.finish] at h
    | some direction =>
      have hsound := Flowchart.sound_readLines code
      refine ⟨fun n hn => (hsound.node n hn).members, fun n hn s hs => ?_, fun l hl => ?_⟩
      · rw [(hsound.node n hn).stereotype] at hs
        cases hs
      · rw [← isClassRelation_eq_false_iff]
        have hrelation := (hsound.link l hl).relation
        revert hrelation
        cases l.relation <;> decide

/-- A graph that meets the conditions of both dialects and has no link
from a node to itself comes back from a text that was written without a
word about the dialect: a flowchart is chosen exactly if it can say
everything. What was read as a flowchart is written as one. -/
theorem ofDiagram_read_neededDialect :
    (∀ (document : Json.Value) (nodes : List Node) (links : List Link),
      Describes document nodes (links.map stated) →
      (neededDialect document = .ok .flowchart ↔ FlowSays nodes links) ∧
      (ClassGraph nodes links → FlowGraph nodes (links.map stated) →
        (∀ l ∈ links, l.source ≠ l.target) →
        ∀ orientation, ∃ t, write document none orientation = .ok t ∧
          ofDiagram (read t) = ofDiagram { nodes, links } ∧
          Describes (ofDiagram (read t)) nodes (links.map stated))) ∧
    ∀ code, (read code).dialect = some .flowchart →
      neededDialect (ofDiagram (read code)) = .ok .flowchart := by
  constructor
  · intro document nodes links hdocument
    have hiff := neededDialect_eq_flowchart_iff hdocument
    refine ⟨hiff, fun hclass hflow hloop orientation => ?_⟩
    obtain ⟨dialect, hneeded⟩ : ∃ dialect, neededDialect document = .ok dialect :=
      ⟨_, neededDialect_eq hdocument⟩
    rw [write_none hneeded]
    obtain ⟨t, ht, hsame⟩ : ∃ t, write document (some dialect) orientation = .ok t ∧
        ofDiagram (read t) = ofDiagram { nodes, links } := by
      cases dialect with
      | classDiagram => exact exists_write_classDiagram hdocument hclass hloop orientation
      | flowchart =>
        exact exists_write_flowchart hdocument hclass hflow (hiff.mp hneeded) orientation
    exact ⟨t, ht, hsame, describes_of_eq_ofDiagram hsame⟩
  · intro code hcode
    have hdocument := describes_ofDiagram (read code)
    exact (neededDialect_eq_flowchart_iff hdocument).mpr (flowSays_read hcode)

/-- Labels full of glyphs come back, whatever the relation between the
nodes and whichever dialect it calls for. -/
theorem ofDiagram_read_neededDialect_glyphs :
    let nodes : List Node :=
      [⟨"A".toList, "B <|-- C --> [x".toList, [], none⟩, ⟨"o".toList, [], [], none⟩]
    let links (r : Relation) : List Link := [⟨"A".toList, "o".toList, r, "a --o b : ==> c".toList⟩]
    (∀ r, ClassGraph nodes (links r) ∧ FlowGraph nodes ((links r).map stated) ∧
      ∃ t, write (ofDiagram { nodes, links := links r }) none "LR".toList = .ok t ∧
        ofDiagram (read t) = ofDiagram { nodes, links := links r } ∧
        Describes (ofDiagram (read t)) nodes ((links r).map stated)) ∧
    neededDialect (ofDiagram { nodes, links := links .aggregation }) = .ok .classDiagram ∧
    neededDialect (ofDiagram (read "graph TD; A\nA ==>|x| B".toList)) = .ok .flowchart := by
  intro nodes links
  have hgraph (r : Relation) :
      ClassGraph nodes (links r) ∧ FlowGraph nodes ((links r).map stated) := by
    cases r <;> decide +kernel
  refine ⟨fun r => ?_, by decide +kernel, ofDiagram_read_neededDialect.2 _ (by decide +kernel)⟩
  obtain ⟨hclass, hflow⟩ := hgraph r
  have hdocument := describes_ofDiagram { nodes, links := links r }
  refine ⟨hclass, hflow, (ofDiagram_read_neededDialect.1 _ _ _ hdocument).2 hclass hflow ?_ _⟩
  simp [links]

end DiagramGraph.Mermaid
