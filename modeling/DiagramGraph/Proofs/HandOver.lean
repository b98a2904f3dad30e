/-
DiagramGraph.Proofs.HandOver — the graph that one command prints is the
graph that the other one draws.

  §1 Documents  — the JSON text of a graph is read back as its document,
                  also through a file of bytes.
  §2 Requests   — `Requests`: what arguments ask the generator for, whatever
                  their spelling and order, and a spelling for each
                  request (`requests_spelled`).
  §3 The pair   — `run_extract_handsOver`: whatever the diagram, its
                  printed graph is received whole and drawn.
-/
import DiagramGraph.Cli.Extract
import DiagramGraph.Cli.Generate
import DiagramGraph.Proofs.ArgumentTheorems
import DiagramGraph.Proofs.DotFaithful
import DiagramGraph.Proofs.JsonRoundTrip
import DiagramGraph.Proofs.Utf8Theorems

namespace DiagramGraph.Document

open Json

/-! ## §1 Documents -/

theorem textual_ofNode (n : Node) (depth : Nat) : Textual (depth + 2) (ofNode n) := by
  have hmembers : ∀ v ∈ n.members.map Value.str, Textual depth v := by
    intro v hv
    obtain ⟨m, _, rfl⟩ := List.mem_map.mp hv
    exact .str m
  refine .obj (by simp) ?_
  simp only [List.forall_mem_cons]
  refine ⟨.str _, .str _, .arr hmembers, ?_, by simp⟩
  cases n.stereotype with
  | none => exact .null
  | some s => exact .str s

theorem textual_ofLink (l : Link) (depth : Nat) : Textual (depth + 1) (ofLink l) := by
  refine .obj (by simp) ?_
  simp only [List.forall_mem_cons]
  exact ⟨.str _, .str _, .str _, .str _, by simp⟩

/-- Names and texts in four containers inside each other. -/
theorem textual_ofDiagram (d : Diagram) (depth : Nat) : Textual (depth + 4) (ofDiagram d) := by
  have hnodes : ∀ v ∈ d.nodes.map ofNode, Textual (depth + 2) v := by
    intro v hv
    obtain ⟨n, _, rfl⟩ := List.mem_map.mp hv
    exact textual_ofNode n depth
  have hlinks : ∀ v ∈ d.links.map ofLink, Textual (depth + 2) v := by
    intro v hv
    obtain ⟨l, _, rfl⟩ := List.mem_map.mp hv
    exact textual_ofLink l (depth + 1)
  refine .obj (by simp) ?_
  simp only [List.forall_mem_cons]
  exact ⟨.arr hnodes, .arr hlinks, by simp⟩

theorem read_write_ofDiagram (d : Diagram) :
    Json.read (Json.write (ofDiagram d) ++ ['\n']) = .ok (ofDiagram d) :=
  read_write (textual_ofDiagram d 986) rfl

theorem validate_ofDiagram (d : Diagram) : validate (ofDiagram d) = .ok (ofDiagram d) := rfl

end DiagramGraph.Document

namespace DiagramGraph.Cli

open Text Files

/-- The printed document of a graph stays as it is when its file is read. -/
theorem readText_ofDiagram {w : Workspace} {p : Path} {d : Diagram}
    (h : w.read p = .ok (Utf8.encode (Json.write (Document.ofDiagram d) ++ ['\n']))) :
    readText w p = .ok (Json.write (Document.ofDiagram d) ++ ['\n']) := by
  have hreturn : '\r' ∉ Json.write (Document.ofDiagram d) ++ ['\n'] := by
    have hdocument := (Document.textual_ofDiagram d 0).not_mem_writeAt 0
    simpa [Json.write] using hdocument
  rw [readText, h]
  simp only [Utf8.decode_encode, unifyNewlines_eq_self hreturn]

/-! ## §2 Requests -/

theorem Command.run_of_parse (c : Command) {arguments : List Text} {taken : Taken}
    (h : parse c.grammar arguments = .ok taken) (stdin : Text) (w : Workspace) :
    c.run arguments stdin w = c.body taken stdin w := by
  rw [Command.run, h]

namespace Generate

/-- The arguments ask for the code of the document at `path`, printed. -/
def Requests (arguments : List Text) (path format orientation : Text) : Prop :=
  ∃ taken, parse grammar arguments = .ok taken ∧
    taken.given "--in".toList = .value path ∧ taken.given "--fmt".toList = .value format ∧
    taken.given "--orientation".toList = .ofValue orientation ∧
    taken.given "--out".toList = .absent

/-- The plain spelling of a request. -/
def spelled (path format orientation : Text) : List Text :=
  ["--in=".toList ++ path, "--fmt=".toList ++ format, "--orientation=".toList ++ orientation]

/-- Every request can be spelled. -/
theorem requests_spelled {path format : Text} (hpath : path ≠ dividerMark)
    (hformat : format ∈ ["dot".toList, "mermaid".toList]) (orientation : Text) :
    Requests (spelled path format orientation) path format orientation := by
  have hnames : ∀ n ∈ grammar.names, '=' ∉ n.1 := by decide
  have hassignable : ∀ a ∈ [((⟨["--in".toList], .value, true, []⟩ : Flag), path),
       (⟨["--fmt".toList], .value, true, ["dot".toList, "mermaid".toList]⟩, format),
       (⟨["--orientation".toList], .value, false, []⟩, orientation)], Assignable grammar a := by
    simp only [List.forall_mem_cons]
    exact ⟨⟨rfl, rfl, rfl, .inl rfl⟩, ⟨rfl, rfl, rfl, .inr hformat⟩, ⟨rfl, rfl, rfl, .inl rfl⟩,
      by simp⟩
  have hfmt : format ≠ dividerMark := by
    rintro rfl
    exact absurd hformat (by decide)
  have hvalue {t : Text} (h : t ≠ dividerMark) : Given.value t = .ofValue t := (if_neg h).symm
  let values := [("--orientation".toList, spoken orientation), ("--fmt".toList, spoken format),
    ("--in".toList, spoken path)]
  refine ⟨{ values }, parse_assignments hnames hassignable rfl rfl, ?_, ?_, ?_, rfl⟩
  · rw [hvalue hpath]
    exact given_eq (show values = values.take 2 ++ _ from rfl) (by simp [values])
  · rw [hvalue hfmt]
    exact given_eq (show values = values.take 1 ++ _ from rfl) (by simp [values])
  · exact given_eq (show values = [] ++ _ from rfl) (by simp)

/-- Only the direction that an orientation names counts. -/
theorem code_congr {o o' : Text} (h : Rank.ofOrientation o = Rank.ofOrientation o') (format : Text)
    (document : Json.Value) : code format document o = code format document o' := by
  have hdot : Dot.write document o = Dot.write document o' := by
    simp only [Dot.write, Dot.ofDocument, Document.textOrEmpty_str, h, bind, Except.bind]
  have hmermaid : Mermaid.write document none o = Mermaid.write document none o' := by
    simp only [Mermaid.write, Mermaid.writeIn, Mermaid.flowLines, Document.textOrEmpty_str, h, bind,
      Except.bind]
  rw [code, hdot, hmermaid, code]

/-- A request is answered with the code of the document. -/
theorem run_eq {arguments : List Text} {path format orientation : Text}
    (h : Requests arguments path format orientation) {w : Workspace} {document : Json.Value} {t : Text}
    (hdocument : readDocument w (Path.parse path) = .ok document)
    (hcode : code format document orientation = .ok t) (stdin : Text) :
    command.run arguments stdin w = .success w t [] := by
  obtain ⟨taken, hparse, hin, hfmt, horientation, hout⟩ := h
  -- A blank orientation is drawn from top to bottom, as is one that names no direction.
  have hcode' : code format document
      ((Given.ofValue orientation).value?.getD "TB".toList) = .ok t := by
    unfold Given.ofValue
    split
    · next hdivider =>
      rw [hdivider] at hcode
      rw [← hcode]
      exact code_congr (by decide) format document
    · exact hcode
  have hrequest : request taken = .ok (format, Path.parse path) := by
    simp only [request, needed, hin, hfmt, Given.value?]
  have hbody : body taken stdin w = .success w t [] := by
    simp only [body, hrequest, generate, hdocument, horientation, hcode', hout]
    rfl
  exact (Command.run_of_parse command hparse stdin w).trans hbody

end Generate

/-! ## §3 The pair -/

open Generate

/-- The text, stored in a file, makes the generator print the drawing. -/
def Draws (text format orientation drawing : Text) : Prop :=
  ∀ (w : Workspace) (path : Text), w.read (Path.parse path) = .ok (Utf8.encode text) →
    (∀ arguments stdin, Requests arguments path format orientation →
      Generate.command.run arguments stdin w = .success w drawing []) ∧
    (path ≠ dividerMark → Requests (spelled path format orientation) path format orientation)

/-- The text, stored in a file, hands the graph over: it is decoded as
the document of the graph, which is valid, and drawn in each format and
orientation as the graph is drawn. -/
structure HandsOver (text : Text) (graph : Json.Value) : Prop where
  received : ∀ (w : Workspace) (p : Path), w.read p = .ok (Utf8.encode text) →
    ∃ t, readText w p = .ok t ∧ Json.read t = .ok graph
  valid : Document.validate graph = .ok graph
  dot : ∀ orientation, ∃ drawing, Dot.write graph orientation = .ok drawing ∧
    Draws text "dot".toList orientation drawing
  mermaid : ∀ orientation, ∃ drawing, Mermaid.write graph none orientation = .ok drawing ∧
    Draws text "mermaid".toList orientation drawing

theorem readDocument_ofDiagram {w : Workspace} {p : Path} {d : Diagram}
    (h : w.read p = .ok (Utf8.encode (Json.write (Document.ofDiagram d) ++ ['\n']))) :
    Generate.readDocument w p = .ok (Document.ofDiagram d) := by
  simp only [Generate.readDocument, readText_ofDiagram h, Document.read_write_ofDiagram,
    Document.validate_ofDiagram]

theorem draws_of_code {d : Diagram} {format orientation drawing : Text}
    (hformat : format ∈ ["dot".toList, "mermaid".toList])
    (hcode : code format (Document.ofDiagram d) orientation = .ok drawing) :
    Draws (Json.write (Document.ofDiagram d) ++ ['\n']) format orientation drawing := by
  intro w path hread
  refine ⟨fun arguments stdin hrequests => ?_, fun hpath => requests_spelled hpath hformat orientation⟩
  exact Generate.run_eq hrequests (readDocument_ofDiagram hread) hcode stdin

section Read

variable (code orientation : Text)

theorem ids_ne_nil_read : (∀ n ∈ (Mermaid.read code).nodes, n.id ≠ []) ∧
    ∀ l ∈ (Mermaid.read code).links, l.source ≠ [] ∧ l.target ≠ [] := by
  have hdrawable := Dot.drawable_read code
  exact ⟨fun n hn => (hdrawable.name n hn).ne_nil,
    fun l hl => ⟨(hdrawable.ends l hl).1.ne_nil, (hdrawable.ends l hl).2.ne_nil⟩⟩

theorem exists_dot_read :
    ∃ t, Dot.write (Document.ofDiagram (Mermaid.read code)) orientation = .ok t :=
  ⟨_, Dot.write_ofDiagram (ids_ne_nil_read code).1 (ids_ne_nil_read code).2 orientation⟩

theorem exists_mermaid_read :
    ∃ t, Mermaid.write (Document.ofDiagram (Mermaid.read code)) none orientation = .ok t := by
  have hdescribes := Document.describes_ofDiagram (Mermaid.read code)
  obtain ⟨hnodes, hends⟩ := ids_ne_nil_read code
  have hlinks : ∀ l ∈ (Mermaid.read code).links.map Document.stated,
      l.source ≠ [] ∧ l.target ≠ [] := by
    intro l hl
    obtain ⟨link, hlink, rfl⟩ := List.mem_map.mp hl
    exact hends link hlink
  simp only [Mermaid.write, Mermaid.writeIn, Mermaid.neededDialect_eq hdescribes]
  split_ifs
  · exact ⟨_, Mermaid.write_classDiagram hdescribes hnodes hlinks orientation⟩
  · exact ⟨_, Mermaid.write_flowchart hdescribes hnodes hlinks orientation⟩

theorem handsOver_read :
    HandsOver (Json.write (Document.ofDiagram (Mermaid.read code)) ++ ['\n'])
      (Document.ofDiagram (Mermaid.read code)) where
  received w p h := ⟨_, readText_ofDiagram h, Document.read_write_ofDiagram _⟩
  valid := Document.validate_ofDiagram _
  dot orientation := by
    obtain ⟨t, hwrite⟩ := exists_dot_read code orientation
    refine ⟨t, hwrite, draws_of_code (by simp) ?_⟩
    rw [Generate.code, if_pos rfl, hwrite]
  mermaid orientation := by
    obtain ⟨t, hwrite⟩ := exists_mermaid_read code orientation
    refine ⟨t, hwrite, draws_of_code (by simp) ?_⟩
    rw [Generate.code, if_neg (by decide), hwrite]

end Read

/-- Whatever diagram is extracted from standard input, the run ends well
and prints a text that hands the graph of the diagram over. -/
theorem run_extract_handsOver {arguments : List Text} {taken : Taken}
    (hparse : parse Extract.grammar arguments = .ok taken)
    (hstdin : Extract.readsInput taken = true) (code : Text) (w : Workspace) :
    ∃ text report, Extract.command.run arguments code w = .success w text report ∧
      HandsOver text (Document.ofDiagram (Mermaid.read code)) := by
  have hsource : Extract.source taken = .ok .stdin := by
    unfold Extract.readsInput at hstdin
    split at hstdin
    · next h => exact h
    · cases hstdin
  have hbody : ∃ report, Extract.body taken code w =
      .success w (Json.write (Document.ofDiagram (Mermaid.read code)) ++ ['\n']) report := by
    simp only [Extract.body, Extract.diagramText, hsource]
    exact ⟨_, rfl⟩
  obtain ⟨report, hreport⟩ := hbody
  exact ⟨_, report, (Command.run_of_parse Extract.command hparse code w).trans hreport,
    handsOver_read code⟩

/-- The graph of a diagram with a byte-order mark, an escaped quote, a
NUL and a line separator in its texts is printed, stored and drawn. -/
theorem run_extract_handsOver_report :
    parse Extract.grammar ["--in".toList, "-".toList, "--report".toList] =
        .ok ⟨[("--in".toList, some "-".toList)], ["--report".toList], none, []⟩ ∧
      ∃ text report drawing,
        Extract.command.run ["--in".toList, "-".toList, "--report".toList]
          "\uFEFFflowchart LR\r\nA[\"x\\ \x00\"] -->|\u2028'y| B".toList ⟨⟨[]⟩, []⟩ =
            .success ⟨⟨[]⟩, []⟩ text report ∧
        Dot.write (Document.ofDiagram (Mermaid.read
          "\uFEFFflowchart LR\r\nA[\"x\\ \x00\"] -->|\u2028'y| B".toList)) "rl".toList =
            .ok drawing ∧
        Generate.command.run (spelled "g.json".toList "dot".toList "rl".toList) []
          ⟨⟨[(["g.json".toList], .file (Utf8.encode text))]⟩, []⟩ =
            .success ⟨⟨[(["g.json".toList], .file (Utf8.encode text))]⟩, []⟩ drawing [] := by
  have hparse : parse Extract.grammar ["--in".toList, "-".toList, "--report".toList] =
      .ok ⟨[("--in".toList, some "-".toList)], ["--report".toList], none, []⟩ := by decide
  refine ⟨hparse, ?_⟩
  obtain ⟨text, report, hrun, hover⟩ := run_extract_handsOver hparse (by decide)
    "\uFEFFflowchart LR\r\nA[\"x\\ \x00\"] -->|\u2028'y| B".toList ⟨⟨[]⟩, []⟩
  obtain ⟨drawing, hwrite, hdraws⟩ := hover.dot "rl".toList
  obtain ⟨hanswer, hspelled⟩ := hdraws ⟨⟨[(["g.json".toList], .file (Utf8.encode text))]⟩, []⟩
    "g.json".toList rfl
  exact ⟨text, report, drawing, hrun, hwrite, hanswer _ [] (hspelled (by decide))⟩

end DiagramGraph.Cli
