/-
DiagramGraph.Proofs.Deliveries — what a batch leaves behind of each file,
and of the other ones.

  §1 The site     — the two directories of a batch, and a diagram file
                    in the first of them. Writing files changes neither.
  §2 One file     — what a conversion writes (`written_produce`), what it
                    answers (`produce_snd_congr`: that depends on the file
                    and on the directories around it, not on any other
                    file) and what is there afterwards (`Delivered`).
  §3 All files    — the same along the whole list (`produceAll_spec`): by
                    induction, with the workspace before each file as the
                    state. The outputs of the files after it do not touch
                    its own, because their names differ.
-/
import DiagramGraph.Proofs.FileTheorems
import DiagramGraph.Proofs.OutputNames

namespace DiagramGraph.Cli.Convert

open Text Files Workspace

/-! ## §1 The site -/

/-- The directories of a batch are at these places. -/
structure Site (dir outDir : Path) (here out : Location) (w : Workspace) : Prop where
  dir : w.locate dir = .ok here
  hereDirectory : w.tree.get? here = some .directory
  outDir : w.locate outDir = .ok out
  outDirectory : w.tree.get? out = some .directory

/-- A diagram file of the directory, with its contents. -/
structure Input (dir : Path) (here : Location) (w : Workspace) (name : Text)
    (bytes : List UInt8) : Prop where
  diagram : isDiagramName name = true
  located : w.locate (dir.child name) = .ok (here ++ [name])
  contents : w.tree.get? (here ++ [name]) = some (.file bytes)

/-- The places of a file's outputs. -/
def OutputPlace (files : List Text) (out : Location) (dot : Bool) (name : Text)
    (place : Location) : Prop :=
  place = out ++ [outputId files name ++ ".json".toList] ∨
    dot = true ∧ place = out ++ [outputId files name ++ ".dot".toList]

section Site

variable {files : List Text} {dir outDir : Path} {here out : Location} {dot : Bool}
  {w w' : Workspace} {name : Text} {bytes : List UInt8} {touched : Location → Prop}

theorem Site.written (h : Site dir outDir here out w) (hw : Written touched w w') :
    Site dir outDir here out w' where
  dir := hw.locate h.dir
  hereDirectory := (hw.directory here).mpr h.hereDirectory
  outDir := hw.locate h.outDir
  outDirectory := (hw.directory out).mpr h.outDirectory

theorem Input.written (h : Input dir here w name bytes) (hw : Written touched w w')
    (huntouched : ¬ touched (here ++ [name])) : Input dir here w' name bytes where
  diagram := h.diagram
  located := hw.locate h.located
  contents := (hw.same _ huntouched).trans h.contents

theorem Input.read (h : Input dir here w name bytes) : w.read (dir.child name) = .ok bytes :=
  read_eq_ok.mpr ⟨_, h.located, h.contents⟩

theorem Input.readText (h : Input dir here w name bytes) :
    readText w (dir.child name) =
      match Utf8.decode bytes with
      | .error f => .error (.notUtf8 f)
      | .ok t => .ok (unifyNewlines t) :=
  readText_of_read h.read

/-- No output is written over a diagram file. -/
theorem not_outputPlace_input {other : Text} (h : isDiagramName name = true)
    (hother : isDiagramName other = true) : ¬ OutputPlace files out dot other (here ++ [name]) := by
  have hoff : ∀ tail ∈ ["json".toList, "dot".toList],
      here ++ [name] ≠ out ++ [outputId files other ++ '.' :: tail] := by
    intro tail htail heq
    obtain rfl : name = outputId files other ++ '.' :: tail := by
      simpa using (List.append_inj' heq rfl).2
    rw [isDiagramName_output (outputId_ne_nil files hother) htail] at h
    cases h
  rintro (heq | ⟨-, heq⟩)
  · exact hoff "json".toList (by simp) heq
  · exact hoff "dot".toList (by simp) heq

/-- Files with outputs of different names have different outputs. -/
theorem not_outputPlace_other {other : Text} (hid : outputId files other ≠ outputId files name)
    {place : Location} (h : OutputPlace files out dot name place) :
    ¬ OutputPlace files out dot other place := by
  have hlast : ∀ x y : Text, x ++ ".json".toList ≠ y ++ ".dot".toList := by
    intro x y heq
    have hends := congrArg List.getLast? heq
    simp at hends
  rcases h with rfl | ⟨-, rfl⟩ <;> rintro (heq | ⟨-, heq⟩)
  · exact hid (by simpa using heq.symm)
  · exact hlast _ _ (by simpa using heq)
  · exact hlast _ _ (by simpa using heq.symm)
  · exact hid (by simpa using heq.symm)

theorem OutputPlace.of_dot {place : Location} (h : OutputPlace files out dot name place) :
    OutputPlace files out true name place :=
  h.imp_right fun h => ⟨rfl, h.2⟩

/-- Files of other names do not hit the summary. -/
theorem not_outputPlace_summary (hid : outputId files name ≠ summaryId) :
    ¬ OutputPlace files out dot name (out ++ [summaryId ++ ".json".toList]) := by
  rintro (heq | ⟨-, heq⟩)
  · exact hid (by simpa using heq.symm)
  · have hends := congrArg List.getLast? (List.singleton_inj.mp (List.append_cancel_left heq))
    simp at hends

/-- What a path leads to among the outputs, as long as it is not touched. -/
theorem Site.lookup_output (h : Site dir outDir here out w) (hw : Written touched w w')
    {n : Text} (hn : n ≠ "..".toList) (huntouched : ¬ touched (out ++ [n])) :
    w'.lookup (outDir.child n) = w.lookup (outDir.child n) := by
  have h' := h.written hw
  exact lookup_child_congr h.outDir h.outDirectory h'.outDir h'.outDirectory hn
    (hw.same _ huntouched)

end Site

/-! ## §2 One file -/

/-- What happens to a diagram once its file was read. -/
def deliver (w : Workspace) (output : Path) (dot : Bool) (d : Diagram) :
    Workspace × Except Failure Diagram :=
  match writeText w output (Json.write (Document.ofDiagram d)) with
  | .error f => (w, .error f)
  | .ok w₂ =>
    if dot then
      match writeDot w₂ output d with
      | .error f => (w₂, .error f)
      | .ok w₃ => (w₃, .ok d)
    else (w₂, .ok d)

/-- The files of a converted diagram hold its graph and its DOT text. -/
structure Delivered (files : List Text) (outDir : Path) (dot : Bool) (name : Text) (d : Diagram)
    (w : Workspace) : Prop where
  json : w.read (outputPath files outDir name) =
    .ok (Utf8.encode (Json.write (Document.ofDiagram d)))
  dot : dot = true → ∃ t, Dot.write (Document.ofDiagram d) (d.orientation.getD "TB".toList) = .ok t ∧
    w.read (dotOutput (outputPath files outDir name)) = .ok (Utf8.encode t)

/-- Where the directory of the output is there, converting a file is
reading it and delivering its diagram. -/
theorem produce_of_directory {w : Workspace} {input output : Path} {dot : Bool}
    (h : w.makeDirectories output.parent = (w, none)) :
    produce w input output dot =
      match readText w input with
      | .error f => (w, .error f)
      | .ok t => deliver w output dot (Mermaid.read t) := by
  unfold produce
  cases readText w input with
  | error f => rfl
  | ok t =>
    simp only [h]
    rfl

section Step

variable {files : List Text} {dir outDir : Path} {here out : Location} {dot : Bool}
  {w w' : Workspace} {name : Text} {bytes : List UInt8} {touched : Location → Prop} {d : Diagram}

theorem produce_eq (hs : Site dir outDir here out w) (hin : Input dir here w name bytes) :
    produce w (dir.child name) (outputPath files outDir name) dot =
      match Utf8.decode bytes with
      | .error f => (w, .error (.notUtf8 f))
      | .ok t => deliver w (outputPath files outDir name) dot (Mermaid.read (unifyNewlines t)) := by
  have hmake : w.makeDirectories (outputPath files outDir name).parent = (w, none) := by
    rw [outputPath, Path.parent_child]
    exact makeDirectories_of_directory hs.outDir hs.outDirectory
  rw [produce_of_directory hmake, hin.readText]
  cases Utf8.decode bytes with
  | error f => rfl
  | ok t => rfl

theorem writeText_of_refusal (hs : Site dir outDir here out w) {c : Cause} {n : Text}
    (h : w.refusal out n = some c) (t : Text) :
    writeText w (outDir.child n) t = .error (.file ⟨c, outDir.child n⟩) := by
  rw [writeText, write_of_refusal hs.outDir hs.outDirectory h]

theorem exists_writeText (hs : Site dir outDir here out w) {n : Text}
    (h : w.refusal out n = none) (hn : n ≠ "..".toList) (t : Text) :
    ∃ w', writeText w (outDir.child n) t = .ok w' ∧ Written (· = out ++ [n]) w w' ∧
      w'.read (outDir.child n) = .ok (Utf8.encode t) := by
  obtain ⟨w', hwrite, hwritten⟩ := exists_write hs.outDir hs.outDirectory h hn (Utf8.encode t)
  refine ⟨w', ?_, hwritten, read_of_write hwrite⟩
  rw [writeText, hwrite]

/-- Why the DOT text of a diagram cannot be written, if it cannot. -/
def dotFault (files : List Text) (outDir : Path) (out : Location) (name : Text) (d : Diagram)
    (w : Workspace) : Option Failure :=
  match Dot.write (Document.ofDiagram d) (d.orientation.getD "TB".toList) with
  | .error f => some (.document f)
  | .ok _ => (w.refusal out (outputId files name ++ ".dot".toList)).map fun c =>
      .file ⟨c, dotOutput (outputPath files outDir name)⟩

/-- What a delivery answers: it fails where a file cannot be written. -/
def verdict (files : List Text) (outDir : Path) (out : Location) (dot : Bool) (name : Text)
    (d : Diagram) (w : Workspace) : Except Failure Diagram :=
  match w.refusal out (outputId files name ++ ".json".toList) with
  | some c => .error (.file ⟨c, outputPath files outDir name⟩)
  | none =>
    match if dot then dotFault files outDir out name d w else none with
    | some f => .error f
    | none => .ok d

theorem output_ne_parent (id : Text) {suffix : Text}
    (h : suffix ∈ [".json".toList, ".dot".toList]) : id ++ suffix ≠ "..".toList := by
  intro heq
  have hends := congrArg List.getLast? heq
  rcases List.mem_cons.mp h with rfl | h
  · simp at hends
  · rw [List.mem_singleton.mp h] at hends
    simp at hends

theorem writeDot_eq (hname : isDiagramName name = true) (w : Workspace) (d : Diagram) :
    writeDot w (outputPath files outDir name) d =
      match Dot.write (Document.ofDiagram d) (d.orientation.getD "TB".toList) with
      | .error f => .error (.document f)
      | .ok t => writeText w (outDir.child (outputId files name ++ ".dot".toList)) t := by
  unfold writeDot
  cases Dot.write (Document.ofDiagram d) (d.orientation.getD "TB".toList) with
  | error f => rfl
  | ok t => simp only [dotOutput_outputPath hname]

theorem dotFault_congr (hw : Written touched w w') :
    dotFault files outDir out name d w' = dotFault files outDir out name d w := by
  simp only [dotFault, hw.refusal]

theorem writeDot_of_dotFault (hs : Site dir outDir here out w) (hname : isDiagramName name = true)
    {f : Failure} (h : dotFault files outDir out name d w = some f) :
    writeDot w (outputPath files outDir name) d = .error f := by
  rw [writeDot_eq hname]
  unfold dotFault at h
  cases hdot : Dot.write (Document.ofDiagram d) (d.orientation.getD "TB".toList) with
  | error e =>
    rw [hdot] at h
    cases h
    rfl
  | ok t =>
    rw [hdot] at h
    obtain ⟨c, hrefused, rfl⟩ := Option.map_eq_some_iff.mp h
    simp only [writeText_of_refusal hs hrefused, dotOutput_outputPath hname]

theorem exists_writeDot (hs : Site dir outDir here out w) (hname : isDiagramName name = true)
    (h : dotFault files outDir out name d w = none) :
    ∃ t w', Dot.write (Document.ofDiagram d) (d.orientation.getD "TB".toList) = .ok t ∧
      writeDot w (outputPath files outDir name) d = .ok w' ∧
      Written (· = out ++ [outputId files name ++ ".dot".toList]) w w' ∧
      w'.read (dotOutput (outputPath files outDir name)) = .ok (Utf8.encode t) := by
  rw [writeDot_eq hname, dotOutput_outputPath hname]
  unfold dotFault at h
  cases hdot : Dot.write (Document.ofDiagram d) (d.orientation.getD "TB".toList) with
  | error e =>
    rw [hdot] at h
    cases h
  | ok t =>
    rw [hdot] at h
    obtain ⟨w', hwrite, hwritten, hread⟩ := exists_writeText hs (Option.map_eq_none_iff.mp h)
      (output_ne_parent _ (by simp)) t
    exact ⟨t, w', rfl, hwrite, hwritten, hread⟩

/-- A delivery answers by the verdict, touches the outputs of the file
only, and leaves them there if it succeeds. -/
theorem deliver_spec (hs : Site dir outDir here out w) (hname : isDiagramName name = true) :
    (deliver w (outputPath files outDir name) dot d).2 = verdict files outDir out dot name d w ∧
      Written (OutputPlace files out dot name) w
        (deliver w (outputPath files outDir name) dot d).1 ∧
      ∀ d', verdict files outDir out dot name d w = .ok d' →
        d' = d ∧ Delivered files outDir dot name d
          (deliver w (outputPath files outDir name) dot d).1 := by
  unfold verdict deliver
  cases hjson : w.refusal out (outputId files name ++ ".json".toList) with
  | some c =>
    simp only [outputPath, writeText_of_refusal hs hjson]
    exact ⟨trivial, .refl w, fun d' h => by cases h⟩
  | none =>
    obtain ⟨w₂, hwrite, hwritten, hread⟩ := exists_writeText hs hjson
      (output_ne_parent _ (by simp)) (Json.write (Document.ofDiagram d))
    have htouched : Written (OutputPlace files out dot name) w w₂ := hwritten.mono fun _ => .inl
    rw [← outputPath] at hwrite hread
    simp only [hwrite]
    cases dot with
    | false =>
      refine ⟨rfl, htouched, fun d' h => ?_⟩
      cases h
      exact ⟨rfl, hread, fun hfalse => by cases hfalse⟩
    | true =>
      have hs₂ := hs.written hwritten
      have hsame : dotFault files outDir out name d w₂ = dotFault files outDir out name d w :=
        dotFault_congr hwritten
      cases hfault : dotFault files outDir out name d w with
      | some f =>
        simp only [writeDot_of_dotFault hs₂ hname (hsame.trans hfault), if_true]
        exact ⟨trivial, htouched, fun d' h => by cases h⟩
      | none =>
        obtain ⟨t, w₃, htext, hwrite₃, hwritten₃, hread₃⟩ :=
          exists_writeDot hs₂ hname (hsame.trans hfault)
        simp only [hwrite₃, if_true]
        have htouched₃ : Written (OutputPlace files out true name) w₂ w₃ :=
          hwritten₃.mono fun _ h => .inr ⟨rfl, h⟩
        have hkept := hs₂.lookup_output hwritten₃ (output_ne_parent _ (by simp))
          (by simp : out ++ [outputId files name ++ ".json".toList] ≠
            out ++ [outputId files name ++ ".dot".toList])
        refine ⟨trivial, htouched.trans htouched₃, fun d' h => ?_⟩
        cases h
        exact ⟨rfl, (read_congr hkept).trans hread, fun _ => ⟨t, htext, hread₃⟩⟩

variable (files dot) in
/-- A conversion writes to the outputs of the file, and only if the file
is text. -/
theorem written_produce (hs : Site dir outDir here out w) (hin : Input dir here w name bytes) :
    Written (fun place => (∃ t, readText w (dir.child name) = .ok t) ∧
        OutputPlace files out dot name place) w
      (produce w (dir.child name) (outputPath files outDir name) dot).1 := by
  rw [produce_eq hs hin, hin.readText]
  cases Utf8.decode bytes with
  | error f => exact .refl w
  | ok t =>
    have hwritten : Written (OutputPlace files out dot name) w
        (deliver w (outputPath files outDir name) dot (Mermaid.read (unifyNewlines t))).1 :=
      (deliver_spec hs hin.diagram).2.1
    exact hwritten.mono fun place hplace => ⟨⟨_, rfl⟩, hplace⟩

/-- What is answered does not depend on the files around. -/
theorem produce_snd_congr (hs : Site dir outDir here out w) (hin : Input dir here w name bytes)
    (hw : Written touched w w') (huntouched : ¬ touched (here ++ [name])) :
    (produce w' (dir.child name) (outputPath files outDir name) dot).2 =
      (produce w (dir.child name) (outputPath files outDir name) dot).2 := by
  have hs' := hs.written hw
  have hin' := hin.written hw huntouched
  rw [produce_eq hs hin, produce_eq hs' hin']
  cases Utf8.decode bytes with
  | error f => rfl
  | ok t =>
    dsimp only
    rw [(deliver_spec hs hin.diagram).1, (deliver_spec hs' hin.diagram).1]
    simp only [verdict, hw.refusal, dotFault_congr hw]

/-- A converted file is the diagram of its text, and its outputs are there. -/
theorem delivered_produce (hs : Site dir outDir here out w) (hin : Input dir here w name bytes)
    (h : (produce w (dir.child name) (outputPath files outDir name) dot).2 = .ok d) :
    ∃ t, readText w (dir.child name) = .ok t ∧ d = Mermaid.read t ∧
      Delivered files outDir dot name d
        (produce w (dir.child name) (outputPath files outDir name) dot).1 := by
  rw [produce_eq hs hin] at h ⊢
  rw [hin.readText]
  cases hdecode : Utf8.decode bytes with
  | error f =>
    rw [hdecode] at h
    cases h
  | ok t =>
    rw [hdecode] at h
    dsimp only at h ⊢
    obtain ⟨hverdict, -, hdelivered⟩ := deliver_spec (d := Mermaid.read (unifyNewlines t)) hs hin.diagram
    obtain ⟨rfl, hthere⟩ := hdelivered d (hverdict.symm.trans h)
    exact ⟨_, rfl, rfl, hthere⟩

/-- What was delivered stays as long as it is not touched. -/
theorem Delivered.written (h : Delivered files outDir dot name d w)
    (hs : Site dir outDir here out w) (hname : isDiagramName name = true)
    (hw : Written touched w w') (huntouched : ∀ place, OutputPlace files out dot name place →
      ¬ touched place) : Delivered files outDir dot name d w' where
  json := (read_congr (hs.lookup_output hw (output_ne_parent _ (by simp))
    (huntouched _ (.inl rfl)))).trans h.json
  dot hdot := by
    obtain ⟨t, htext, hread⟩ := h.dot hdot
    refine ⟨t, htext, ?_⟩
    rw [dotOutput_outputPath hname] at hread ⊢
    have hkept := hs.lookup_output hw (output_ne_parent _ (by simp))
      (huntouched _ (.inr ⟨hdot, rfl⟩))
    exact (read_congr hkept).trans hread

end Step

/-! ## §3 All files -/

/-- What is reported of a file that is converted alone. -/
def alone (files : List Text) (dir outDir : Path) (dot : Bool) (w : Workspace) (name : Text) :
    Report :=
  ⟨name, outputId files name, clashes files name,
   (produce w (dir.child name) (outputPath files outDir name) dot).2⟩

theorem map_name_alone {files : List Text} {dir outDir : Path} {dot : Bool} (w : Workspace)
    (names : List Text) : (names.map (alone files dir outDir dot w)).map Report.name = names := by
  rw [List.map_map]
  exact List.map_id' names

/-- The places of the outputs of all files that are text. -/
def Outputs (files : List Text) (dir : Path) (out : Location) (dot : Bool) (w : Workspace)
    (names : List Text) (place : Location) : Prop :=
  ∃ name ∈ names, (∃ t, readText w (dir.child name) = .ok t) ∧
    OutputPlace files out dot name place

section Run

variable {files : List Text} {dir outDir : Path} {here out : Location} {dot : Bool}

/-- A batch that goes on converts the first file, then the others. -/
theorem produceAll_cons {w w' : Workspace} {name : Text} {rest : List Text} {reports : List Report}
    (h : produceAll files dir outDir dot w (name :: rest) = (w', reports, none)) :
    ∃ reports', produceAll files dir outDir dot
        (produce w (dir.child name) (outputPath files outDir name) dot).1 rest =
          (w', reports', none) ∧
      reports = alone files dir outDir dot w name :: reports' := by
  rw [produceAll] at h
  unfold alone
  cases hproduce : produce w (dir.child name) (outputPath files outDir name) dot with
  | mk w₁ result =>
    rw [hproduce] at h
    cases result with
    | ok d =>
      dsimp only at h ⊢
      cases hrest : produceAll files dir outDir dot w₁ rest with
      | mk w₂ more =>
        obtain ⟨reports', broken⟩ := more
        rw [hrest] at h
        cases h
        exact ⟨reports', rfl, rfl⟩
    | error f =>
      dsimp only at h ⊢
      split_ifs at h with hreported
      · cases hrest : produceAll files dir outDir dot w₁ rest with
        | mk w₂ more =>
          obtain ⟨reports', broken⟩ := more
          rw [hrest] at h
          cases h
          exact ⟨reports', rfl, rfl⟩
      · cases h

/-- A file that is converted leaves the others as they are, and so what
is reported of them: no output is a diagram file. -/
theorem alone_of_produce {w : Workspace} {name other : Text} {bytes bytes' : List UInt8}
    (hs : Site dir outDir here out w) (hin : Input dir here w name bytes)
    (hother : Input dir here w other bytes') {w' : Workspace}
    (hw : Written (fun place => (∃ t, readText w (dir.child name) = .ok t) ∧
      OutputPlace files out dot name place) w w') :
    Input dir here w' other bytes' ∧
      alone files dir outDir dot w' other = alone files dir outDir dot w other := by
  have huntouched (h : (∃ t, readText w (dir.child name) = .ok t) ∧
      OutputPlace files out dot name (here ++ [other])) : False :=
    not_outputPlace_input hother.diagram hin.diagram h.2
  refine ⟨hother.written hw huntouched, ?_⟩
  rw [alone, alone, produce_snd_congr hs hother hw huntouched]

/-- Every file is reported as if it were converted alone, only outputs
are touched, and those of converted files are there. -/
theorem produceAll_spec : ∀ {rest : List Text} {w w' : Workspace} {reports : List Report},
    Site dir outDir here out w → (∀ name ∈ rest, ∃ bytes, Input dir here w name bytes) →
    (rest.map (outputId files)).Nodup →
    produceAll files dir outDir dot w rest = (w', reports, none) →
      reports = rest.map (alone files dir outDir dot w) ∧
      Written (Outputs files dir out dot w rest) w w' ∧
      ∀ name ∈ rest, ∀ d, (alone files dir outDir dot w name).result = .ok d →
        Delivered files outDir dot name d w' := by
  intro rest
  induction rest with
  | nil =>
    intro w w' reports _ _ _ h
    cases h
    exact ⟨rfl, .refl w, fun name hname => by cases hname⟩
  | cons name rest ih =>
    intro w w' reports hs hin hids h
    obtain ⟨reports', hrest, rfl⟩ := produceAll_cons h
    obtain ⟨bytes, hfirst⟩ := hin name List.mem_cons_self
    have hfirstWritten := written_produce files dot hs hfirst
    have hfirstThere : ∀ d, (alone files dir outDir dot w name).result = .ok d →
        Delivered files outDir dot name d
          (produce w (dir.child name) (outputPath files outDir name) dot).1 := by
      intro d h
      obtain ⟨-, -, -, hthere⟩ := delivered_produce hs hfirst h
      exact hthere
    generalize (produce w (dir.child name) (outputPath files outDir name) dot).1 = w₁
      at hrest hfirstWritten hfirstThere
    have hs₁ := hs.written hfirstWritten
    have hinput : ∀ n ∈ rest, ∃ bytes, Input dir here w n bytes ∧ Input dir here w₁ n bytes ∧
        alone files dir outDir dot w₁ n = alone files dir outDir dot w n := by
      intro n hn
      obtain ⟨bytes, hother⟩ := hin n (List.mem_cons_of_mem name hn)
      exact ⟨bytes, hother, alone_of_produce hs hfirst hother hfirstWritten⟩
    have hids' := List.nodup_cons.mp hids
    obtain ⟨rfl, hwritten, hdelivered⟩ := ih hs₁
      (fun n hn => (hinput n hn).imp fun _ h => h.2.1) hids'.2 hrest
    refine ⟨?_, ?_, ?_⟩
    · rw [List.map_cons, List.map_congr_left fun n hn => (hinput n hn).choose_spec.2.2]
    · refine (hfirstWritten.mono fun place hplace => ?_).trans (hwritten.mono fun place hplace => ?_)
      · exact ⟨name, List.mem_cons_self, hplace⟩
      · obtain ⟨n, hn, ⟨t, ht⟩, hp⟩ := hplace
        obtain ⟨bytes, hbefore, hafter, -⟩ := hinput n hn
        rw [hafter.readText, ← hbefore.readText] at ht
        exact ⟨n, List.mem_cons_of_mem name hn, ⟨t, ht⟩, hp⟩
    · intro n hn d hresult
      rcases List.mem_cons.mp hn with rfl | hn
      · refine (hfirstThere d hresult).written hs₁ hfirst.diagram hwritten
          fun place hplace htouched => ?_
        obtain ⟨other, hother, -, hp⟩ := htouched
        have hid : outputId files other ≠ outputId files n := fun heq =>
          hids'.1 (heq ▸ List.mem_map_of_mem hother)
        exact not_outputPlace_other hid hplace hp
      · obtain ⟨-, -, -, halone⟩ := hinput n hn
        exact hdelivered n hn d (halone ▸ hresult)

end Run

end DiagramGraph.Cli.Convert
