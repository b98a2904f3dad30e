/-
DiagramGraph.Proofs.ConvertTheorems — what becomes of the input of a
conversion.

Both outputs of one file take its name with another suffix, so they lie
beside it, and nothing compares the three names.

  §1 Names    — replacing a suffix keeps the directory and the stem, so
                the new path is the old one exactly if it has that suffix
                (`withSuffix_eq_self_iff`).
  §2 Writes   — whether a path can be written does not depend on what
                was written before.
  §3 Outputs  — the two outputs lie at different places, and at another
                place than the input unless they have its path
                (`eq_of_mem_outputs`).
  §4 Runs     — `Converted`: all that a run leaves behind that ends well,
                from its one or two writes (`converted_of_deliver`).
  §5 Inputs   — `run_spares_input`: the input is kept if it is `Spared`,
                and otherwise is one of the outputs, as a file with the
                suffix `.json` always is (`run_overwrites_input`).
-/
import DiagramGraph.Proofs.BatchTheorems
import DiagramGraph.Proofs.GenerateTheorems

namespace DiagramGraph.Files.Path

open Text

/-! ## §1 Names -/

theorem splitSuffix_join (name : Text) : (splitSuffix name).1 ++ (splitSuffix name).2 = name := by
  by_cases h : (splitSuffix name).2 = []
  · unfold splitSuffix at h ⊢
    dsimp only at h ⊢
    split_ifs at h ⊢
    simp
  · obtain ⟨stem, tail, hsplit, hname, -, -⟩ := splitSuffix_spec h
    rw [hsplit, ← hname]

theorem stem_ne_nil {p : Path} (h : p.name ≠ []) : p.stem ≠ [] := by
  by_cases hsuffix : (splitSuffix p.name).2 = []
  · have hjoin := splitSuffix_join p.name
    rw [hsuffix, List.append_nil] at hjoin
    rwa [stem, hjoin]
  · obtain ⟨stem, tail, hsplit, -, hstem, -⟩ := splitSuffix_spec hsuffix
    rwa [Path.stem, hsplit]

theorem parent_eq_self {p : Path} (h : p.parts = []) : p.parent = p := by
  rw [parent, h, List.dropLast_nil, ← h]

theorem child_parent_name {p : Path} (h : p.parts ≠ []) : p.parent.child p.name = p := by
  have hparts : p.parts.dropLast ++ [p.parts.getLastD []] = p.parts := by
    rw [List.getLastD_eq_getLast?, List.getLast?_eq_some_getLast h]
    exact List.dropLast_append_getLast h
  rw [child, parent, name, hparts]

/-- A path that was read has no empty part. -/
theorem name_parse_ne_nil {t : Text} (h : (parse t).parts ≠ []) : (parse t).name ≠ [] := by
  have hlast : (parse t).name ∈ (parse t).parts := by
    rw [name, List.getLastD_eq_getLast?, List.getLast?_eq_some_getLast h]
    exact List.getLast_mem h
  intro hnil
  rw [hnil] at hlast
  simp [parse] at hlast

/-- The last suffix that is put behind a path counts. -/
theorem withSuffix_withSuffix {p : Path} {tail : Text} (hstem : p.stem ≠ []) (htail : tail ≠ [])
    (hdot : '.' ∉ tail) (suffix : Text) :
    (p.withSuffix ('.' :: tail)).withSuffix suffix = p.withSuffix suffix := by
  have hsplit : (p.withSuffix ('.' :: tail)).stem = p.stem := by
    rw [stem, withSuffix, name_child, splitSuffix_append hstem htail hdot]
  rw [withSuffix, hsplit, withSuffix, parent_child, withSuffix]

/-- A new suffix gives a new path, unless it is the old suffix. -/
theorem withSuffix_eq_self_iff {p : Path} (h : p.parts ≠ []) (suffix : Text) :
    p.withSuffix suffix = p ↔ p.suffix = suffix := by
  have hname : p.name = p.stem ++ p.suffix := (splitSuffix_join p.name).symm
  refine ⟨fun heq => ?_, fun heq => ?_⟩
  · have hsame := congrArg Path.name heq
    rw [withSuffix, name_child, hname] at hsame
    exact (List.append_cancel_left hsame).symm
  · rw [withSuffix, ← heq, ← hname, child_parent_name h]

end DiagramGraph.Files.Path

namespace DiagramGraph.Cli.Convert

open Text Files Workspace
open Generate (Writable Replaced)

/-! ## §2 Writes -/

/-- Writing files makes no path writable and none unwritable. -/
theorem writable_iff_of_written {touched : Location → Prop} {w w' : Workspace}
    (h : Written touched w w') {p : Path} : Writable w' p ↔ Writable w p := by
  simp only [Writable, h.locate_iff, h.directory, ne_eq]

theorem exists_writeText_iff {w : Workspace} {p : Path} (t : Text) :
    (∃ w', writeText w p t = .ok w') ↔ Writable w p := by
  refine ⟨fun ⟨w', h⟩ => ?_, fun ⟨place, hplace, hget⟩ => ?_⟩
  · obtain ⟨place, hplace, hget, -⟩ := write_eq_ok (write_of_writeText h)
    exact ⟨place, hplace, hget⟩
  · simp only [writeText, write, hplace]
    exact ⟨_, rfl⟩

theorem replaced_of_writeText {w w' : Workspace} {p : Path} {t : Text}
    (h : writeText w p t = .ok w') : Replaced w p t w' := by
  have hwrite := write_of_writeText h
  obtain ⟨place, hplace, -, -⟩ := write_eq_ok hwrite
  exact ⟨place, hplace, written_of_write hwrite hplace⟩

/-! ## §3 Outputs -/

/-- The files that a conversion writes unless another path is given. -/
def outputs (input : Path) (dot : Bool) : List Path :=
  defaultOutput input :: if dot then [dotOutput (defaultOutput input)] else []

/-- No output of the conversion takes the name of the input. -/
def Spared (input : Path) (dot : Bool) : Prop :=
  input.suffix ≠ ".json".toList ∧ (dot = true → input.suffix ≠ ".dot".toList)

section Outputs

variable {input p : Path} {dot : Bool} {w : Workspace} {place : Location}

theorem mem_outputs_iff : p ∈ outputs input dot ↔
    p = defaultOutput input ∨ dot = true ∧ p = dotOutput (defaultOutput input) := by
  cases dot <;> simp [outputs]

variable (hparts : input.parts ≠ []) (hname : input.name ≠ [])

include hname in
theorem dotOutput_defaultOutput : dotOutput (defaultOutput input) = input.withSuffix ".dot".toList :=
  Path.withSuffix_withSuffix (Path.stem_ne_nil hname) (by decide) (by decide) _

include hname in
theorem exists_suffix_of_mem_outputs (h : p ∈ outputs input dot) :
    ∃ suffix ∈ [".json".toList, ".dot".toList], p = input.withSuffix suffix := by
  rcases mem_outputs_iff.mp h with rfl | ⟨-, rfl⟩
  · exact ⟨".json".toList, by simp, rfl⟩
  · exact ⟨".dot".toList, by simp, dotOutput_defaultOutput hname⟩

include hparts hname

/-- The input is spared unless it is an output itself. -/
theorem spared_iff_not_mem_outputs : Spared input dot ↔ input ∉ outputs input dot := by
  have hjson : input = defaultOutput input ↔ input.suffix = ".json".toList := by
    rw [← Path.withSuffix_eq_self_iff hparts]
    exact eq_comm
  have hdot : input = dotOutput (defaultOutput input) ↔ input.suffix = ".dot".toList := by
    rw [dotOutput_defaultOutput hname, ← Path.withSuffix_eq_self_iff hparts]
    exact eq_comm
  rw [mem_outputs_iff, Spared, hjson, hdot, not_or, not_and]

/-- An output that lies at the place of the input has its path. -/
theorem eq_of_mem_outputs (h : p ∈ outputs input dot) (hp : w.locate p = .ok place)
    (hinput : w.locate input = .ok place) : p = input := by
  obtain ⟨suffix, hsuffix, rfl⟩ := exists_suffix_of_mem_outputs hname h
  rw [← Path.child_parent_name hparts] at hinput
  have hsame := locate_child_inj hinput hp (output_ne_parent _ hsuffix)
  rw [Path.withSuffix, ← hsame, Path.child_parent_name hparts]

omit hparts in
/-- The two outputs lie at different places. -/
theorem locate_dotOutput_ne (hjson : w.locate (defaultOutput input) = .ok place) :
    w.locate (dotOutput (defaultOutput input)) ≠ .ok place := by
  rw [dotOutput_defaultOutput hname]
  intro hdot
  have hsame := locate_child_inj hjson hdot (output_ne_parent _ (by simp))
  exact absurd (List.append_cancel_left hsame) (by decide)

end Outputs

/-! ## §4 Runs -/

/-- What a conversion of the file at `input`, which held the diagram and
these bytes, leaves behind: its outputs are complete and apart, nothing
else was touched, and the input is one of them unless it is spared. -/
structure Converted (input : Path) (bytes : List UInt8) (d : Diagram) (dot : Bool)
    (w after : Workspace) : Prop where
  graph : after.read (defaultOutput input) = .ok (Utf8.encode (Json.write (Document.ofDiagram d)))
  drawing : dot = true →
    ∃ t, Dot.write (Document.ofDiagram d) (d.orientation.getD "TB".toList) = .ok t ∧
      after.read (dotOutput (defaultOutput input)) = .ok (Utf8.encode t)
  apart : dot = true →
    after.locate (dotOutput (defaultOutput input)) ≠ after.locate (defaultOutput input)
  frame : Written (fun place => ∃ p ∈ outputs input dot, w.locate p = .ok place) w after
  spared_iff : Spared input dot ↔ ∀ p ∈ outputs input dot, after.locate p ≠ after.locate input
  kept : Spared input dot → after.read input = .ok bytes
  lost : ¬ Spared input dot → input ∈ outputs input dot

section Run

variable {input out : Path} {dot : Bool} {w after : Workspace} {d d' : Diagram}
  {bytes : List UInt8} {text : Text}

/-- A delivery that succeeds wrote the graph, and then the DOT text. -/
theorem deliver_eq_ok (h : deliver w out dot d = (after, .ok d')) :
    d' = d ∧ ∃ w₁, writeText w out (Json.write (Document.ofDiagram d)) = .ok w₁ ∧
      (dot = false → after = w₁) ∧
      (dot = true → ∃ t, Dot.write (Document.ofDiagram d) (d.orientation.getD "TB".toList) = .ok t ∧
        writeText w₁ (dotOutput out) t = .ok after) := by
  unfold deliver writeDot at h
  split at h
  · cases h
  next w₁ hjson =>
    cases dot with
    | false =>
      cases h
      exact ⟨rfl, after, hjson, fun _ => rfl, fun hfalse => by cases hfalse⟩
    | true =>
      rw [if_pos rfl] at h
      cases hdot : Dot.write (Document.ofDiagram d) (d.orientation.getD "TB".toList) with
      | error f =>
        simp only [hdot] at h
        cases h
      | ok t =>
        simp only [hdot] at h
        split at h
        · cases h
        · next hwrite =>
          cases h
          exact ⟨rfl, w₁, hjson, (fun hfalse => by cases hfalse), fun _ => ⟨t, rfl, hwrite⟩⟩

/-- Outputs are delivered exactly if all of them can be written. -/
theorem exists_deliver_iff (hdot : ∃ t, Dot.write (Document.ofDiagram d)
      (d.orientation.getD "TB".toList) = .ok t) :
    (∃ after d', deliver w (defaultOutput input) dot d = (after, .ok d')) ↔
      ∀ p ∈ outputs input dot, Writable w p := by
  constructor
  · rintro ⟨after, d', h⟩ p hp
    obtain ⟨-, w₁, hjson, -, hdrawing⟩ := deliver_eq_ok h
    rcases mem_outputs_iff.mp hp with rfl | ⟨hasked, rfl⟩
    · exact (exists_writeText_iff _).mp ⟨w₁, hjson⟩
    · obtain ⟨t, -, hwrite⟩ := hdrawing hasked
      obtain ⟨place, -, hwritten, -⟩ := replaced_of_writeText hjson
      rw [← writable_iff_of_written hwritten]
      exact (exists_writeText_iff t).mp ⟨after, hwrite⟩
  · intro h
    obtain ⟨w₁, hjson⟩ := (exists_writeText_iff (Json.write (Document.ofDiagram d))).mpr
      (h _ (mem_outputs_iff.mpr (.inl rfl)))
    obtain ⟨t, ht⟩ := hdot
    cases dot with
    | false =>
      refine ⟨w₁, d, ?_⟩
      simp only [deliver, hjson, Bool.false_eq_true, if_false]
    | true =>
      have hsecond := h _ (mem_outputs_iff.mpr (.inr ⟨rfl, rfl⟩))
      obtain ⟨place, -, hwritten, -⟩ := replaced_of_writeText hjson
      rw [← writable_iff_of_written hwritten] at hsecond
      obtain ⟨w₂, hwrite⟩ := (exists_writeText_iff t).mpr hsecond
      refine ⟨w₂, d, ?_⟩
      simp only [deliver, hjson, writeDot, ht, hwrite, if_true]

section Parts

variable (hparts : input.parts ≠ []) (hname : input.name ≠ []) (hread : w.read input = .ok bytes)

include hparts hname hread

/-- Files beside the input were written, so it is still there if none of
them is the input. -/
theorem converted_of_written
    (hframe : Written (fun place => ∃ p ∈ outputs input dot, w.locate p = .ok place) w after)
    (hgraph : after.read (defaultOutput input) =
      .ok (Utf8.encode (Json.write (Document.ofDiagram d))))
    (hdrawing : dot = true →
      ∃ t, Dot.write (Document.ofDiagram d) (d.orientation.getD "TB".toList) = .ok t ∧
        after.read (dotOutput (defaultOutput input)) = .ok (Utf8.encode t)) :
    Converted input bytes d dot w after := by
  obtain ⟨place, hplace, hget⟩ := read_eq_ok.mp hread
  have hafter := hframe.locate hplace
  have hspared : Spared input dot ↔ input ∉ outputs input dot :=
    spared_iff_not_mem_outputs hparts hname
  refine ⟨hgraph, hdrawing, fun _ => ?_, hframe, ?_, fun h => ?_, fun h => ?_⟩
  · obtain ⟨output, houtput, -⟩ := read_eq_ok.mp hgraph
    rw [houtput]
    exact locate_dotOutput_ne hname houtput
  · rw [hspared, hafter]
    refine ⟨fun hmem p hp hsame => ?_, fun hplaces hmem => hplaces input hmem hafter⟩
    exact hmem (eq_of_mem_outputs hparts hname hp hsame hafter ▸ hp)
  · refine hframe.read hplace ?_ hget
    rintro ⟨p, hp, hsame⟩
    exact hspared.mp h (eq_of_mem_outputs hparts hname hp hsame hplace ▸ hp)
  · rwa [hspared, not_not] at h

/-- A delivery beside the input converts it. -/
theorem converted_of_deliver (h : deliver w (defaultOutput input) dot d = (after, .ok d')) :
    Converted input bytes d dot w after := by
  obtain ⟨-, w₁, hjson, hfirst, hsecond⟩ := deliver_eq_ok h
  obtain ⟨place, hplace, hwritten, hget⟩ := replaced_of_writeText hjson
  have htouched : Written (fun place => ∃ p ∈ outputs input dot, w.locate p = .ok place) w w₁ :=
    hwritten.mono fun _ heq => ⟨_, mem_outputs_iff.mpr (.inl rfl), heq ▸ hplace⟩
  cases dot with
  | false =>
    obtain rfl := hfirst rfl
    refine converted_of_written hparts hname hread htouched ?_ (fun hfalse => by cases hfalse)
    exact read_of_write (write_of_writeText hjson)
  | true =>
    obtain ⟨t, ht, hwrite⟩ := hsecond rfl
    obtain ⟨place', hplace', hwritten', -⟩ := replaced_of_writeText hwrite
    have hbefore := hwritten.locate_iff.mp hplace'
    have htouched' : Written (fun place => ∃ p ∈ outputs input true, w.locate p = .ok place) w₁
        after :=
      hwritten'.mono fun _ heq => ⟨_, mem_outputs_iff.mpr (.inr ⟨rfl, rfl⟩), heq ▸ hbefore⟩
    refine converted_of_written hparts hname hread (htouched.trans htouched') ?_
      fun _ => ⟨t, ht, read_of_write (write_of_writeText hwrite)⟩
    -- The DOT text does not go where the graph is.
    refine hwritten'.read (hwritten.locate hplace) ?_ hget
    rintro rfl
    exact locate_dotOutput_ne hname hplace hbefore

end Parts

section One

variable (hread : w.read input = .ok bytes)

include hread

/-- Where a file is, no directory can be made. -/
theorem makeDirectories_of_file : ∃ made e, w.makeDirectories input = (made, some e) := by
  obtain ⟨place, hplace, hget⟩ := read_eq_ok.mp hread
  cases hmake : w.makeDirectories input with
  | mk made error =>
    cases error with
    | some e => exact ⟨made, e, rfl⟩
    | none =>
      have hgrown := grown_makeDirectories w input
      rw [hmake] at hgrown
      obtain ⟨place', hplace', hdirectory⟩ := lookup_eq_ok.mp (lookup_makeDirectories hmake)
      obtain rfl : place = place' := Except.ok.inj ((hgrown.locate hplace).symm.trans hplace')
      have hsame := hgrown.same place (by simp [hget])
      simp [hget, hdirectory] at hsame

/-- A file that the working directory itself is has no place for outputs. -/
theorem not_writable_of_parts (hparts : input.parts = []) : ¬ Writable w (defaultOutput input) := by
  rintro ⟨output, houtput, -⟩
  obtain ⟨place, hplace, hget⟩ := read_eq_ok.mp hread
  obtain ⟨here, hhere, hdirectory, -⟩ := locate_child_eq_ok houtput
  rw [Path.parent_eq_self hparts, hplace] at hhere
  cases hhere
  simp [hget] at hdirectory

theorem convertOne_of_read : convertOne w input none dot =
    match produce w input (defaultOutput input) dot with
    | (after, .ok d) => .success after (converted input (defaultOutput input) d) []
    | (after, .error f) => failed after [] f := by
  have hlookup : w.lookup input = .ok (.file bytes) :=
    lookup_eq_ok.mpr (read_eq_ok.mp hread)
  have hfile : w.isFile input = .ok true := by
    simp only [isFile, leadsTo, hlookup]
    rfl
  simp only [convertOne, hfile]
  rfl

variable (hdecode : Utf8.decode bytes = .ok text)

include hdecode

/-- The directory of the input is there, so nothing is made on the way to
the outputs. -/
theorem produce_of_parts (hparts : input.parts ≠ []) :
    produce w input (defaultOutput input) dot =
      deliver w (defaultOutput input) dot (Mermaid.read (unifyNewlines text)) := by
  obtain ⟨place, hplace, -⟩ := read_eq_ok.mp hread
  rw [← Path.child_parent_name hparts] at hplace
  obtain ⟨here, hhere, hdirectory, -⟩ := locate_child_eq_ok hplace
  have hmake : w.makeDirectories (defaultOutput input).parent = (w, none) := by
    rw [defaultOutput, Path.withSuffix, Path.parent_child]
    exact makeDirectories_of_directory hhere hdirectory
  rw [produce_of_directory hmake, readText_of_read hread, hdecode]

/-- A conversion succeeds exactly if its outputs can be written, and then
the input is converted. -/
theorem convertOne_spec (hname : input.parts ≠ [] → input.name ≠ []) :
    ((convertOne w input none dot).exitCode = 0 ↔ ∀ p ∈ outputs input dot, Writable w p) ∧
      ((convertOne w input none dot).exitCode = 0 → ∃ after,
        convertOne w input none dot =
          .success after (converted input (defaultOutput input)
            (Mermaid.read (unifyNewlines text))) [] ∧
        Converted input bytes (Mermaid.read (unifyNewlines text)) dot w after) := by
  rw [convertOne_of_read hread]
  by_cases hparts : input.parts = []
  · have hparent : (defaultOutput input).parent = input := by
      rw [defaultOutput, Path.withSuffix, Path.parent_child, Path.parent_eq_self hparts]
    obtain ⟨made, e, hmake⟩ := makeDirectories_of_file hread
    have htext : readText w input = .ok (unifyNewlines text) := by
      rw [readText_of_read hread, hdecode]
    simp only [produce, htext, hparent, hmake, exitCode_failed]
    refine ⟨iff_of_false (by decide) fun h => ?_, fun h => by cases h⟩
    exact not_writable_of_parts hread hparts (h _ (mem_outputs_iff.mpr (.inl rfl)))
  · have hdot := exists_dot_read (unifyNewlines text)
      ((Mermaid.read (unifyNewlines text)).orientation.getD "TB".toList)
    rw [produce_of_parts hread hdecode hparts, ← exists_deliver_iff hdot]
    cases hdeliver : deliver w (defaultOutput input) dot (Mermaid.read (unifyNewlines text)) with
    | mk after result =>
      cases result with
      | error f =>
        simp only [exitCode_failed]
        exact ⟨iff_of_false (by decide) (by rintro ⟨_, _, h⟩; cases h), fun h => by cases h⟩
      | ok d =>
        obtain rfl := (deliver_eq_ok hdeliver).1
        refine ⟨iff_of_true rfl ⟨after, _, rfl⟩, fun _ => ⟨after, rfl, ?_⟩⟩
        exact converted_of_deliver hparts (hname hparts) hread hdeliver

end One

end Run

/-! ## §5 Inputs -/

/-- The file that the arguments name. -/
def inputPath (taken : Taken) : Path := Path.parse (taken.operand.getD [])

/-- A run that is to convert one file of text, and is told no place for
the graph, succeeds exactly if its outputs can be written. Then the graph
is at the path that it prints, and the DOT text at another one. The input
is as before if it is spared; otherwise it is one of these outputs. -/
theorem run_spares_input {arguments : List Text} {taken : Taken} {w : Workspace}
    {bytes : List UInt8} {text : Text} (hparse : parse grammar arguments = .ok taken)
    (hone : taken.has "-b".toList = false) (hplace : (taken.given "-o".toList).value? = none)
    (hread : w.read (inputPath taken) = .ok bytes) (hdecode : Utf8.decode bytes = .ok text)
    (stdin : Text) :
    ((command.run arguments stdin w).exitCode = 0 ↔
      ∀ p ∈ outputs (inputPath taken) (taken.has "--dot".toList), Writable w p) ∧
    ((command.run arguments stdin w).exitCode = 0 → ∃ after,
      command.run arguments stdin w =
        .success after (converted (inputPath taken) (defaultOutput (inputPath taken))
          (Mermaid.read (unifyNewlines text))) [] ∧
      Converted (inputPath taken) bytes (Mermaid.read (unifyNewlines text))
        (taken.has "--dot".toList) w after) := by
  have hbody : body taken stdin w =
      convertOne w (inputPath taken) none (taken.has "--dot".toList) := by
    rw [body, hone, hplace, Option.map_none, if_neg (by decide), inputPath]
  have hrun : command.run arguments stdin w = body taken stdin w :=
    Command.run_of_parse command hparse stdin w
  rw [hrun, hbody]
  exact convertOne_spec hread hdecode Path.name_parse_ne_nil

/-- A flowchart of one node. -/
def oneNodeChart : Text := "flowchart LR\nA".toList

/-- A file of the given name that holds the flowchart. -/
def chartFile (name : Text) : Workspace := ⟨⟨[([name], .file (Utf8.encode oneNodeChart))]⟩, []⟩

/-- Its drawing. -/
def oneNodeDrawing : Text :=
  "digraph G \x7b\n\trankdir=LR\n\tnode [shape=box]\n\tA [label=A]\n\x7d\n".toList

/-- A diagram file is there afterwards, beside its two outputs. -/
theorem run_spares_input_chart :
    parse grammar ["a.mmd".toList, "--dot".toList] =
        .ok ⟨[], ["--dot".toList], some "a.mmd".toList, []⟩ ∧
      Spared (Path.parse "a.mmd".toList) true ∧
      (∀ p ∈ outputs (Path.parse "a.mmd".toList) true, Writable (chartFile "a.mmd".toList) p) ∧
      ∃ after, command.run ["a.mmd".toList, "--dot".toList] [] (chartFile "a.mmd".toList) =
          .success after (converted (Path.parse "a.mmd".toList) (Path.parse "a.json".toList)
            (Mermaid.read oneNodeChart)) [] ∧
        Converted (Path.parse "a.mmd".toList) (Utf8.encode oneNodeChart)
          (Mermaid.read oneNodeChart) true (chartFile "a.mmd".toList) after ∧
        after.read (Path.parse "a.json".toList) = .ok (Utf8.encode (oneNodeGraph ['A'])) ∧
        after.read (Path.parse "a.dot".toList) = .ok (Utf8.encode oneNodeDrawing) := by
  have hparse : parse grammar ["a.mmd".toList, "--dot".toList] =
      .ok ⟨[], ["--dot".toList], some "a.mmd".toList, []⟩ := by decide
  have hspared : Spared (Path.parse "a.mmd".toList) true := by
    unfold Spared
    decide
  have hsucceeds : (command.run ["a.mmd".toList, "--dot".toList] []
      (chartFile "a.mmd".toList)).exitCode = 0 := by
    decide +kernel
  obtain ⟨hwritable, hrun⟩ := run_spares_input (w := chartFile "a.mmd".toList) hparse rfl rfl rfl
    (Utf8.decode_encode oneNodeChart) []
  obtain ⟨after, hafter, hconverted⟩ := hrun hsucceeds
  have hworkspace : (command.run ["a.mmd".toList, "--dot".toList] []
      (chartFile "a.mmd".toList)).workspace = after := congrArg Outcome.workspace hafter
  refine ⟨hparse, hspared, hwritable.mp hsucceeds, after, hafter, hconverted, ?_⟩
  rw [← hworkspace]
  decide +kernel

/-- A diagram in a file that has the suffix of an output is lost: the run
ends well, and the file holds the graph, or the DOT text. -/
theorem run_overwrites_input :
    (let o := command.run ["a.json".toList] [] (chartFile "a.json".toList)
     o.exitCode = 0 ∧
      o.workspace.read (Path.parse "a.json".toList) =
        .ok (Utf8.encode (Json.write (Document.ofDiagram (Mermaid.read oneNodeChart)))) ∧
      o.workspace.read (Path.parse "a.json".toList) ≠ .ok (Utf8.encode oneNodeChart)) ∧
    (let o := command.run ["a.dot".toList, "--dot".toList] [] (chartFile "a.dot".toList)
     o.exitCode = 0 ∧
      o.workspace.read (Path.parse "a.dot".toList) = .ok (Utf8.encode oneNodeDrawing) ∧
      o.workspace.read (Path.parse "a.dot".toList) ≠ .ok (Utf8.encode oneNodeChart)) := by
  decide +kernel

end DiagramGraph.Cli.Convert
