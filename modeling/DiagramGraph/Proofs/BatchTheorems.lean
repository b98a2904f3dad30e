/-
DiagramGraph.Proofs.BatchTheorems — converting a directory is converting
its files.

  §1 Summaries    — what the summary says (`Tallied.summary_eq`): each
                    file is counted once, and those that did not fail
                    have an entry.
  §2 Directories  — `convertDirectory_perFile`: each file fares as if it
                    were alone, and the summary counts them.
  §3 Lost graphs  — the output paths differ exactly if no two names
                    collide (`outputPaths_differ_iff_apart`), and names
                    that do collide (`outputPaths_collide`).
-/
import DiagramGraph.Proofs.Deliveries

namespace DiagramGraph.Cli.Convert

open Text Files Workspace

/-! ## §1 Summaries -/

/-- The entry of a file that was converted under a name: its dialect, and
how many nodes, links and statements that were set aside there are. -/
def convertedEntry (id : Text) (d : Diagram) : Json.Value :=
  .obj [("id".toList, .str id),
    ("dialect".toList, .str (match d.dialect with
      | none => "empty".toList
      | some .classDiagram => "classDiagram".toList
      | some .flowchart => "flowchart".toList)),
    ("nodes".toList, .int d.nodes.length), ("links".toList, .int d.links.length),
    ("skipped".toList, .int d.unread.length)]

/-- The reports count so many files with nodes, so many without and so
many that failed, and have these entries, in the order of the files. A
file that failed has none. -/
inductive Tallied : List Report → (success empty failed : Nat) → List Json.Value → Prop
  | nil : Tallied [] 0 0 0 []
  | success {r : Report} {d : Diagram} {reports : List Report} {s e f : Nat}
      {entries : List Json.Value} (hresult : r.result = .ok d) (hnodes : d.nodes ≠ [])
      (rest : Tallied reports s e f entries) :
      Tallied (r :: reports) (s + 1) e f (convertedEntry r.id d :: entries)
  | empty {r : Report} {d : Diagram} {reports : List Report} {s e f : Nat}
      {entries : List Json.Value} (hresult : r.result = .ok d) (hnodes : d.nodes = [])
      (rest : Tallied reports s e f entries) :
      Tallied (r :: reports) s (e + 1) f (convertedEntry r.id d :: entries)
  | failed {r : Report} {fault : Failure} {reports : List Report} {s e f : Nat}
      {entries : List Json.Value} (hresult : r.result = .error fault)
      (rest : Tallied reports s e f entries) : Tallied (r :: reports) s e (f + 1) entries

/-- The document of a summary. -/
def summaryDocument (total success failed empty : Nat) (entries : List Json.Value) : Json.Value :=
  .obj [("stats".toList, .obj
      [("total".toList, .int total), ("success".toList, .int success),
       ("failed".toList, .int failed), ("empty".toList, .int empty)]),
    ("results".toList, .arr entries)]

theorem entry?_of_ok {r : Report} {d : Diagram} (h : r.result = .ok d) :
    r.entry? = some (convertedEntry r.id d) := by
  simp only [Report.entry?, h, convertedEntry, dialectWord]
  rcases d.dialect with _ | _ | _ <;> rfl

theorem entry?_of_error {r : Report} {f : Failure} (h : r.result = .error f) :
    r.entry? = none := by
  rw [Report.entry?, h]

/-- Any reports can be counted. -/
theorem exists_tallied (reports : List Report) :
    ∃ success empty failed entries, Tallied reports success empty failed entries := by
  induction reports with
  | nil => exact ⟨0, 0, 0, [], .nil⟩
  | cons r reports ih =>
    obtain ⟨s, e, f, entries, rest⟩ := ih
    cases hresult : r.result with
    | error fault => exact ⟨_, _, _, _, .failed hresult rest⟩
    | ok d =>
      by_cases hnodes : d.nodes = []
      · exact ⟨_, _, _, _, .empty hresult hnodes rest⟩
      · exact ⟨_, _, _, _, .success hresult hnodes rest⟩

section Tallied

variable {reports : List Report} {success empty failed : Nat} {entries : List Json.Value}
  (h : Tallied reports success empty failed entries)

include h

/-- Every file was converted, held no node or failed. -/
theorem Tallied.length_eq : reports.length = success + empty + failed := by
  induction h with
  | nil => rfl
  | success _ _ _ ih | empty _ _ _ ih | failed _ _ ih =>
    rw [List.length_cons, ih]
    omega

theorem Tallied.statsOf_eq :
    statsOf reports = ⟨reports.length, success, failed, empty⟩ := by
  induction h with
  | nil => rfl
  | success hresult hnodes _ ih | empty hresult hnodes _ ih =>
    simp only [statsOf, Stats.mk.injEq, true_and] at ih
    simp [statsOf, Report.isSuccess, Report.isFailed, Report.isEmpty, hresult, hnodes, ih]
  | failed hresult _ ih =>
    simp only [statsOf, Stats.mk.injEq, true_and] at ih
    simp [statsOf, Report.isSuccess, Report.isFailed, Report.isEmpty, hresult, ih]

theorem Tallied.entries_eq : reports.filterMap Report.entry? = entries := by
  induction h with
  | nil => rfl
  | success hresult _ _ ih | empty hresult _ _ ih =>
    rw [List.filterMap_cons_some (entry?_of_ok hresult), ih]
  | failed hresult _ ih =>
    rw [List.filterMap_cons_none (entry?_of_error hresult), ih]

/-- The summary of a batch is the document of what is counted. -/
theorem Tallied.summary_eq :
    summary reports = summaryDocument reports.length success failed empty entries := by
  rw [summary, h.statsOf_eq, h.entries_eq]
  rfl

end Tallied

/-! ## §2 Directories -/

theorem isBefore_trans : ∀ a b c : Text, isBefore a b = true → isBefore b c = true →
    isBefore a c = true
  | [], _, _, _, _ => rfl
  | _ :: _, [], _, h, _ => by cases h
  | _ :: _, _ :: _, [], _, h => by cases h
  | x :: a, y :: b, z :: c, hab, hbc => by
      simp only [isBefore] at hab hbc ⊢
      by_cases hxy : x = y
      · subst hxy
        rw [if_pos rfl] at hab
        split_ifs at hbc ⊢ with hxz
        · exact isBefore_trans a b c hab hbc
        · exact hbc
      · rw [if_neg hxy, decide_eq_true_eq] at hab
        split_ifs at hbc ⊢ with hxz hyz hyz
        · exact absurd (hxz.trans hyz.symm) hxy
        · rw [decide_eq_true_eq, ← hxz] at hbc
          omega
        · rw [← hyz]
          exact decide_eq_true hab
        · rw [decide_eq_true_eq] at hbc ⊢
          omega

theorem isBefore_total : ∀ a b : Text, (isBefore a b || isBefore b a) = true
  | [], _ => rfl
  | _ :: _, [] => rfl
  | x :: a, y :: b => by
      simp only [isBefore]
      by_cases hxy : x = y
      · subst hxy
        simpa using isBefore_total a b
      · have hne : x.toNat ≠ y.toNat := fun h => hxy (Char.toNat_inj.mp h)
        simp only [if_neg hxy, if_neg (Ne.symm hxy), Bool.or_eq_true, decide_eq_true_eq]
        omega

theorem isBefore_antisymm : ∀ a b : Text, isBefore a b = true → isBefore b a = true → a = b
  | [], [], _, _ => rfl
  | [], _ :: _, _, h => by cases h
  | _ :: _, [], h, _ => by cases h
  | x :: a, y :: b, hab, hba => by
      simp only [isBefore] at hab hba
      by_cases hxy : x = y
      · subst hxy
        rw [if_pos rfl] at hab hba
        rw [isBefore_antisymm a b hab hba]
      · rw [if_neg hxy, decide_eq_true_eq] at hab
        rw [if_neg (Ne.symm hxy), decide_eq_true_eq] at hba
        omega

/-- There is only one order of the names. -/
theorem mergeSort_isBefore {names files : List Text} (hperm : names.Perm files)
    (hsorted : files.Pairwise fun a b => isBefore a b = true) : names.mergeSort isBefore = files :=
  ((names.mergeSort_perm isBefore).trans hperm).eq_of_pairwise
    (fun a b _ _ => isBefore_antisymm a b) (List.pairwise_mergeSort isBefore_trans isBefore_total _)
    hsorted

/-- Any list of the diagram files that is in order is the one that is
selected. -/
theorem selected_of_perm {w : Workspace} {dir : Path} {names files : List Text}
    (hlist : w.list dir = .ok names)
    (hperm : (names.filter fun name => isDiagramName name && (match w.lookup (dir.child name) with
      | .ok (.file _) => true
      | _ => false)).Perm files)
    (hsorted : files.Pairwise fun a b => isBefore a b = true) : selected w dir = .ok files := by
  rw [selected, hlist]
  exact congrArg Except.ok (mergeSort_isBefore hperm hsorted)

/-- The diagram files of a directory, in order. -/
theorem selected_spec {w : Workspace} {dir : Path} {files : List Text} {here : Location}
    (h : selected w dir = .ok files) (hdir : w.locate dir = .ok here)
    (hdirectory : w.tree.get? here = some .directory) :
    files.Pairwise (fun a b => isBefore a b = true) ∧
      ∀ name ∈ files, ∃ bytes, Input dir here w name bytes := by
  unfold selected at h
  split at h
  · cases h
  next names hlist =>
    cases h
    refine ⟨List.pairwise_mergeSort isBefore_trans isBefore_total _, fun name hname => ?_⟩
    rw [List.mem_mergeSort, List.mem_filter, Bool.and_eq_true] at hname
    obtain ⟨-, hdiagram, hfile⟩ := hname
    split at hfile
    · next bytes hlookup =>
      obtain ⟨place, hlocate, hget⟩ := lookup_eq_ok.mp hlookup
      have hparent : name ≠ "..".toList := by
        rintro rfl
        cases hdiagram
      obtain rfl := placeIn_eq_ok ((locate_child hdir hdirectory name).symm.trans hlocate) hparent
      exact ⟨bytes, hdiagram, hlocate, hget⟩
    · cases hfile

theorem exitCode_failed (w : Workspace) (stdout : Text) (f : Failure) :
    (failed w stdout f).exitCode = 1 := by
  unfold failed
  split <;> rfl

theorem convertFiles_eq_zero {w : Workspace} {dir outDir : Path} {dot : Bool} {files : List Text}
    (h : (convertFiles w dir outDir files dot).exitCode = 0) :
    ∃ w₁ reports, produceAll files dir outDir dot w files = (w₁, reports, none) ∧
      writeText w₁ (summaryPath outDir) (Json.write (summary reports)) =
        .ok (convertFiles w dir outDir files dot).workspace := by
  unfold convertFiles at h ⊢
  cases hall : produceAll files dir outDir dot w files with
  | mk w₁ more =>
    obtain ⟨reports, broken⟩ := more
    rw [hall] at h
    cases broken with
    | some f => cases h
    | none =>
      refine ⟨w₁, reports, rfl, ?_⟩
      dsimp only at h ⊢
      cases hwrite : writeText w₁ (summaryPath outDir) (Json.write (summary reports)) with
      | error f =>
        rw [hwrite] at h
        simp [exitCode_failed] at h
      | ok w₂ => rfl

theorem convertDirectory_eq {w made : Workspace} {dir outDir : Path} {dot : Bool}
    {files : List Text} (hdir : w.isDirectory dir = .ok true)
    (hmake : w.makeDirectories outDir = (made, none)) (hselected : selected made dir = .ok files)
    (hfound : files ≠ []) :
    convertDirectory w dir outDir dot = convertFiles made dir outDir files dot := by
  obtain ⟨first, rest, rfl⟩ := List.exists_cons_of_ne_nil hfound
  simp only [convertDirectory, hdir, hmake, hselected]

/-- A batch that ends well made its directory, and went through its
files. -/
theorem convertDirectory_eq_zero {w : Workspace} {dir outDir : Path} {dot : Bool}
    {files : List Text} (hselected : selected (w.makeDirectories outDir).1 dir = .ok files)
    (hfound : files ≠ []) (h : (convertDirectory w dir outDir dot).exitCode = 0) :
    w.lookup dir = .ok .directory ∧ (w.makeDirectories outDir).2 = none ∧
      convertDirectory w dir outDir dot =
        convertFiles (w.makeDirectories outDir).1 dir outDir files dot := by
  unfold convertDirectory at h
  cases hdir : w.isDirectory dir with
  | error e =>
    rw [hdir] at h
    simp [exitCode_failed] at h
  | ok isDir =>
    rw [hdir] at h
    cases isDir with
    | false => cases h
    | true =>
      refine ⟨lookup_of_isDirectory hdir, ?_⟩
      cases hmake : w.makeDirectories outDir with
      | mk made error =>
        rw [hmake] at h hselected
        cases error with
        | some e => simp [exitCode_failed] at h
        | none => exact ⟨rfl, convertDirectory_eq hdir hmake hselected hfound⟩

/-- What a batch that ends well leaves behind. -/
structure BatchRun (files : List Text) (dir outDir : Path) (dot : Bool) (here out : Location)
    (made after : Workspace) : Prop where
  site : Site dir outDir here out made
  sorted : files.Pairwise (fun a b => isBefore a b = true)
  inputs : ∀ name ∈ files, ∃ bytes, Input dir here made name bytes
  summary : after.read (summaryPath outDir) =
    .ok (Utf8.encode (Json.write (summary (files.map (alone files dir outDir dot made)))))
  written : Written (fun place => Outputs files dir out dot made files place ∨
    place = out ++ [summaryId ++ ".json".toList]) made after
  delivered : ∀ name ∈ files, ∀ d, (alone files dir outDir dot made name).result = .ok d →
    Delivered files outDir dot name d after

theorem exists_batchRun {w : Workspace} {dir outDir : Path} {dot : Bool}
    {files : List Text} (hselected : selected (w.makeDirectories outDir).1 dir = .ok files)
    (hfound : files ≠ []) (hids : (files.map (outputId files)).Nodup)
    (hsummary : summaryId ∉ files.map (outputId files))
    (hreturned : (convertDirectory w dir outDir dot).exitCode = 0) :
    ∃ here out, w.locate dir = .ok here ∧ w.tree.get? here = some .directory ∧
      BatchRun files dir outDir dot here out (w.makeDirectories outDir).1
        (convertDirectory w dir outDir dot).workspace := by
  obtain ⟨hlookup, hmade, hconvert⟩ := convertDirectory_eq_zero hselected hfound hreturned
  rw [hconvert] at hreturned ⊢
  obtain ⟨w₁, reports, hall, hwrite⟩ := convertFiles_eq_zero hreturned
  obtain ⟨here, hhere, hdirectory⟩ := lookup_eq_ok.mp hlookup
  have hgrown := grown_makeDirectories w outDir
  have hmake : w.makeDirectories outDir = ((w.makeDirectories outDir).1, none) := Prod.ext rfl hmade
  obtain ⟨out, hout, houtDirectory⟩ := lookup_eq_ok.mp (lookup_makeDirectories hmake)
  have hs : Site dir outDir here out (w.makeDirectories outDir).1 :=
    ⟨hgrown.locate hhere, hgrown.directory hdirectory, hout, houtDirectory⟩
  obtain ⟨hsorted, hinputs⟩ := selected_spec hselected hs.dir hs.hereDirectory
  obtain ⟨rfl, hwritten, hdelivered⟩ := produceAll_spec hs hinputs hids hall
  have hs₁ := hs.written hwritten
  have hsummaryWrite := write_of_writeText hwrite
  obtain ⟨place, hplace, -, -⟩ := write_eq_ok hsummaryWrite
  obtain rfl : place = out ++ [summaryId ++ ".json".toList] :=
    placeIn_eq_ok ((locate_child hs₁.outDir hs₁.outDirectory _).symm.trans hplace)
      (output_ne_parent summaryId (by simp))
  have hlast := (written_of_write hsummaryWrite hplace).1
  refine ⟨here, out, hhere, hdirectory, hs, hsorted, hinputs, read_of_write hsummaryWrite,
    (hwritten.mono fun _ => .inl).trans (hlast.mono fun _ => .inr), fun name hname d hd => ?_⟩
  obtain ⟨bytes, hin⟩ := hinputs name hname
  refine (hdelivered name hname d hd).written hs₁ hin.diagram hlast fun place hplace heq => ?_
  have hid : outputId files name ≠ summaryId := fun h => hsummary (h ▸ List.mem_map_of_mem hname)
  exact not_outputPlace_summary hid (heq ▸ hplace)

/-- The summary counts the files, and lists those that were converted. -/
theorem BatchRun.exists_tallied {files : List Text} {dir outDir : Path} {dot : Bool}
    {here out : Location} {made after : Workspace}
    (run : BatchRun files dir outDir dot here out made after) :
    ∃ success empty failed entries,
      Tallied (files.map (alone files dir outDir dot made)) success empty failed entries ∧
      files.length = success + empty + failed ∧
      after.read (summaryPath outDir) = .ok (Utf8.encode (Json.write
        (summaryDocument files.length success failed empty entries))) := by
  obtain ⟨success, empty, failed, entries, h⟩ :=
    Convert.exists_tallied (files.map (alone files dir outDir dot made))
  have hlength := h.length_eq
  have hread := run.summary
  rw [h.summary_eq] at hread
  rw [List.length_map] at hlength hread
  exact ⟨success, empty, failed, entries, h, hlength, hread⟩

/-- One file of a batch, before and after. It is converted as it is
alone, once the directory for the outputs was made; it stays as it is;
its outputs are those of its text; and if it is no text, it fails and
nothing is written for it. -/
structure PerFile (files : List Text) (dir outDir : Path) (dot : Bool) (w after : Workspace)
    (r : Report) : Prop where
  id : r.id = outputId files r.name
  alone : r.result = (produce (w.makeDirectories outDir).1 (dir.child r.name)
    (outputPath files outDir r.name) dot).2
  kept : ∃ bytes, w.read (dir.child r.name) = .ok bytes ∧
    after.read (dir.child r.name) = .ok bytes
  converted : ∀ d, r.result = .ok d → ∃ t, readText w (dir.child r.name) = .ok t ∧
    d = Mermaid.read t ∧ Delivered files outDir dot r.name d after
  unreadable : ∀ bytes f, w.read (dir.child r.name) = .ok bytes → Utf8.decode bytes = .error f →
    r.result = .error (.notUtf8 f) ∧ ∀ p ∈ [outputPath files outDir r.name,
      dotOutput (outputPath files outDir r.name)],
        after.lookup p = (w.makeDirectories outDir).1.lookup p

section PerFile

variable {files : List Text} {dir outDir : Path} {dot : Bool} {here out : Location}
  {w after : Workspace} {name : Text} {bytes : List UInt8}

/-- A diagram file stays as it is, from before the batch to its end. -/
theorem BatchRun.read_input (run : BatchRun files dir outDir dot here out
      (w.makeDirectories outDir).1 after)
    (hhere : w.locate dir = .ok here) (hdirectory : w.tree.get? here = some .directory)
    (hin : Input dir here (w.makeDirectories outDir).1 name bytes) :
    w.read (dir.child name) = .ok bytes ∧ after.read (dir.child name) = .ok bytes := by
  have hlocate : w.locate (dir.child name) = .ok (here ++ [name]) := by
    rw [locate_child hhere hdirectory,
      ← locate_child run.site.dir run.site.hereDirectory, hin.located]
  have hcontents := (grown_makeDirectories w outDir).file hin.contents
  refine ⟨read_eq_ok.mpr ⟨_, hlocate, hcontents⟩, run.written.read hin.located ?_ hin.contents⟩
  rintro (⟨other, hother, -, hplace⟩ | hplace)
  · obtain ⟨_, hin'⟩ := run.inputs other hother
    exact not_outputPlace_input hin.diagram hin'.diagram hplace
  · have hsummary : isDiagramName (summaryId ++ ".json".toList) = false := by decide
    have hname : name = summaryId ++ ".json".toList := by
      simpa using (List.append_inj' hplace rfl).2
    rw [← hname, hin.diagram] at hsummary
    cases hsummary

/-- The outputs of a file that is no text are not touched. -/
theorem BatchRun.lookup_outputs (run : BatchRun files dir outDir dot here out
      (w.makeDirectories outDir).1 after) (hids : (files.map (outputId files)).Nodup)
    (hsummary : summaryId ∉ files.map (outputId files)) (hname : name ∈ files)
    (hin : Input dir here (w.makeDirectories outDir).1 name bytes) {f : Utf8.Fault}
    (hbytes : Utf8.decode bytes = .error f) :
    ∀ p ∈ [outputPath files outDir name, dotOutput (outputPath files outDir name)],
      after.lookup p = (w.makeDirectories outDir).1.lookup p := by
  have huntouched : ∀ place, OutputPlace files out true name place →
      ¬ (Outputs files dir out dot (w.makeDirectories outDir).1 files place ∨
        place = out ++ [summaryId ++ ".json".toList]) := by
    rintro place hplace (⟨other, hother, ⟨t, ht⟩, hplace'⟩ | rfl)
    · by_cases hsame : outputId files other = outputId files name
      · obtain rfl := List.inj_on_of_nodup_map hids hother hname hsame
        rw [hin.readText, hbytes] at ht
        cases ht
      · exact not_outputPlace_other hsame hplace hplace'.of_dot
    · have hid : outputId files name ≠ summaryId := fun h =>
        hsummary (h ▸ List.mem_map_of_mem hname)
      exact not_outputPlace_summary hid hplace
  rw [dotOutput_outputPath hin.diagram]
  simp only [List.forall_mem_cons]
  refine ⟨?_, ?_, by simp⟩
  · exact run.site.lookup_output run.written (output_ne_parent _ (by simp))
      (huntouched _ (.inl rfl))
  · exact run.site.lookup_output run.written (output_ne_parent _ (by simp))
      (huntouched _ (.inr ⟨rfl, rfl⟩))

theorem BatchRun.perFile (run : BatchRun files dir outDir dot here out
      (w.makeDirectories outDir).1 after)
    (hhere : w.locate dir = .ok here) (hdirectory : w.tree.get? here = some .directory)
    (hids : (files.map (outputId files)).Nodup)
    (hsummary : summaryId ∉ files.map (outputId files)) (hname : name ∈ files) :
    PerFile files dir outDir dot w after
      (alone files dir outDir dot (w.makeDirectories outDir).1 name) := by
  obtain ⟨bytes, hin⟩ := run.inputs name hname
  obtain ⟨hbefore, hafter⟩ := run.read_input hhere hdirectory hin
  have htext : readText w (dir.child name) =
      readText (w.makeDirectories outDir).1 (dir.child name) := by
    rw [Cli.readText, Cli.readText, hbefore, hin.read]
  refine ⟨rfl, rfl, ⟨bytes, hbefore, hafter⟩, fun d hd => ?_, fun bytes' f hbytes hdecode => ?_⟩
  · obtain ⟨t, ht, hd', -⟩ := delivered_produce run.site hin hd
    exact ⟨t, htext.trans ht, hd', run.delivered name hname d hd⟩
  · obtain rfl : bytes = bytes' := Except.ok.inj (hbefore.symm.trans hbytes)
    refine ⟨?_, run.lookup_outputs hids hsummary hname hin hdecode⟩
    show (produce _ _ _ _).2 = _
    rw [produce_eq run.site hin, hdecode]

end PerFile

/-- Converting a directory is converting its files. The files are those
of the directory in order; each of them is counted once, and the summary
lists those that did not fail; only the summary and the outputs of files
that are text are written. -/
theorem convertDirectory_perFile {w : Workspace} {dir outDir : Path} {dot : Bool}
    {files : List Text} (hselected : selected (w.makeDirectories outDir).1 dir = .ok files)
    (hfound : files ≠ []) (hdiffer : (files.map (outputPath files outDir)).Nodup)
    (hsummary : summaryPath outDir ∉ files.map (outputPath files outDir))
    (hreturned : (convertDirectory w dir outDir dot).exitCode = 0) :
    ∃ (reports : List Report) (success empty failed : Nat) (entries : List Json.Value),
      reports.map Report.name = files ∧ files.Pairwise (fun a b => isBefore a b = true) ∧
      Tallied reports success empty failed entries ∧
      files.length = success + empty + failed ∧
      (convertDirectory w dir outDir dot).workspace.read (summaryPath outDir) =
        .ok (Utf8.encode (Json.write
          (summaryDocument files.length success failed empty entries))) ∧
      (∀ r ∈ reports,
        PerFile files dir outDir dot w (convertDirectory w dir outDir dot).workspace r) ∧
      ∃ out, (w.makeDirectories outDir).1.locate outDir = .ok out ∧
        Written (fun place => Outputs files dir out dot (w.makeDirectories outDir).1 files place ∨
            place = out ++ [summaryId ++ ".json".toList])
          (w.makeDirectories outDir).1 (convertDirectory w dir outDir dot).workspace := by
  obtain ⟨hids, hsummaryId⟩ := (nodup_outputPath_iff files outDir).mp ⟨hdiffer, hsummary⟩
  obtain ⟨here, out, hhere, hdirectory, run⟩ :=
    exists_batchRun hselected hfound hids hsummaryId hreturned
  obtain ⟨success, empty, failed, entries, htallied, hlength, hread⟩ := run.exists_tallied
  refine ⟨files.map (alone files dir outDir dot (w.makeDirectories outDir).1), success, empty,
    failed, entries, map_name_alone _ _, run.sorted, htallied, hlength, hread, fun r hr => ?_, out,
    run.site.outDir, run.written⟩
  obtain ⟨name, hname, rfl⟩ := List.mem_map.mp hr
  exact run.perFile hhere hdirectory hids hsummaryId hname

/-- A directory with a flowchart, a file that is no text and a file
without nodes. -/
def mixedFolder : Workspace :=
  ⟨⟨[(["in".toList], .directory),
     (["in".toList, "b.txt".toList], .file [0xFF]),
     (["in".toList, "c.mermaid".toList], .file []),
     (["in".toList, "a.mmd".toList], .file (Utf8.encode "flowchart LR\nX --> Y".toList))]⟩, []⟩

/-- Its files, in order. -/
def mixedFiles : List Text := ["a.mmd".toList, "b.txt".toList, "c.mermaid".toList]

/-- The summary of its conversion. -/
def mixedSummary : Text :=
  ['\n'].intercalate
    ["\x7b".toList, "  \"stats\": \x7b".toList, "    \"total\": 3,".toList,
     "    \"success\": 1,".toList, "    \"failed\": 1,".toList, "    \"empty\": 1".toList,
     "  \x7d,".toList, "  \"results\": [".toList, "    \x7b".toList, "      \"id\": \"a\",".toList,
     "      \"dialect\": \"flowchart\",".toList, "      \"nodes\": 2,".toList,
     "      \"links\": 1,".toList, "      \"skipped\": 0".toList, "    \x7d,".toList,
     "    \x7b".toList, "      \"id\": \"c\",".toList, "      \"dialect\": \"empty\",".toList,
     "      \"nodes\": 0,".toList, "      \"links\": 0,".toList, "      \"skipped\": 0".toList,
     "    \x7d".toList, "  ]".toList, "\x7d".toList]

/-- The graph of its flowchart. -/
def mixedGraph : Text :=
  ['\n'].intercalate
    ["\x7b".toList, "  \"nodes\": [".toList, "    \x7b".toList, "      \"id\": \"X\",".toList,
     "      \"label\": \"X\",".toList, "      \"members\": [],".toList,
     "      \"stereotype\": null".toList, "    \x7d,".toList, "    \x7b".toList,
     "      \"id\": \"Y\",".toList, "      \"label\": \"Y\",".toList,
     "      \"members\": [],".toList, "      \"stereotype\": null".toList, "    \x7d".toList,
     "  ],".toList, "  \"links\": [".toList, "    \x7b".toList, "      \"source\": \"X\",".toList,
     "      \"target\": \"Y\",".toList, "      \"type\": \"association\",".toList,
     "      \"label\": \"\"".toList, "    \x7d".toList, "  ]".toList, "\x7d".toList]

/-- The drawing of its flowchart. -/
def mixedDrawing : Text :=
  "digraph G \x7b\n\trankdir=LR\n\tnode [shape=box]\n\tX [label=X]\n".toList ++
    "\tY [label=Y]\n\tX -> Y [arrowhead=normal]\n\x7d\n".toList

/-- The outputs may go to the directory itself. -/
theorem convertDirectory_perFile_mixed :
    let dir : Path := ⟨[], ["in".toList]⟩
    let after := (convertDirectory mixedFolder dir dir true).workspace
    selected (mixedFolder.makeDirectories dir).1 dir = .ok mixedFiles ∧
      (∃ (reports : List Report) (success empty failed : Nat) (entries : List Json.Value),
        reports.map Report.name = mixedFiles ∧
        Tallied reports success empty failed entries ∧ 3 = success + empty + failed ∧
        ∀ r ∈ reports, PerFile mixedFiles dir dir true mixedFolder after r) ∧
      after.read (dir.child "conversion_summary.json".toList) = .ok (Utf8.encode mixedSummary) ∧
      after.read (dir.child "a.json".toList) = .ok (Utf8.encode mixedGraph) ∧
      after.read (dir.child "a.dot".toList) = .ok (Utf8.encode mixedDrawing) := by
  intro dir after
  have hmake : mixedFolder.makeDirectories dir = (mixedFolder, none) := by
    decide +kernel
  have hdir : mixedFolder.isDirectory dir = .ok true := by decide +kernel
  have hlist : mixedFolder.list dir =
      .ok ["b.txt".toList, "c.mermaid".toList, "a.mmd".toList] := by decide +kernel
  have hthere : selected mixedFolder dir = .ok mixedFiles :=
    selected_of_perm hlist (by decide +kernel) (by decide)
  have hselected : selected (mixedFolder.makeDirectories dir).1 dir = .ok mixedFiles := by
    rw [hmake]
    exact hthere
  have hrun : convertDirectory mixedFolder dir dir true =
      convertFiles mixedFolder dir dir mixedFiles true :=
    convertDirectory_eq hdir hmake hthere (by decide)
  have hreturned : (convertDirectory mixedFolder dir dir true).exitCode = 0 := by
    rw [hrun]
    decide +kernel
  obtain ⟨reports, success, empty, failed, entries, hnames, -, htallied, hcount, -, hfiles, -⟩ :=
    convertDirectory_perFile hselected (by decide) (by decide +kernel) (by decide +kernel) hreturned
  refine ⟨hselected, ⟨reports, success, empty, failed, entries, hnames, htallied, hcount, hfiles⟩, ?_⟩
  rw [show after = (convertFiles mixedFolder dir dir mixedFiles true).workspace from
    congrArg Outcome.workspace hrun]
  decide +kernel

/-! ## §3 Lost graphs -/

theorem isDiagramName_of_selected {w : Workspace} {dir : Path} {files : List Text}
    (h : selected w dir = .ok files) : ∀ name ∈ files, isDiagramName name = true := by
  intro name hname
  unfold selected at h
  split at h
  · cases h
  · cases h
    rw [List.mem_mergeSort, List.mem_filter, Bool.and_eq_true] at hname
    exact hname.2.1

/-- The graphs of a batch are written to different files, none of them
that of the summary, exactly if its files are apart. Then, after a batch
that ends well, the graph of each converted file is there under the name
that the summary lists for it. -/
theorem outputPaths_differ_iff_apart {w : Workspace} {dir outDir : Path} {dot : Bool}
    {files : List Text} (hselected : selected (w.makeDirectories outDir).1 dir = .ok files)
    (hset : files.Nodup) :
    ((files.map (outputPath files outDir)).Nodup ∧
        summaryPath outDir ∉ files.map (outputPath files outDir) ↔ Apart files) ∧
      (Apart files → files ≠ [] → (convertDirectory w dir outDir dot).exitCode = 0 →
        ∃ (reports : List Report) (success empty failed : Nat) (entries : List Json.Value),
          reports.map Report.name = files ∧ Tallied reports success empty failed entries ∧
          (convertDirectory w dir outDir dot).workspace.read (summaryPath outDir) =
            .ok (Utf8.encode (Json.write
              (summaryDocument files.length success failed empty entries))) ∧
          ∀ r ∈ reports, ∀ d, r.result = .ok d →
            ∃ t, readText w (dir.child r.name) = .ok t ∧ d = Mermaid.read t ∧
              (convertDirectory w dir outDir dot).workspace.read
                  (outDir.child (r.id ++ ".json".toList)) =
                .ok (Utf8.encode (Json.write (Document.ofDiagram d)))) := by
  have hapart := nodup_outputId_iff hset (isDiagramName_of_selected hselected)
  refine ⟨(nodup_outputPath_iff files outDir).trans hapart, fun h hfound hreturned => ?_⟩
  obtain ⟨hids, hsummary⟩ := hapart.mpr h
  obtain ⟨here, out, hhere, hdirectory, run⟩ :=
    exists_batchRun hselected hfound hids hsummary hreturned
  obtain ⟨success, empty, failed, entries, htallied, -, hread⟩ := run.exists_tallied
  refine ⟨files.map (alone files dir outDir dot (w.makeDirectories outDir).1), success, empty,
    failed, entries, map_name_alone _ _, htallied, hread, fun r hr d hd => ?_⟩
  obtain ⟨name, hname, rfl⟩ := List.mem_map.mp hr
  obtain ⟨t, ht, htext, hdelivered⟩ :=
    (run.perFile hhere hdirectory hids hsummary hname).converted d hd
  exact ⟨t, ht, htext, hdelivered.json⟩

/-- Two files of one stem, and one whose stem looks like their outputs. -/
def sharedFolder : Workspace :=
  ⟨⟨[(["in".toList], .directory),
     (["in".toList, "a.mmd".toList], .file (Utf8.encode "flowchart LR\nX".toList)),
     (["in".toList, "a.txt".toList], .file (Utf8.encode "classDiagram\nclass Y".toList)),
     (["in".toList, "a_mermaid.txt".toList], .file [])]⟩, []⟩

/-- Its files, in order. -/
def sharedFiles : List Text := ["a.mmd".toList, "a.txt".toList, "a_mermaid.txt".toList]

/-- The text of a graph of one node, which has no label of its own. -/
def oneNodeGraph (name : Text) : Text :=
  ['\n'].intercalate
    ["\x7b".toList, "  \"nodes\": [".toList, "    \x7b".toList,
     "      \"id\": \"".toList ++ name ++ "\",".toList,
     "      \"label\": \"".toList ++ name ++ "\",".toList, "      \"members\": [],".toList,
     "      \"stereotype\": null".toList, "    \x7d".toList, "  ],".toList, "  \"links\": []".toList,
     "\x7d".toList]

/-- Files that share a stem are told apart by their suffixes. -/
theorem outputPaths_differ_shared :
    let dir : Path := ⟨[], ["in".toList]⟩
    let outDir : Path := ⟨[], ["out".toList]⟩
    let after := (convertDirectory sharedFolder dir outDir false).workspace
    selected (sharedFolder.makeDirectories outDir).1 dir = .ok sharedFiles ∧
      (sharedFiles.map (outputPath sharedFiles outDir)).Nodup ∧
      (∃ (reports : List Report) (success empty failed : Nat) (entries : List Json.Value),
        reports.map Report.name = sharedFiles ∧ Tallied reports success empty failed entries ∧
        ∀ r ∈ reports, ∀ d, r.result = .ok d →
          after.read (outDir.child (r.id ++ ".json".toList)) =
            .ok (Utf8.encode (Json.write (Document.ofDiagram d)))) ∧
      after.read (outDir.child "a_mmd.json".toList) = .ok (Utf8.encode (oneNodeGraph ['X'])) ∧
      after.read (outDir.child "a_txt.json".toList) = .ok (Utf8.encode (oneNodeGraph ['Y'])) := by
  intro dir outDir after
  have hmake : (sharedFolder.makeDirectories outDir).2 = none := by decide +kernel
  have hdir : sharedFolder.isDirectory dir = .ok true := by decide +kernel
  have hlist : (sharedFolder.makeDirectories outDir).1.list dir = .ok sharedFiles := by
    decide +kernel
  have hselected : selected (sharedFolder.makeDirectories outDir).1 dir = .ok sharedFiles :=
    selected_of_perm hlist (by decide +kernel) (by decide)
  have hrun : convertDirectory sharedFolder dir outDir false =
      convertFiles (sharedFolder.makeDirectories outDir).1 dir outDir sharedFiles false :=
    convertDirectory_eq hdir (Prod.ext rfl hmake) hselected (by decide)
  have hreturned : (convertDirectory sharedFolder dir outDir false).exitCode = 0 := by
    rw [hrun]
    decide +kernel
  have hapart : Apart sharedFiles := by decide +kernel
  obtain ⟨hiff, hgraphs⟩ := outputPaths_differ_iff_apart hselected (by decide)
  obtain ⟨reports, success, empty, failed, entries, hnames, htallied, -, hthere⟩ :=
    hgraphs hapart (by decide) hreturned
  refine ⟨hselected, (hiff.mpr hapart).1,
    ⟨reports, success, empty, failed, entries, hnames, htallied, fun r hr d hd => ?_⟩, ?_⟩
  · obtain ⟨-, -, -, hread⟩ := hthere r hr d hd
    exact hread
  · rw [show after = (convertFiles (sharedFolder.makeDirectories outDir).1 dir outDir sharedFiles
      false).workspace from congrArg Outcome.workspace hrun]
    decide +kernel

/-- Two files of one stem, the suffix of one of them in capitals. -/
def capitalFolder : Workspace :=
  ⟨⟨[(["in".toList], .directory),
     (["in".toList, "a.MMD".toList], .file (Utf8.encode "flowchart LR\nX".toList)),
     (["in".toList, "a.mmd".toList], .file (Utf8.encode "flowchart LR\nY".toList))]⟩, []⟩

/-- Files that share a stem keep their suffix, but in small letters: the
two graphs go to one file, and the first of them is lost. -/
theorem outputPaths_collide :
    selected (capitalFolder.makeDirectories ⟨[], ["out".toList]⟩).1 ⟨[], ["in".toList]⟩ =
        .ok ["a.MMD".toList, "a.mmd".toList] ∧
      outputPath ["a.MMD".toList, "a.mmd".toList] ⟨[], ["out".toList]⟩ "a.MMD".toList =
        outputPath ["a.MMD".toList, "a.mmd".toList] ⟨[], ["out".toList]⟩ "a.mmd".toList ∧
      (convertDirectory capitalFolder ⟨[], ["in".toList]⟩ ⟨[], ["out".toList]⟩ false).exitCode = 0 ∧
      (convertDirectory capitalFolder ⟨[], ["in".toList]⟩ ⟨[], ["out".toList]⟩
          false).workspace.read ⟨[], ["out".toList, "a_mmd.json".toList]⟩ =
        .ok (Utf8.encode (Json.write (Document.ofDiagram
          (Mermaid.read "flowchart LR\nY".toList)))) := by
  have hmake : (capitalFolder.makeDirectories ⟨[], ["out".toList]⟩).2 = none := by decide +kernel
  have hdir : capitalFolder.isDirectory ⟨[], ["in".toList]⟩ = .ok true := by decide +kernel
  have hlist : (capitalFolder.makeDirectories ⟨[], ["out".toList]⟩).1.list ⟨[], ["in".toList]⟩ =
      .ok ["a.MMD".toList, "a.mmd".toList] := by decide +kernel
  have hselected : selected (capitalFolder.makeDirectories ⟨[], ["out".toList]⟩).1
      ⟨[], ["in".toList]⟩ = .ok ["a.MMD".toList, "a.mmd".toList] :=
    selected_of_perm hlist (by decide +kernel) (by decide)
  refine ⟨hselected, by decide +kernel, ?_⟩
  rw [convertDirectory_eq hdir (Prod.ext rfl hmake) hselected (by simp)]
  constructor <;> decide +kernel

end DiagramGraph.Cli.Convert
