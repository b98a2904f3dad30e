/-
DiagramGraph.Proofs.OutputNames — the names of a batch's outputs.

  §1 Suffixes   — a name is its stem and its suffix, and a text with a
                  suffix put behind it is taken apart again.
  §2 Names      — outputs end in `.json` or `.dot` and so are never
                  diagram files; those of one file differ.
  §3 Collisions — two files have outputs of one name exactly if they
                  `Collide` (`outputId_eq_iff`): their suffixes differ in
                  capitals only, or the stem of one, which it shares with
                  no file, spells the stem and the suffix of the other.
                  Only a file of its own stem can hit the summary.
-/
import DiagramGraph.Cli.Convert
import DiagramGraph.Proofs.TextTheorems
import Mathlib.Data.List.Nodup
import Mathlib.Data.List.Perm.Subperm
import Mathlib.Tactic.MkIffOfInductiveProp

namespace DiagramGraph.Files.Path

open Text

/-! ## §1 Suffixes -/

theorem splitSuffix_append {stem tail : Text} (hstem : stem ≠ []) (htail : tail ≠ [])
    (hdot : '.' ∉ tail) : splitSuffix (stem ++ '.' :: tail) = (stem, '.' :: tail) := by
  have hreverse : (stem ++ '.' :: tail).reverse = tail.reverse ++ '.' :: stem.reverse := by simp
  have hpos : ∀ c ∈ tail.reverse, (c != '.') = true := fun c hc =>
    bne_iff_ne.mpr fun h => hdot (h ▸ List.mem_reverse.mp hc)
  rw [splitSuffix, hreverse, List.takeWhile_append_of_pos hpos, List.dropWhile_append_of_pos hpos]
  simp [hstem, htail]

@[simp] theorem parent_child (p : Path) (name : Text) : (p.child name).parent = p := by
  simp [child, parent]

@[simp] theorem name_child (p : Path) (name : Text) : (p.child name).name = name := by
  simp [child, Path.name]

/-- A name that has a suffix is put together from its stem and its suffix. -/
theorem splitSuffix_spec {name : Text} (h : (splitSuffix name).2 ≠ []) :
    ∃ stem tail, splitSuffix name = (stem, '.' :: tail) ∧ name = stem ++ '.' :: tail ∧
      stem ≠ [] ∧ '.' ∉ tail := by
  unfold splitSuffix at h ⊢
  dsimp only at h ⊢
  split_ifs at h ⊢ with hempty
  · exact absurd rfl h
  · simp only [Bool.or_eq_true, not_or, Bool.not_eq_true, List.isEmpty_eq_false_iff] at hempty
    refine ⟨_, _, rfl, ?_, hempty.1, ?_⟩
    · cases hdrop : name.reverse.dropWhile (· != '.') with
      | nil => simp [hdrop] at hempty
      | cons c rest =>
        have hc := List.head?_dropWhile_not (· != '.') name.reverse
        simp only [hdrop, List.head?_cons, bne_eq_false_iff_eq] at hc
        have hname := List.takeWhile_append_dropWhile (p := (· != '.')) (l := name.reverse)
        rw [hdrop, hc] at hname
        have hback := congrArg List.reverse hname
        simpa using hback.symm
    · intro hmem
      have hall := List.mem_takeWhile_imp (List.mem_reverse.mp hmem)
      simp at hall

end DiagramGraph.Files.Path

namespace DiagramGraph.Cli.Convert

open Text Files

/-! ## §2 Names -/

/-- The stem of a file's name. -/
def stemOf (name : Text) : Text := (Path.splitSuffix name).1

/-- The suffix of a file's name as it is used in the names of outputs. -/
def kindOf (name : Text) : Text := lower ((Path.splitSuffix name).2.dropWhile (· == '.'))

/-- A diagram file has a stem, and its suffix is one of three, in
capitals or not. -/
theorem isDiagramName_spec {name : Text} (h : isDiagramName name = true) :
    stemOf name ≠ [] ∧ kindOf name ∈ ["mmd".toList, "mermaid".toList, "txt".toList] ∧
      ∃ tail, name = stemOf name ++ '.' :: tail ∧ kindOf name = lower tail := by
  have hsuffix : (Path.splitSuffix name).2 ≠ [] := by
    intro hnil
    rw [isDiagramName, hnil] at h
    exact absurd h (by decide)
  obtain ⟨stem, tail, hsplit, hname, hstem, hdot⟩ := Path.splitSuffix_spec hsuffix
  have hkind : kindOf name = lower tail := by
    have hhead : ∀ c ∈ tail, (c == '.') = false := fun c hc =>
      beq_eq_false_iff_ne.mpr fun heq => hdot (heq ▸ hc)
    rw [kindOf, hsplit]
    cases tail with
    | nil => rfl
    | cons c tail => simp [hhead c List.mem_cons_self]
  have hstemOf : stemOf name = stem := by rw [stemOf, hsplit]
  refine ⟨hstemOf ▸ hstem, ?_, tail, hstemOf ▸ hname, hkind⟩
  rw [isDiagramName, hsplit] at h
  have hlower : lower ('.' :: tail) = '.' :: lower tail := rfl
  rw [hlower, suffixes] at h
  rw [hkind]
  simpa using h

theorem outputId_eq (files : List Text) (name : Text) :
    outputId files name =
      if clashes files name then stemOf name ++ '_' :: kindOf name else stemOf name := rfl

theorem outputId_ne_nil (files : List Text) {name : Text} (h : isDiagramName name = true) :
    outputId files name ≠ [] := by
  rw [outputId_eq]
  split
  · simp
  · exact (isDiagramName_spec h).1

/-- The DOT text stands beside the graph, under the same name. -/
theorem dotOutput_outputPath {files : List Text} {name : Text} (h : isDiagramName name = true)
    (outDir : Path) :
    dotOutput (outputPath files outDir name) =
      outDir.child (outputId files name ++ ".dot".toList) := by
  have hsplit : Path.splitSuffix (outputId files name ++ ".json".toList) =
      (outputId files name, ".json".toList) :=
    Path.splitSuffix_append (outputId_ne_nil files h) (by decide) (by decide)
  rw [dotOutput, Path.withSuffix, outputPath, Path.parent_child, Path.stem, Path.name_child, hsplit]

/-- No output is a diagram file. -/
theorem isDiagramName_output {id tail : Text} (hid : id ≠ [])
    (htail : tail ∈ ["json".toList, "dot".toList]) : isDiagramName (id ++ '.' :: tail) = false := by
  have hsplit : tail ≠ [] ∧ '.' ∉ tail ∧ suffixes.contains (lower ('.' :: tail)) = false := by
    revert tail
    decide
  rw [isDiagramName, Path.splitSuffix_append hid hsplit.1 hsplit.2.1]
  exact hsplit.2.2

/-! ## §3 Collisions -/

/-- The files have outputs of one name: their suffixes differ in capitals
only, or the stem of one, which it shares with no file, spells the stem
and the suffix of the other. -/
def Collide (files : List Text) (a b : Text) : Prop :=
  (stemOf a = stemOf b ∧ kindOf a = kindOf b) ∨
  (clashes files a = true ∧ clashes files b = false ∧ stemOf b = stemOf a ++ '_' :: kindOf a) ∨
  (clashes files b = true ∧ clashes files a = false ∧ stemOf a = stemOf b ++ '_' :: kindOf b)

instance (files : List Text) (a b : Text) : Decidable (Collide files a b) := by
  unfold Collide
  infer_instance

/-- Two files of one stem clash. -/
theorem clashes_of_stemOf_eq {files : List Text} {a b : Text} (ha : a ∈ files) (hb : b ∈ files)
    (hne : a ≠ b) (hstem : stemOf a = stemOf b) : clashes files a = true := by
  have hsub : [a, b] ⊆ files.filter (fun other => stemOf other = stemOf a) := by
    intro c hc
    rcases List.mem_cons.mp hc with rfl | hc
    · exact List.mem_filter.mpr ⟨ha, decide_eq_true rfl⟩
    · rw [List.mem_singleton.mp hc]
      exact List.mem_filter.mpr ⟨hb, decide_eq_true hstem.symm⟩
  have hlength := (List.subperm_of_subset (by simpa using hne) hsub).length_le
  rw [← List.countP_eq_length_filter] at hlength
  exact decide_eq_true hlength

/-- The last underscore of a clashing file's output name parts its stem
from its suffix. -/
theorem stem_kind_inj {s k s' k' : Text} (hk : '_' ∉ k) (hk' : '_' ∉ k')
    (h : s ++ '_' :: k = s' ++ '_' :: k') : s = s' ∧ k = k' := by
  have hcut : ∀ {s k : Text}, '_' ∉ k →
      cutAt '_' (s ++ '_' :: k).reverse = some (k.reverse, s.reverse) := by
    intro s k hk
    rw [List.reverse_append, List.reverse_cons, List.append_assoc]
    exact cutAt_append (by simpa using hk) s.reverse
  have hsame := (hcut hk).symm.trans ((congrArg (fun t => cutAt '_' t.reverse) h).trans (hcut hk'))
  simp only [Option.some.injEq, Prod.mk.injEq, List.reverse_inj] at hsame
  exact ⟨hsame.2, hsame.1⟩

theorem underscore_not_mem_kindOf {name : Text} (h : isDiagramName name = true) :
    '_' ∉ kindOf name := by
  have hkinds : ∀ k ∈ ["mmd".toList, "mermaid".toList, "txt".toList], '_' ∉ k := by decide
  exact hkinds _ (isDiagramName_spec h).2.1

/-- Two files have outputs of one name exactly if they collide. -/
theorem outputId_eq_iff {files : List Text} {a b : Text} (ha : a ∈ files) (hb : b ∈ files)
    (hne : a ≠ b) (hda : isDiagramName a = true) (hdb : isDiagramName b = true) :
    outputId files a = outputId files b ↔ Collide files a b := by
  have hka := underscore_not_mem_kindOf hda
  have hkb := underscore_not_mem_kindOf hdb
  have hshared := clashes_of_stemOf_eq ha hb hne
  have hshared' := fun h : stemOf b = stemOf a => clashes_of_stemOf_eq hb ha hne.symm h
  rw [outputId_eq, outputId_eq, Collide]
  cases hca : clashes files a <;> cases hcb : clashes files b
  · -- Neither stem is shared, so the stems differ.
    have hstem : stemOf a ≠ stemOf b := fun h => by simp [hshared h] at hca
    simp [hstem]
  · have hstem : stemOf a ≠ stemOf b := fun h => by simp [hshared h] at hca
    simp [hstem]
  · have hstem : stemOf a ≠ stemOf b := fun h => by simp [hshared' h.symm] at hcb
    simp [hstem, eq_comm]
  · have hinj : stemOf a ++ '_' :: kindOf a = stemOf b ++ '_' :: kindOf b ↔
        stemOf a = stemOf b ∧ kindOf a = kindOf b :=
      ⟨stem_kind_inj hka hkb, fun h => by rw [h.1, h.2]⟩
    simpa using hinj

/-- The name of the summary, without its suffix. -/
def summaryId : Text := "conversion_summary".toList

/-- Only a file of its own stem can hit the summary. -/
theorem outputId_eq_summaryId_iff {files : List Text} {name : Text}
    (h : isDiagramName name = true) :
    outputId files name = summaryId ↔ clashes files name = false ∧ stemOf name = summaryId := by
  rw [outputId_eq]
  cases clashes files name
  · simp
  · have hne : stemOf name ++ '_' :: kindOf name ≠ summaryId := by
      intro heq
      have hsplit : summaryId = "conversion".toList ++ '_' :: "summary".toList := by decide
      obtain ⟨-, hkind⟩ :=
        stem_kind_inj (underscore_not_mem_kindOf h) (by decide) (heq.trans hsplit)
      have hsummary : "summary".toList ∉ ["mmd".toList, "mermaid".toList, "txt".toList] := by decide
      exact hsummary (hkind ▸ (isDiagramName_spec h).2.1)
    simpa using hne

/-- No two of the files collide, and none of them hits the summary. -/
@[mk_iff] structure Apart (files : List Text) : Prop where
  collide : ∀ a ∈ files, ∀ b ∈ files, a ≠ b → ¬ Collide files a b
  summary : ∀ a ∈ files, clashes files a = false → stemOf a ≠ summaryId

instance (files : List Text) : Decidable (Apart files) :=
  decidable_of_iff _ (apart_iff files).symm

/-- The names of outputs are different exactly if the files are apart. -/
theorem nodup_outputId_iff {files : List Text} (hset : files.Nodup)
    (hdiagrams : ∀ name ∈ files, isDiagramName name = true) :
    ((files.map (outputId files)).Nodup ∧ summaryId ∉ files.map (outputId files)) ↔
      Apart files := by
  rw [List.nodup_map_iff_inj_on hset, apart_iff]
  refine and_congr ⟨fun h a ha b hb hne hcollide => ?_, fun h a ha b hb heq => ?_⟩
    ⟨fun h a ha hclash hstem => ?_, fun h hmem => ?_⟩
  · have hid := (outputId_eq_iff ha hb hne (hdiagrams a ha) (hdiagrams b hb)).mpr hcollide
    exact hne (h a ha b hb hid)
  · by_contra hne
    have hcollide := (outputId_eq_iff ha hb hne (hdiagrams a ha) (hdiagrams b hb)).mp heq
    exact h a ha b hb hne hcollide
  · have hid := (outputId_eq_summaryId_iff (hdiagrams a ha)).mpr ⟨hclash, hstem⟩
    exact h (hid ▸ List.mem_map_of_mem ha)
  · obtain ⟨a, ha, hid⟩ := List.mem_map.mp hmem
    obtain ⟨hclash, hstem⟩ := (outputId_eq_summaryId_iff (hdiagrams a ha)).mp hid
    exact h a ha hclash hstem

/-- Paths in a directory are different as the names are. -/
theorem nodup_outputPath_iff (files : List Text) (outDir : Path) :
    ((files.map (outputPath files outDir)).Nodup ∧
        summaryPath outDir ∉ files.map (outputPath files outDir)) ↔
      (files.map (outputId files)).Nodup ∧ summaryId ∉ files.map (outputId files) := by
  have hinj : Function.Injective fun id : Text => outDir.child (id ++ ".json".toList) := by
    intro x y h
    have hname := congrArg Path.name h
    simpa using hname
  have hpaths : files.map (outputPath files outDir) =
      (files.map (outputId files)).map fun id => outDir.child (id ++ ".json".toList) := by
    rw [List.map_map]
    rfl
  have hsummary : summaryPath outDir = outDir.child (summaryId ++ ".json".toList) := rfl
  rw [hpaths, hsummary, List.nodup_map_iff hinj]
  exact and_congr_right fun _ => not_congr (List.mem_map_of_injective hinj)

end DiagramGraph.Cli.Convert
