/-
DiagramGraph.Proofs.FileTheorems — what writing a file and making a
directory change, and what they leave as it was.

  §1 Looking up  — a path leads to the place that it leads to, step by
                   step: the last step depends on the directory only
                   (`locate_child`), and different names in a directory
                   are different places (`locate_child_inj`).
  §2 Writing     — `Written touched w w'`: nothing but the contents of
                   files at some places is new. The relation is passed
                   along a run (`Written.trans`), and paths lead where
                   they led before (`Written.locate`). Whether a file can
                   be written does not depend on files (`refusal`).
  §3 Directories — `Grown w w'`: directories were added, and everything
                   that existed is as before (`grown_makeDirectories`).
                   A directory that exists is not made again.
-/
import DiagramGraph.Cli.Outcome
import Mathlib.Tactic.SplitIfs

namespace DiagramGraph.Files

open Text

/-! ## §1 Looking up -/

theorem stepTo_eq_ok {t : Tree} {here place : Location} {name : Text}
    (h : stepTo t here name = .ok place) : t.get? here = some .directory := by
  unfold stepTo at h
  split at h
  · cases h
  · cases h
  · assumption

/-- A step depends on the directory that it starts from. -/
theorem stepTo_congr {t t' : Tree} {here : Location} (h : t'.get? here = t.get? here)
    (name : Text) : stepTo t' here name = stepTo t here name := by
  rw [stepTo, stepTo, h]

/-- Steps that succeed go through directories, and so succeed wherever
these are directories. -/
theorem foldlM_stepTo_eq_ok {t t' : Tree}
    (hkeep : ∀ place, t.get? place = some .directory → t'.get? place = some .directory) :
    ∀ {names : List Text} {here place : Location},
      names.foldlM (stepTo t) here = .ok place → names.foldlM (stepTo t') here = .ok place := by
  intro names
  induction names with
  | nil => exact fun h => h
  | cons name names ih =>
    intro here place h
    rw [List.foldlM_cons] at h ⊢
    cases hstep : stepTo t here name with
    | error c =>
      rw [hstep] at h
      cases h
    | ok next =>
      have hdirectory := stepTo_eq_ok hstep
      rw [hstep] at h
      rw [stepTo_congr ((hkeep here hdirectory).trans hdirectory.symm), hstep]
      exact ih h

namespace Workspace

/-- A path leads to the same place as long as the working directory is
the same and directories are still directories. -/
theorem locate_eq_ok {w w' : Workspace} (hcwd : w'.cwd = w.cwd)
    (hkeep : ∀ place, w.tree.get? place = some .directory →
      w'.tree.get? place = some .directory) {p : Path} {place : Location}
    (h : w.locate p = .ok place) : w'.locate p = .ok place := by
  unfold locate at h ⊢
  have hstart : w'.start p = w.start p := by rw [start, start, hcwd]
  split_ifs at h with hnull
  rw [if_neg hnull, hstart]
  exact foldlM_stepTo_eq_ok hkeep h

/-- The last step of a path, from the place of a directory. -/
def placeIn (here : Location) (name : Text) : Except Cause Location :=
  if name.contains '\x00' then .error .nullCharacter
  else if name = "..".toList then .ok here.dropLast
  else if maxNameBytes < (Utf8.encode name).length then .error .nameTooLong
  else .ok (here ++ [name])

theorem placeIn_eq_ok {here place : Location} {name : Text} (h : placeIn here name = .ok place)
    (hname : name ≠ "..".toList) : place = here ++ [name] := by
  unfold placeIn at h
  split_ifs at h
  cases h
  rfl

/-- What a path leads to in a directory. -/
theorem locate_child {w : Workspace} {p : Path} {here : Location} (h : w.locate p = .ok here)
    (hdirectory : w.tree.get? here = some .directory) (name : Text) :
    w.locate (p.child name) = placeIn here name := by
  unfold locate at h ⊢
  have hstart : w.start (p.child name) = w.start p := rfl
  have hparts : (p.child name).parts = p.parts ++ [name] := rfl
  split_ifs at h with hnull
  have hany : (p.child name).parts.any (·.contains '\x00') = name.contains '\x00' := by
    simp only [Bool.not_eq_true] at hnull
    rw [hparts, List.any_append, hnull]
    simp
  rw [hany, hstart, hparts, List.foldlM_append, h, placeIn]
  simp only [bind, Except.bind, List.foldlM_cons, List.foldlM_nil, stepTo, hdirectory]
  split_ifs <;> rfl

/-- What lies in a directory is found through that directory. -/
theorem locate_child_eq_ok {w : Workspace} {p : Path} {name : Text} {place : Location}
    (h : w.locate (p.child name) = .ok place) :
    ∃ here, w.locate p = .ok here ∧ w.tree.get? here = some .directory ∧
      placeIn here name = .ok place := by
  have hlast := h
  unfold locate at h
  have hstart : w.start (p.child name) = w.start p := rfl
  have hparts : (p.child name).parts = p.parts ++ [name] := rfl
  split_ifs at h with hnull
  rw [hparts, List.any_append, Bool.or_eq_true, not_or] at hnull
  rw [hstart, hparts, List.foldlM_append] at h
  cases hfold : p.parts.foldlM (stepTo w.tree) (w.start p) with
  | error c =>
    rw [hfold] at h
    cases h
  | ok here =>
    have hhere : w.locate p = .ok here := by rw [locate, if_neg hnull.1, hfold]
    rw [hfold] at h
    change (stepTo w.tree here name >>= pure) = .ok place at h
    have hdirectory := stepTo_eq_ok (bind_pure (stepTo w.tree here name) ▸ h)
    rw [locate_child hhere hdirectory] at hlast
    exact ⟨here, hhere, hdirectory, hlast⟩

/-- Different names in a directory are different places. -/
theorem locate_child_inj {w : Workspace} {p : Path} {name other : Text} {place : Location}
    (h : w.locate (p.child name) = .ok place) (h' : w.locate (p.child other) = .ok place)
    (hother : other ≠ "..".toList) : name = other := by
  obtain ⟨here, hhere, -, hplace⟩ := locate_child_eq_ok h
  obtain ⟨here', hhere', -, hplace'⟩ := locate_child_eq_ok h'
  obtain rfl : here = here' := Except.ok.inj (hhere.symm.trans hhere')
  have hlast := placeIn_eq_ok hplace' hother
  by_cases hname : name = "..".toList
  · -- The directory above is nothing that lies in this one.
    rw [hname] at hplace
    have hup : place = here.dropLast := by
      have hdots : placeIn here "..".toList = .ok here.dropLast := rfl
      exact (Except.ok.inj (hdots.symm.trans hplace)).symm
    have hlength := congrArg List.length (hup.symm.trans hlast)
    simp only [List.length_dropLast, List.length_append, List.length_singleton] at hlength
    omega
  · have hsame := (placeIn_eq_ok hplace hname).symm.trans hlast
    simpa using hsame

theorem lookup_eq_ok {w : Workspace} {p : Path} {e : Entry} :
    w.lookup p = .ok e ↔ ∃ place, w.locate p = .ok place ∧ w.tree.get? place = some e := by
  unfold lookup
  cases w.locate p with
  | error c => simp
  | ok place =>
    cases hget : w.tree.get? place <;> simp [hget]

theorem read_eq_ok {w : Workspace} {p : Path} {bytes : List UInt8} :
    w.read p = .ok bytes ↔
      ∃ place, w.locate p = .ok place ∧ w.tree.get? place = some (.file bytes) := by
  rw [← lookup_eq_ok, read]
  cases w.lookup p with
  | error c => simp
  | ok e => cases e <;> simp

theorem lookup_of_isDirectory {w : Workspace} {p : Path} (h : w.isDirectory p = .ok true) :
    w.lookup p = .ok .directory := by
  unfold isDirectory leadsTo at h
  split at h
  · next e hlookup =>
    rw [hlookup, of_decide_eq_true (Except.ok.inj h)]
  · cases h
  · cases h

theorem read_congr {w w' : Workspace} {p : Path} (h : w'.lookup p = w.lookup p) :
    w'.read p = w.read p := by
  rw [read, read, h]

/-! ## §2 Writing -/

/-- The workspaces differ in the contents of files only, at some of the
touched places; no directory comes or goes. -/
structure Written (touched : Location → Prop) (w w' : Workspace) : Prop where
  cwd : w'.cwd = w.cwd
  same : ∀ place, ¬ touched place → w'.tree.get? place = w.tree.get? place
  directory : ∀ place, w'.tree.get? place = some .directory ↔
    w.tree.get? place = some .directory

namespace Written

variable {touched touched' : Location → Prop} {w w' w'' : Workspace}

theorem refl (w : Workspace) : Written touched w w := ⟨rfl, fun _ _ => rfl, fun _ => Iff.rfl⟩

theorem mono (h : Written touched w w') (hsub : ∀ place, touched place → touched' place) :
    Written touched' w w' :=
  ⟨h.cwd, fun place hplace => h.same place fun ht => hplace (hsub place ht), h.directory⟩

theorem trans (h : Written touched w w') (h' : Written touched w' w'') : Written touched w w'' where
  cwd := h'.cwd.trans h.cwd
  same place hplace := (h'.same place hplace).trans (h.same place hplace)
  directory place := (h'.directory place).trans (h.directory place)

/-- Paths lead where they led before. -/
theorem locate (h : Written touched w w') {p : Path} {place : Location}
    (hp : w.locate p = .ok place) : w'.locate p = .ok place :=
  locate_eq_ok h.cwd (fun here hhere => (h.directory here).mpr hhere) hp

/-- They lead nowhere else. -/
theorem locate_iff (h : Written touched w w') {p : Path} {place : Location} :
    w'.locate p = .ok place ↔ w.locate p = .ok place :=
  ⟨locate_eq_ok h.cwd.symm fun here => (h.directory here).mp, h.locate⟩

/-- A file at a place that was not touched. -/
theorem read (h : Written touched w w') {p : Path} {place : Location} {bytes : List UInt8}
    (hp : w.locate p = .ok place) (hplace : ¬ touched place)
    (hget : w.tree.get? place = some (.file bytes)) : w'.read p = .ok bytes :=
  read_eq_ok.mpr ⟨place, h.locate hp, (h.same place hplace).trans hget⟩

end Written

theorem write_eq_ok {w w' : Workspace} {p : Path} {bytes : List UInt8}
    (h : w.write p bytes = .ok w') :
    ∃ place, w.locate p = .ok place ∧ w.tree.get? place ≠ some .directory ∧
      w' = { w with tree := w.tree.put place (.file bytes) } := by
  unfold write at h
  split at h
  · cases h
  · next place hplace =>
    split at h
    · cases h
    · next hdirectory =>
      cases h
      exact ⟨place, hplace, hdirectory, rfl⟩

/-- Only the place that the path leads to is touched. -/
theorem written_of_write {w w' : Workspace} {p : Path} {bytes : List UInt8} {here : Location}
    (h : w.write p bytes = .ok w') (hp : w.locate p = .ok here) :
    Written (· = here) w w' ∧ w'.tree.get? here = some (.file bytes) := by
  obtain ⟨place, hplace, hdirectory, rfl⟩ := write_eq_ok h
  obtain rfl : place = here := Except.ok.inj (hplace.symm.trans hp)
  have hroot : place ≠ [] := by
    rintro rfl
    exact hdirectory rfl
  have hput := w.tree.get?_put (.file bytes) hroot
  have hother := fun other (hne : other ≠ place) => w.tree.get?_put_of_ne (.file bytes) hne
  refine ⟨⟨rfl, hother, fun other => ?_⟩, hput⟩
  by_cases heq : other = place
  · subst heq
    simp [hput, hdirectory]
  · rw [hother other heq]

/-- What is written is read. -/
theorem read_of_write {w w' : Workspace} {p : Path} {bytes : List UInt8}
    (h : w.write p bytes = .ok w') : w'.read p = .ok bytes := by
  obtain ⟨place, hplace, -, -⟩ := write_eq_ok h
  obtain ⟨hwritten, hget⟩ := written_of_write h hplace
  exact read_eq_ok.mpr ⟨place, hwritten.locate hplace, hget⟩

/-- Why a file in a directory cannot be written. -/
def refusal (w : Workspace) (here : Location) (name : Text) : Option Cause :=
  match placeIn here name with
  | .error c => some c
  | .ok place => if w.tree.get? place = some .directory then some .isDirectory else none

/-- Writing files does not change what can be written. -/
theorem Written.refusal {touched : Location → Prop} {w w' : Workspace} (h : Written touched w w')
    (here : Location) (name : Text) : w'.refusal here name = w.refusal here name := by
  unfold Workspace.refusal
  cases placeIn here name with
  | error c => rfl
  | ok place => simp only [h.directory place]

section Child

variable {w : Workspace} {p : Path} {here : Location} {name : Text} (hp : w.locate p = .ok here)
  (hdirectory : w.tree.get? here = some .directory)

include hp hdirectory

theorem write_of_refusal {c : Cause} (h : w.refusal here name = some c) (bytes : List UInt8) :
    w.write (p.child name) bytes = .error ⟨c, p.child name⟩ := by
  unfold refusal at h
  unfold write
  rw [locate_child hp hdirectory]
  cases hplace : placeIn here name with
  | error c' =>
    simp only [hplace, Option.some.injEq] at h
    rw [h]
  | ok place =>
    simp only [hplace] at h
    split_ifs at h with hget
    cases h
    simp only [hget]

/-- A file in a directory is written unless that is refused; nothing
else changes. -/
theorem exists_write (h : w.refusal here name = none) (hname : name ≠ "..".toList)
    (bytes : List UInt8) :
    ∃ w', w.write (p.child name) bytes = .ok w' ∧ Written (· = here ++ [name]) w w' := by
  unfold refusal at h
  cases hplace : placeIn here name with
  | error c => simp [hplace] at h
  | ok place =>
    obtain rfl := placeIn_eq_ok hplace hname
    simp only [hplace] at h
    split_ifs at h with hget
    have hlocate : w.locate (p.child name) = .ok (here ++ [name]) :=
      (locate_child hp hdirectory name).trans hplace
    have hwrite : w.write (p.child name) bytes =
        .ok { w with tree := w.tree.put (here ++ [name]) (.file bytes) } := by
      simp only [write, hlocate]
    exact ⟨_, hwrite, (written_of_write hwrite hlocate).1⟩

/-- What a path leads to in a directory, as long as the directory and
the entry stay. -/
theorem lookup_child_congr {w' : Workspace} (hp' : w'.locate p = .ok here)
    (hdirectory' : w'.tree.get? here = some .directory) (hname : name ≠ "..".toList)
    (hsame : w'.tree.get? (here ++ [name]) = w.tree.get? (here ++ [name])) :
    w'.lookup (p.child name) = w.lookup (p.child name) := by
  unfold lookup
  rw [locate_child hp hdirectory, locate_child hp' hdirectory']
  cases hplace : placeIn here name with
  | error c => rfl
  | ok place =>
    obtain rfl := placeIn_eq_ok hplace hname
    simp only [hsame]

end Child

/-! ## §3 Directories -/

/-- Directories were added where nothing was. -/
structure Grown (w w' : Workspace) : Prop where
  cwd : w'.cwd = w.cwd
  same : ∀ place, w.tree.get? place ≠ none → w'.tree.get? place = w.tree.get? place
  new : ∀ place, w.tree.get? place = none → w'.tree.get? place = none ∨
    w'.tree.get? place = some .directory

namespace Grown

variable {w w' w'' : Workspace}

theorem refl (w : Workspace) : Grown w w := ⟨rfl, fun _ _ => rfl, fun _ h => .inl h⟩

theorem trans (h : Grown w w') (h' : Grown w' w'') : Grown w w'' where
  cwd := h'.cwd.trans h.cwd
  same place hplace := by
    have hsame := h.same place hplace
    exact (h'.same place (hsame ▸ hplace)).trans hsame
  new place hplace := by
    rcases h.new place hplace with hnone | hdirectory
    · exact h'.new place hnone
    · have hsame := h'.same place (by simp [hdirectory])
      exact .inr (hsame.trans hdirectory)

theorem directory (h : Grown w w') {place : Location}
    (hplace : w.tree.get? place = some .directory) : w'.tree.get? place = some .directory :=
  (h.same place (by simp [hplace])).trans hplace

theorem locate (h : Grown w w') {p : Path} {place : Location} (hp : w.locate p = .ok place) :
    w'.locate p = .ok place :=
  locate_eq_ok h.cwd (fun _ hhere => h.directory hhere) hp

/-- A file that is there afterwards was there before. -/
theorem file (h : Grown w w') {place : Location} {bytes : List UInt8}
    (hplace : w'.tree.get? place = some (.file bytes)) :
    w.tree.get? place = some (.file bytes) := by
  by_cases hnone : w.tree.get? place = none
  · rcases h.new place hnone with hnew | hnew <;> simp [hnew] at hplace
  · rw [← h.same place hnone, hplace]

end Grown

theorem makeDirectory_eq_ok {w w' : Workspace} {p : Path} (h : w.makeDirectory p = .ok w') :
    Grown w w' ∧ w'.lookup p = .ok .directory := by
  unfold makeDirectory at h
  split at h
  · cases h
  next place hplace =>
    split at h
    · next hdirectory =>
      cases h
      exact ⟨.refl w, lookup_eq_ok.mpr ⟨place, hplace, hdirectory⟩⟩
    · cases h
    · next hnone =>
      cases h
      have hroot : place ≠ [] := by
        rintro rfl
        cases hnone
      have hput := w.tree.get?_put .directory hroot
      have hother := fun other (hne : other ≠ place) => w.tree.get?_put_of_ne .directory hne
      have hgrown : Grown w { w with tree := w.tree.put place .directory } := by
        refine ⟨rfl, fun other hother' => hother other ?_, fun other hother' => ?_⟩
        · rintro rfl
          exact hother' hnone
        · by_cases heq : other = place
          · subst heq
            exact .inr hput
          · exact .inl ((hother other heq).trans hother')
      exact ⟨hgrown, lookup_eq_ok.mpr ⟨place, hgrown.locate hplace, hput⟩⟩

theorem attempt_eq_none {w w' : Workspace} {change : Except FileError Workspace}
    (h : w.attempt change = (w', none)) : change = .ok w' := by
  cases change with
  | ok w'' => cases h; rfl
  | error e => cases h

theorem grown_attempt {w : Workspace} {p : Path} : Grown w (w.attempt (w.makeDirectory p)).1 := by
  cases hmake : w.makeDirectory p with
  | ok w' => exact (makeDirectory_eq_ok hmake).1
  | error e => exact .refl w

/-- Only directories are added, also where an error is met on the way. -/
theorem grown_makeDirectoriesTo (p : Path) :
    ∀ (n : Nat) (w : Workspace), Grown w (makeDirectoriesTo p n w).1 := by
  intro n
  induction n with
  | zero => exact fun w => grown_attempt
  | succ n ih =>
    intro w
    rw [makeDirectoriesTo]
    split
    · next w' hmake => exact (makeDirectory_eq_ok hmake).1
    · next e hmake =>
      split
      · have hgrown := ih w
        split
        · next w' hrest =>
          rw [hrest] at hgrown
          exact hgrown.trans grown_attempt
        · next w' e' hrest =>
          rw [hrest] at hgrown
          exact hgrown
      · exact .refl w

/-- The directory of the path is there afterwards. -/
theorem lookup_makeDirectories {w w' : Workspace} {p : Path}
    (h : w.makeDirectories p = (w', none)) : w'.lookup p = .ok .directory := by
  unfold makeDirectories at h
  cases hparts : p.parts.length with
  | zero =>
    have hnil : p.parts = [] := List.length_eq_zero_iff.mp hparts
    have hp : { p with parts := [] } = p := by rw [← hnil]
    rw [hparts, makeDirectoriesTo, hp] at h
    exact (makeDirectory_eq_ok (attempt_eq_none h)).2
  | succ n =>
    have hp : { p with parts := p.parts.take (n + 1) } = p := by
      rw [List.take_of_length_le (Nat.le_of_eq hparts)]
    rw [hparts, makeDirectoriesTo, hp] at h
    split at h
    · next w₁ hmake =>
      cases h
      exact (makeDirectory_eq_ok hmake).2
    · split at h
      · split at h
        · exact (makeDirectory_eq_ok (attempt_eq_none h)).2
        · cases h
      · cases h

theorem grown_makeDirectories (w : Workspace) (p : Path) : Grown w (w.makeDirectories p).1 :=
  grown_makeDirectoriesTo p _ w

/-- A directory that exists is not made again. -/
theorem makeDirectories_of_directory {w : Workspace} {p : Path} {here : Location}
    (h : w.locate p = .ok here) (hdirectory : w.tree.get? here = some .directory) :
    w.makeDirectories p = (w, none) := by
  have hmake : w.makeDirectory p = .ok w := by
    simp only [makeDirectory, h, hdirectory]
  unfold makeDirectories
  cases hparts : p.parts.length with
  | zero =>
    have hnil : p.parts = [] := List.length_eq_zero_iff.mp hparts
    have hp : { p with parts := [] } = p := by rw [← hnil]
    rw [makeDirectoriesTo, hp, hmake]
    rfl
  | succ n =>
    have hp : { p with parts := p.parts.take (n + 1) } = p := by
      rw [List.take_of_length_le (Nat.le_of_eq hparts)]
    rw [makeDirectoriesTo, hp, hmake]

end Workspace
end DiagramGraph.Files

namespace DiagramGraph.Cli

open Text Files

theorem readText_of_read {w : Workspace} {p : Path} {bytes : List UInt8}
    (h : w.read p = .ok bytes) :
    readText w p =
      match Utf8.decode bytes with
      | .error f => .error (.notUtf8 f)
      | .ok t => .ok (unifyNewlines t) := by
  cases hdecode : Utf8.decode bytes with
  | error f => simp only [readText, h, hdecode]
  | ok t => simp only [readText, h, hdecode]

theorem write_of_writeText {w w' : Workspace} {p : Path} {t : Text}
    (h : writeText w p t = .ok w') : w.write p (Utf8.encode t) = .ok w' := by
  unfold writeText at h
  split at h
  · cases h
  · next hwrite => rw [hwrite, Except.ok.inj h]

end DiagramGraph.Cli
