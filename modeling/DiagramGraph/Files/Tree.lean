/-
DiagramGraph.Files.Tree — files and directories as a value.

A `Tree` lists what exists below its root, each entry at its location;
the root itself always is a directory. A `Workspace` is a tree seen
from a working directory: paths are looked up in it, and reading,
writing and making directories either succeed or name the cause and the
path, as an operating system does.
-/
import DiagramGraph.Files.Path
import DiagramGraph.Text.Lines
import DiagramGraph.Text.Utf8

namespace DiagramGraph.Files

open Text

/-! ## §1 Trees -/

/-- The names from the root down to an entry. -/
abbrev Location := List Text

/-- What stands at a location. -/
inductive Entry
  | file (bytes : List UInt8)
  | directory
  deriving DecidableEq, Repr

/-- What exists below the root. -/
structure Tree where
  entries : List (Location × Entry) := []
  deriving DecidableEq, Repr

namespace Tree

/-- The entry at a location. -/
def get? (t : Tree) (place : Location) : Option Entry :=
  if place.isEmpty then some .directory
  else (t.entries.find? (fun e => e.1 = place)).map (·.2)

/-- The tree with an entry set: a known location keeps its place in the
list, a new one goes to the end. -/
def put (t : Tree) (place : Location) (entry : Entry) : Tree :=
  if t.entries.any (fun e => e.1 = place) then
    ⟨t.entries.map (fun e => if e.1 = place then (place, entry) else e)⟩
  else ⟨t.entries ++ [(place, entry)]⟩

/-- What was put at a location is found there. -/
theorem get?_put (t : Tree) {place : Location} (entry : Entry) (h : place ≠ []) :
    (t.put place entry).get? place = some entry := by
  have hp : place.isEmpty = false := by simpa using h
  unfold put get?
  simp only [hp, Bool.false_eq_true, if_false]
  split
  · next hk =>
    obtain ⟨e, he, hpe⟩ := List.any_eq_true.mp hk
    simp only [decide_eq_true_eq] at hpe
    rw [List.find?_map]
    have hf : t.entries.find? ((fun e => decide (e.1 = place)) ∘
        fun e => if e.1 = place then (place, entry) else e) =
        t.entries.find? (fun e => decide (e.1 = place)) := by
      congr 1
      funext x
      simp only [Function.comp_apply]
      split <;> simp_all
    rw [hf]
    cases hfind : t.entries.find? (fun e => decide (e.1 = place)) with
    | none => exact absurd hpe (by simpa using List.find?_eq_none.mp hfind e he)
    | some x =>
      have hx := List.find?_some hfind
      simp only [decide_eq_true_eq] at hx
      simp [hx]
  · next hk =>
    have hnone : t.entries.find? (fun e => decide (e.1 = place)) = none := by
      rw [List.find?_eq_none]
      intro x hx hxe
      exact hk (List.any_eq_true.mpr ⟨x, hx, hxe⟩)
    rw [List.find?_append, hnone]
    simp

/-- Other locations are left as they were. -/
theorem get?_put_of_ne (t : Tree) {place other : Location} (entry : Entry) (h : other ≠ place) :
    (t.put place entry).get? other = t.get? other := by
  unfold put get?
  split
  · rfl
  · congr 1
    split
    · rw [List.find?_map]
      have hf : ((fun e : Location × Entry => decide (e.1 = other)) ∘
          fun e => if e.1 = place then (place, entry) else e) =
          fun e => decide (e.1 = other) := by
        funext x
        simp only [Function.comp_apply]
        split
        · next hx => simp [hx, h.symm]
        · rfl
      rw [hf]
      cases hfind : t.entries.find? (fun e => decide (e.1 = other)) with
      | none => rfl
      | some x =>
        have hx := List.find?_some hfind
        simp only [decide_eq_true_eq] at hx
        simp [hx, h]
    · rw [List.find?_append]
      simp [h.symm]

/-- The names of what stands directly in a directory. -/
def names (t : Tree) (place : Location) : List Text :=
  t.entries.filterMap fun e =>
    match e.1.getLast? with
    | some name => if e.1 = place ++ [name] then some name else none
    | none => none

/-- The tree with a directory and all that lead to it. -/
def withDirectory (t : Tree) (place : Location) : Tree :=
  ((List.range place.length).map (fun i => place.take (i + 1))).foldl
    (fun t p => match t.get? p with | some _ => t | none => t.put p .directory) t

/-- The tree with a file and the directories that lead to it. -/
def withFile (t : Tree) (place : Location) (bytes : List UInt8) : Tree :=
  (t.withDirectory place.dropLast).put place (.file bytes)

end Tree

/-! ## §2 Errors -/

/-- Why a path cannot be used. -/
inductive Cause
  | notFound
  | alreadyExists
  | notDirectory
  | isDirectory
  | nameTooLong
  /-- The path holds a NUL, which no name can. -/
  | nullCharacter
  deriving DecidableEq, Repr

/-- The system's number and words for a cause. -/
def Cause.words : Cause → Text
  | .notFound => "[Errno 2] No such file or directory".toList
  | .alreadyExists => "[Errno 17] File exists".toList
  | .notDirectory => "[Errno 20] Not a directory".toList
  | .isDirectory => "[Errno 21] Is a directory".toList
  | .nameTooLong => "[Errno 36] File name too long".toList
  | .nullCharacter => "embedded null byte".toList

/-- A cause and the path it was met at. -/
structure FileError where
  cause : Cause
  path : Path
  deriving DecidableEq, Repr

/-- The message of an error. -/
def FileError.message (e : FileError) : Text :=
  if e.cause = .nullCharacter then e.cause.words
  else e.cause.words ++ ": ".toList ++ quoted e.path.render

/-! ## §3 Looking up -/

/-- A tree seen from a working directory. -/
structure Workspace where
  tree : Tree
  cwd : Location := []
  deriving DecidableEq, Repr

/-- The most bytes that a name may have. -/
def maxNameBytes : Nat := 255

/-- One step of a path: from a directory to the entry `name` in it, which
need not exist. -/
def stepTo (t : Tree) (here : Location) (name : Text) : Except Cause Location :=
  match t.get? here with
  | none => .error .notFound
  | some (.file _) => .error .notDirectory
  | some .directory =>
    if name = "..".toList then .ok here.dropLast
    else if maxNameBytes < (Utf8.encode name).length then .error .nameTooLong
    else .ok (here ++ [name])

namespace Workspace

/-- Where a path starts. -/
def start (w : Workspace) (p : Path) : Location := if p.root.isEmpty then w.cwd else []

/-- The location that a path leads to. All but the last part have to
exist and be directories. -/
def locate (w : Workspace) (p : Path) : Except Cause Location :=
  if p.parts.any (·.contains '\x00') then .error .nullCharacter
  else p.parts.foldlM (stepTo w.tree) (w.start p)

/-- The entry that a path leads to. -/
def lookup (w : Workspace) (p : Path) : Except Cause Entry :=
  match w.locate p with
  | .error c => .error c
  | .ok place =>
    match w.tree.get? place with
    | some e => .ok e
    | none => .error .notFound

/-- Does the path lead to an entry of the kind? A path that leads nowhere
does not; a name that is too long is an error. -/
def leadsTo (w : Workspace) (p : Path) (kind : Entry → Bool) : Except FileError Bool :=
  match w.lookup p with
  | .ok e => .ok (kind e)
  | .error .nameTooLong => .error ⟨.nameTooLong, p⟩
  | .error _ => .ok false

/-- Does the path lead to a file? -/
def isFile (w : Workspace) (p : Path) : Except FileError Bool :=
  w.leadsTo p (fun e => e ≠ .directory)

/-- Does the path lead to a directory? -/
def isDirectory (w : Workspace) (p : Path) : Except FileError Bool :=
  w.leadsTo p (fun e => e = .directory)

/-! ## §4 Reading and writing -/

/-- The bytes of a file. -/
def read (w : Workspace) (p : Path) : Except FileError (List UInt8) :=
  match w.lookup p with
  | .ok (.file bytes) => .ok bytes
  | .ok .directory => .error ⟨.isDirectory, p⟩
  | .error c => .error ⟨c, p⟩

/-- The workspace with a file written. -/
def write (w : Workspace) (p : Path) (bytes : List UInt8) : Except FileError Workspace :=
  match w.locate p with
  | .error c => .error ⟨c, p⟩
  | .ok place =>
    match w.tree.get? place with
    | some .directory => .error ⟨.isDirectory, p⟩
    | _ => .ok { w with tree := w.tree.put place (.file bytes) }

/-! ## §5 Directories -/

/-- The workspace after a change, or as it was before one that failed. -/
def attempt (w : Workspace) (change : Except FileError Workspace) : Workspace × Option FileError :=
  match change with
  | .ok w' => (w', none)
  | .error e => (w, some e)

/-- The workspace with the directory that the path leads to, which may
exist already. -/
def makeDirectory (w : Workspace) (p : Path) : Except FileError Workspace :=
  match w.locate p with
  | .error c => .error ⟨c, p⟩
  | .ok place =>
    match w.tree.get? place with
    | some .directory => .ok w
    | some (.file _) => .error ⟨.alreadyExists, p⟩
    | none => .ok { w with tree := w.tree.put place .directory }

/-- Makes the directory of the first `n` parts of the path. Only if one
on the way to it is missing are those made first. What was made before
an error stays. -/
def makeDirectoriesTo (p : Path) : Nat → Workspace → Workspace × Option FileError
  | 0, w => w.attempt (w.makeDirectory { p with parts := [] })
  | n + 1, w =>
    let here : Path := { p with parts := p.parts.take (n + 1) }
    match w.makeDirectory here with
    | .ok w' => (w', none)
    | .error e =>
      if e.cause = .notFound then
        match makeDirectoriesTo p n w with
        | (w', none) => w'.attempt (w'.makeDirectory here)
        | (w', some e) => (w', some e)
      else (w, some e)

/-- Makes the directory that the path leads to and all on the way to it. -/
def makeDirectories (w : Workspace) (p : Path) : Workspace × Option FileError :=
  makeDirectoriesTo p p.parts.length w

/-- The names in a directory. -/
def list (w : Workspace) (p : Path) : Except FileError (List Text) :=
  match w.locate p with
  | .error c => .error ⟨c, p⟩
  | .ok place =>
    match w.tree.get? place with
    | some .directory => .ok (w.tree.names place)
    | some (.file _) => .error ⟨.notDirectory, p⟩
    | none => .error ⟨.notFound, p⟩

end Workspace
end DiagramGraph.Files
