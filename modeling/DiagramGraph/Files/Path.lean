/-
DiagramGraph.Files.Path — names of files.

A path is kept as its parts: empty parts and single dots are dropped
when it is read, so two spellings of a path that differ only in those
are the same path. Two dots stay, since where they lead depends on the
tree. A relative path without parts is written as a dot.
-/
import DiagramGraph.Text.Search

namespace DiagramGraph.Files

open Text

/-- A path: what it starts from, empty for the working directory or one
or two slashes for the root, and the parts that follow. -/
structure Path where
  root : Text := []
  parts : List Text := []
  deriving DecidableEq, Repr

namespace Path

/-! ## §1 Spelling -/

/-- The start of an absolute path: two slashes stay two, any other
number is one. -/
def rootOf (t : Text) : Text :=
  match (t.takeWhile (· == '/')).length with
  | 0 => []
  | 2 => "//".toList
  | _ => "/".toList

/-- Reads a path. -/
def parse (t : Text) : Path :=
  ⟨rootOf t, (t.splitOn '/').filter (fun part => !part.isEmpty && part ≠ ['.'])⟩

/-- Writes a path. -/
def render (p : Path) : Text :=
  if p.root.isEmpty && p.parts.isEmpty then ['.']
  else p.root ++ ['/'].intercalate p.parts

/-! ## §2 Parts -/

/-- The last part, empty if there is none. -/
def name (p : Path) : Text := p.parts.getLastD []

/-- The path without its last part. -/
def parent (p : Path) : Path := { p with parts := p.parts.dropLast }

/-- The path followed by one more part. -/
def child (p : Path) (name : Text) : Path := { p with parts := p.parts ++ [name] }

/-! ## §3 Suffixes -/

/-- A name before and from its last dot. A dot at either end of the name
begins no suffix, and then the suffix is empty. -/
def splitSuffix (name : Text) : Text × Text :=
  let tail := (name.reverse.takeWhile (· != '.')).reverse
  let stem := (name.reverse.dropWhile (· != '.')).drop 1 |>.reverse
  if stem.isEmpty || tail.isEmpty then (name, []) else (stem, '.' :: tail)

/-- The last part without its suffix. -/
def stem (p : Path) : Text := (splitSuffix p.name).1

/-- The suffix of the last part, with its dot. -/
def suffix (p : Path) : Text := (splitSuffix p.name).2

/-- The path with another suffix. -/
def withSuffix (p : Path) (suffix : Text) : Path := p.parent.child (p.stem ++ suffix)

end Path
end DiagramGraph.Files
