/-
DiagramGraph.Main — the commands on the machine's own files.

The commands are functions on a `Workspace`. This module takes a
workspace from the disk, as far as a run can look at it, runs the
command, and puts on the disk what the run has changed. The first
argument names the command.
-/
import DiagramGraph.Cli.Convert
import DiagramGraph.Cli.Extract
import DiagramGraph.Cli.Generate

namespace DiagramGraph.Main

open Files Cli

/-! ## §1 What a run looks at -/

/-- The command with the given name. -/
def command? (name : String) : Option Command :=
  match name with
  | "code2graph" => some Extract.command
  | "graph2code" => some Generate.command
  | "convert" => some Convert.command
  | _ => none

/-- The paths that the arguments of a command name, with those that it
derives from them. -/
def footprint (taken : Taken) : List Path :=
  let named := (taken.values.filterMap (·.2) ++ taken.operand.toList).map Path.parse
  let derived := named.flatMap fun p =>
    if p.parts.isEmpty then [] else [Convert.defaultOutput p, Convert.dotOutput p]
  Convert.defaultDirectory :: named ++ derived

/-- The location of a path that is followed without looking at the disk. -/
def placeOf (cwd : Location) (p : Path) : Location :=
  p.parts.foldl (fun here name => if name = "..".toList then here.dropLast else here ++ [name])
    (if p.root.isEmpty then cwd else [])

/-- The spelling of a location. -/
def spell (place : Location) : String :=
  "/" ++ String.ofList (['/'].intercalate place)

/-! ## §2 From the disk and to it -/

/-- Adds what stands at a location to the tree. -/
def loadEntry (t : Tree) (place : Location) : IO Tree := do
  let path := (← IO.currentDir) / spell place
  if ← path.isDir then return t.withDirectory place
  else if ← path.pathExists then
    return t.withFile place (← IO.FS.readBinFile path).toList
  else return t

/-- Adds what stands at a location, on the way to it and directly in it. -/
def load (t : Tree) (place : Location) : IO Tree := do
  let mut tree := t
  for i in [0:place.length] do
    tree ← loadEntry tree (place.take (i + 1))
  let path := (← IO.currentDir) / spell place
  if ← path.isDir then
    for entry in ← path.readDir do
      tree ← loadEntry tree (place ++ [entry.fileName.toList])
  return tree

/-- Puts the entries on the disk that differ from what was there. -/
def store (before after : Tree) : IO Unit := do
  for (place, entry) in after.entries do
    if before.get? place ≠ some entry then
      match entry with
      | .directory => IO.FS.createDirAll (spell place)
      | .file bytes => IO.FS.writeBinFile (spell place) ⟨bytes.toArray⟩

/-! ## §3 Running -/

/-- Runs a command on the disk. -/
def runOnDisk (c : Command) (arguments : List Text) : IO UInt32 := do
  let cwd := (Path.parse (← IO.currentDir).toString.toList).parts
  let mut tree : Tree := Tree.withDirectory {} cwd
  let mut stdin : Text := []
  if let .ok taken := parse c.grammar arguments then
    for p in footprint taken do
      tree ← load tree (placeOf cwd p)
    if c.readsInput taken then
      stdin := (← (← IO.getStdin).readToEnd).toList
  let o := c.run arguments stdin ⟨tree, cwd⟩
  store tree o.workspace.tree
  IO.print (String.ofList o.stdout)
  IO.eprint (String.ofList o.stderr)
  match o.broken with
  | some f => IO.eprintln (String.ofList f.message)
  | none => if o.exitCode = 2 then IO.eprintln ""
  return UInt32.ofNat o.exitCode

end DiagramGraph.Main

open DiagramGraph in
/-- The first argument names the command, the others are for it. -/
def main (arguments : List String) : IO UInt32 := do
  match arguments with
  | name :: rest =>
    match Main.command? name with
    | some c => Main.runOnDisk c (rest.map String.toList)
    | none => IO.eprintln "commands: code2graph, graph2code, convert"; return 2
  | [] => IO.eprintln "commands: code2graph, graph2code, convert"; return 2
