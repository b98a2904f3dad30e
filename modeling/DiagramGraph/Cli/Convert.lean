/-
DiagramGraph.Cli.Convert — the command that converts diagram files to
graph files.

One file, or every diagram file of a directory, is converted to a JSON
file and, on request, to a DOT file beside it. In a directory, files
that share a stem keep their suffix in the names of their outputs. One
file's failure does not stop the others; a summary is written at the
end.

* `produce` — one file;
* `selected`, `outputId` — the files of a directory and their outputs;
* `produceAll` — all files of a directory.
-/
import DiagramGraph.Cli.Outcome
import DiagramGraph.Dot.Writer
import DiagramGraph.Json.Writer
import DiagramGraph.Mermaid.Reader

namespace DiagramGraph.Cli.Convert

open Text Files

/-- `input`, `-o PATH`, `-b` and `--dot`. -/
def grammar : Grammar :=
  ⟨some "input".toList,
   [⟨["-o".toList, "--output".toList], .value, false, []⟩,
    ⟨["-b".toList, "--batch".toList], .nothing, false, []⟩,
    ⟨["--dot".toList], .nothing, false, []⟩]⟩

/-! ## §1 One file -/

/-- Is the failure reported? Only those of files and of their bytes are. -/
def isReported : Failure → Bool
  | .notUtf8 _ => true
  | f => f.isSystem

/-- Where the graph of a file goes unless another path is given. -/
def defaultOutput (input : Path) : Path := input.withSuffix ".json".toList

/-- Where the DOT text goes, beside the graph. -/
def dotOutput (output : Path) : Path := output.withSuffix ".dot".toList

/-- Writes the DOT text of a diagram. -/
def writeDot (w : Workspace) (output : Path) (d : Diagram) : Except Failure Workspace :=
  match Dot.write (Document.ofDiagram d) (d.orientation.getD "TB".toList) with
  | .error f => .error (.document f)
  | .ok t => writeText w (dotOutput output) t

/-- Converts one file. The workspace afterwards is returned in any case:
what was written before a failure stays. -/
def produce (w : Workspace) (input output : Path) (dot : Bool) :
    Workspace × Except Failure Diagram :=
  match readText w input with
  | .error f => (w, .error f)
  | .ok t =>
    let d := Mermaid.read t
    match w.makeDirectories output.parent with
    | (w₁, some e) => (w₁, .error (.file e))
    | (w₁, none) =>
      match writeText w₁ output (Json.write (Document.ofDiagram d)) with
      | .error f => (w₁, .error f)
      | .ok w₂ =>
        if dot then
          match writeDot w₂ output d with
          | .error f => (w₂, .error f)
          | .ok w₃ => (w₃, .ok d)
        else (w₂, .ok d)

/-- What is printed of one converted file. -/
def converted (input output : Path) (d : Diagram) : Text :=
  "\n✓ Converted ".toList ++ input.render ++
    "\n  Dialect: ".toList ++ dialectWord d ++
    "\n  Nodes: ".toList ++ number d.nodes.length ++
    "\n  Links: ".toList ++ number d.links.length ++
    "\n  Skipped lines: ".toList ++ number d.unread.length ++
    "\n  Output: ".toList ++ output.render ++ ['\n']

/-- The outcome of a failure: reported or not. -/
def failed (w : Workspace) (stdout : Text) (f : Failure) : Outcome :=
  if isReported f then .reported w stdout f.message else .brokenOff w stdout f

/-- Converts one file, if it is one. -/
def convertOne (w : Workspace) (input : Path) (output : Option Path) (dot : Bool) : Outcome :=
  match w.isFile input with
  | .error e => failed w [] (.file e)
  | .ok false => .reported w [] (input.render ++ " is not a file".toList)
  | .ok true =>
    let out := output.getD (defaultOutput input)
    match produce w input out dot with
    | (w', .ok d) => .success w' (converted input out d) []
    | (w', .error f) => failed w' [] f

/-! ## §2 The files of a directory -/

/-- The suffixes of diagram files. -/
def suffixes : List Text := [".mmd".toList, ".mermaid".toList, ".txt".toList]

/-- Is the text before another one or the same, by code points? -/
def isBefore : Text → Text → Bool
  | [], _ => true
  | _ :: _, [] => false
  | a :: s, b :: t => if a = b then isBefore s t else a.toNat < b.toNat

/-- Is the name that of a diagram file, by its suffix in small letters? -/
def isDiagramName (name : Text) : Bool :=
  suffixes.contains (lower (Path.splitSuffix name).2)

/-- The diagram files of a directory, sorted by name. -/
def selected (w : Workspace) (dir : Path) : Except FileError (List Text) :=
  match w.list dir with
  | .error e => .error e
  | .ok names =>
    let files := names.filter fun name =>
      isDiagramName name && (match w.lookup (dir.child name) with
        | .ok (.file _) => true
        | _ => false)
    .ok (files.mergeSort isBefore)

/-- Does another of the files share the stem of this one? -/
def clashes (files : List Text) (name : Text) : Bool :=
  1 < files.countP (fun other => (Path.splitSuffix other).1 = (Path.splitSuffix name).1)

/-- The name of a file's outputs, without their suffixes: its stem,
followed by its suffix if another file shares the stem. -/
def outputId (files : List Text) (name : Text) : Text :=
  let (stem, suffix) := Path.splitSuffix name
  if clashes files name then stem ++ '_' :: lower (suffix.dropWhile (· == '.')) else stem

/-- Where the graph of a file of a directory goes. -/
def outputPath (files : List Text) (outDir : Path) (name : Text) : Path :=
  outDir.child (outputId files name ++ ".json".toList)

/-! ## §3 Batches -/

/-- What became of one file. -/
structure Report where
  name : Text
  id : Text
  clash : Bool
  result : Except Failure Diagram

/-- Converts the files one after the other. A failure that is not
reported ends the batch. -/
def produceAll (files : List Text) (dir outDir : Path) (dot : Bool) (w : Workspace) :
    List Text → Workspace × List Report × Option Failure
  | [] => (w, [], none)
  | name :: rest =>
    let (w', result) := produce w (dir.child name) (outputPath files outDir name) dot
    let report : Report := ⟨name, outputId files name, clashes files name, result⟩
    match result with
    | .ok _ =>
      let (w'', reports, broken) := produceAll files dir outDir dot w' rest
      (w'', report :: reports, broken)
    | .error f =>
      if isReported f then
        let (w'', reports, broken) := produceAll files dir outDir dot w' rest
        (w'', report :: reports, broken)
      else (w', [report], some f)

/-- How many files were converted, failed, or held no node. -/
structure Stats where
  total : Nat
  success : Nat
  failed : Nat
  empty : Nat
  deriving DecidableEq, Repr

/-- Did the file hold at least one node? -/
def Report.isSuccess (r : Report) : Bool :=
  match r.result with
  | .ok d => !d.nodes.isEmpty
  | .error _ => false

/-- Was the file converted without holding any node? -/
def Report.isEmpty (r : Report) : Bool :=
  match r.result with
  | .ok d => d.nodes.isEmpty
  | .error _ => false

/-- Did the conversion fail? -/
def Report.isFailed (r : Report) : Bool :=
  match r.result with
  | .ok _ => false
  | .error _ => true

/-- The counts of a batch. -/
def statsOf (reports : List Report) : Stats :=
  ⟨reports.length, reports.countP Report.isSuccess, reports.countP Report.isFailed,
   reports.countP Report.isEmpty⟩

/-- The entry of a converted file in the summary. -/
def Report.entry? (r : Report) : Option Json.Value :=
  match r.result with
  | .error _ => none
  | .ok d => some (.obj
      [("id".toList, .str r.id), ("dialect".toList, .str (dialectWord d)),
       ("nodes".toList, .int d.nodes.length), ("links".toList, .int d.links.length),
       ("skipped".toList, .int d.unread.length)])

/-- The summary of a batch. -/
def summary (reports : List Report) : Json.Value :=
  let s := statsOf reports
  .obj [("stats".toList, .obj
          [("total".toList, .int s.total), ("success".toList, .int s.success),
           ("failed".toList, .int s.failed), ("empty".toList, .int s.empty)]),
        ("results".toList, .arr (reports.filterMap Report.entry?))]

/-! ## §4 What a batch prints -/

/-- A rule across the page. -/
def rule : Text := List.replicate 70 '=' ++ ['\n']

/-- What is printed once a file is done. -/
def Report.resultLines (r : Report) : Text :=
  match r.result with
  | .error f => "  ✗ Failed: ".toList ++ f.message ++ ['\n']
  | .ok d =>
    "  Dialect: ".toList ++ dialectWord d ++
      "\n  Nodes: ".toList ++ number d.nodes.length ++
      ", Links: ".toList ++ number d.links.length ++ '\n' ::
      (if d.unread.isEmpty then []
       else "  Skipped lines: ".toList ++ number d.unread.length ++ ['\n']) ++
      (if d.nodes.isEmpty then "  ⊘ Empty\n".toList else "  ✓ Success\n".toList)

/-- What is printed before a file is converted. -/
def Report.opening (index : Nat) (r : Report) : Text :=
  "\n[".toList ++ number index ++ "] Processing: ".toList ++ r.name ++ '\n' ::
    (if r.clash then
      "  ⚠ Name clash: ".toList ++ r.name ++ " written as ".toList ++ r.id ++ ".json\n".toList
     else [])

/-- What is printed of the files, the first of which has the given
number; of one that broke the batch off there are no results. -/
def progress (index : Nat) : List Report → Text
  | [] => []
  | r :: rest =>
    r.opening index ++
      (match r.result with
       | .error f => if isReported f then r.resultLines else []
       | .ok _ => r.resultLines) ++
      progress (index + 1) rest

/-- The counts as they are printed at the end. -/
def closing (reports : List Report) : Text :=
  let s := statsOf reports
  '\n' :: rule ++ "SUMMARY\n".toList ++ rule ++
    "Total: ".toList ++ number s.total ++ ", Success: ".toList ++ number s.success ++
    ", Failed: ".toList ++ number s.failed ++ ", Empty: ".toList ++ number s.empty ++ ['\n']

/-! ## §5 Directories -/

/-- Where the summary goes. -/
def summaryPath (outDir : Path) : Path := outDir.child "conversion_summary.json".toList

/-- Converts the given files of a directory. -/
def convertFiles (w : Workspace) (dir outDir : Path) (files : List Text) (dot : Bool) : Outcome :=
  let (w', reports, broken) := produceAll files dir outDir dot w files
  let printed := "Found ".toList ++ number files.length ++ " Mermaid files\n".toList ++ rule ++
    progress 1 reports
  match broken with
  | some f => .brokenOff w' printed f
  | none =>
    let printed := printed ++ closing reports
    match writeText w' (summaryPath outDir) (Json.write (summary reports)) with
    | .error f => failed w' printed f
    | .ok w'' =>
      .success w'' (printed ++ "\nOutput: ".toList ++ outDir.render ++
        "\nSummary: ".toList ++ (summaryPath outDir).render ++ ['\n']) []

/-- Converts the diagram files of a directory, if it is one. -/
def convertDirectory (w : Workspace) (dir outDir : Path) (dot : Bool) : Outcome :=
  match w.isDirectory dir with
  | .error e => failed w [] (.file e)
  | .ok false => .reported w [] (dir.render ++ " is not a directory".toList)
  | .ok true =>
    match w.makeDirectories outDir with
    | (w', some e) => failed w' [] (.file e)
    | (w', none) =>
      match selected w' dir with
      | .error e => failed w' [] (.file e)
      | .ok [] =>
        .success w' ("No Mermaid files found in ".toList ++ dir.render ++ ['\n']) []
      | .ok files => convertFiles w' dir outDir files dot

/-- The directory for the outputs of a batch unless another one is given. -/
def defaultDirectory : Path := ⟨[], ["output".toList]⟩

/-- Converts what the operand names. -/
def body (taken : Taken) (_ : Text) (w : Workspace) : Outcome :=
  let input := Path.parse (taken.operand.getD [])
  let output := (taken.given "-o".toList).value?.map Path.parse
  let dot := taken.has "--dot".toList
  if taken.has "-b".toList then
    convertDirectory w input (output.getD defaultDirectory) dot
  else convertOne w input output dot

/-- The command. -/
def command : Command := ⟨"convert.py".toList, grammar, fun _ => false, body⟩

end DiagramGraph.Cli.Convert
