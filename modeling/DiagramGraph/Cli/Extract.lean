/-
DiagramGraph.Cli.Extract — the command that prints the graph of a
diagram as JSON.

The diagram comes from a file or, by default, from standard input. On
request the dialect and the statements that were not understood are
reported as well.
-/
import DiagramGraph.Cli.Outcome
import DiagramGraph.Json.Writer
import DiagramGraph.Mermaid.Reader

namespace DiagramGraph.Cli.Extract

open Text Files

/-- `--in PATH` and `--report`. -/
def grammar : Grammar :=
  ⟨none, [⟨["--in".toList], .value, false, []⟩, ⟨["--report".toList], .nothing, false, []⟩]⟩

/-- Where the diagram comes from. -/
inductive Source
  | stdin
  | file (path : Path)
  deriving DecidableEq, Repr

/-- Where the arguments say that the diagram comes from; a dash stands
for standard input, which is also the default. -/
def source (taken : Taken) : Except Failure Source :=
  match taken.given "--in".toList with
  | .absent => .ok .stdin
  | .blank => .error (.blankOption "--in".toList)
  | .value t => .ok (if t = ['-'] then .stdin else .file (Path.parse t))

/-- Does the diagram come from standard input? -/
def readsInput (taken : Taken) : Bool :=
  match source taken with
  | .ok .stdin => true
  | _ => false

/-- The text of the diagram. -/
def diagramText (taken : Taken) (stdin : Text) (w : Workspace) : Except Failure Text :=
  match source taken with
  | .error f => .error f
  | .ok .stdin => .ok stdin
  | .ok (.file path) => readText w path

/-- The dialect and the statements that were not understood. -/
def report (d : Diagram) : Text :=
  "Dialect: ".toList ++ dialectWord d ++ '\n' ::
    d.unread.flatMap (fun line => "  skipped: ".toList ++ line ++ ['\n'])

/-- Prints the graph of the diagram. -/
def body (taken : Taken) (stdin : Text) (w : Workspace) : Outcome :=
  match diagramText taken stdin w with
  | .error f => .brokenOff w [] f
  | .ok t =>
    let d := Mermaid.read t
    .success w (Json.write (Document.ofDiagram d) ++ ['\n'])
      (if taken.has "--report".toList then report d else [])

/-- The command. -/
def command : Command := ⟨"code2graph.py".toList, grammar, readsInput, body⟩

end DiagramGraph.Cli.Extract
