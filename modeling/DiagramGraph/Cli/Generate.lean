/-
DiagramGraph.Cli.Generate — the command that turns graph JSON into
diagram code.

The code, DOT or Mermaid, is printed or written to a file. What is
wrong with the document as a whole is reported; a value of the wrong
kind inside of it breaks the run off before anything is written.
-/
import DiagramGraph.Cli.Outcome
import DiagramGraph.Dot.Writer
import DiagramGraph.Mermaid.Writer

namespace DiagramGraph.Cli.Generate

open Text Files

/-- `--in PATH`, `--fmt FORMAT`, `--orientation NAME` and `--out PATH`. -/
def grammar : Grammar :=
  ⟨none,
   [⟨["--in".toList], .value, true, []⟩,
    ⟨["--fmt".toList], .value, true, ["dot".toList, "mermaid".toList]⟩,
    ⟨["--orientation".toList], .value, false, []⟩,
    ⟨["--out".toList], .value, false, []⟩]⟩

/-- The graph document in a file. -/
def readDocument (w : Workspace) (p : Path) : Except Failure Json.Value :=
  match readText w p with
  | .error f => .error f
  | .ok t =>
    match Json.read t with
    | .error e => .error (.notJson e)
    | .ok v =>
      match Document.validate v with
      | .error e => .error (.notGraph e)
      | .ok document => .ok document

/-- Is the failure reported when it is met while reading the document?
Bytes that are no text, and what is beyond the limits of the JSON
reader, are not. -/
def isReported : Failure → Bool
  | .notJson (.malformed ..) => true
  | .notGraph _ => true
  | f => f.isSystem

/-- The code of a document. -/
def code (format : Text) (document : Json.Value) (orientation : Text) :
    Except Failure Text :=
  match if format = "dot".toList then Dot.write document orientation
    else Mermaid.write document none orientation with
  | .ok t => .ok t
  | .error f => .error (.document f)

/-- The value of an option that the command cannot do without. -/
def needed (taken : Taken) (name : Text) : Except Failure Text :=
  match (taken.given name).value? with
  | some t => .ok t
  | none => .error (.blankOption name)

/-- The format of the code and the path of the document. -/
def request (taken : Taken) : Except Failure (Text × Path) :=
  match needed taken "--fmt".toList, needed taken "--in".toList with
  | .error f, _ => .error f
  | _, .error f => .error f
  | .ok format, .ok path => .ok (format, Path.parse path)

/-- Prints the code, or writes it if a path is given. -/
def emit (w : Workspace) (out t : Text) : Outcome :=
  if out.isEmpty then .success w t []
  else
    match writeText w (Path.parse out) t with
    | .ok w' => .success w' [] []
    | .error f => .brokenOff w [] f

/-- Generates the code of the document at the given path. -/
def generate (w : Workspace) (format : Text) (path : Path) (orientation out : Text) : Outcome :=
  match readDocument w path with
  | .error f => if isReported f then .reported w [] f.message else .brokenOff w [] f
  | .ok document =>
    match code format document orientation with
    | .error f => .brokenOff w [] f
    | .ok t => emit w out t

/-- Generates what the arguments ask for. A blank orientation or output
is as good as none; without a format or a document nothing is read. -/
def body (taken : Taken) (_ : Text) (w : Workspace) : Outcome :=
  match request taken with
  | .error f => .brokenOff w [] f
  | .ok (format, path) =>
    generate w format path
      ((taken.given "--orientation".toList).value?.getD "TB".toList)
      ((taken.given "--out".toList).value?.getD [])

/-- The command. -/
def command : Command := ⟨"graph2code.py".toList, grammar, fun _ => false, body⟩

end DiagramGraph.Cli.Generate
