/-
DiagramGraph.Cli.Outcome — what a run of a command leaves behind.

A command is a function from its arguments, its standard input and a
workspace to an `Outcome`: the exit code, what was printed and the
workspace afterwards. A `Failure` that a command expects becomes an
error line; any other one breaks the run off, and the outcome says so.
-/
import DiagramGraph.Cli.Arguments
import DiagramGraph.Document.Basic
import DiagramGraph.Files.Tree
import DiagramGraph.Json.Reader

namespace DiagramGraph.Cli

open Text Files

/-! ## §1 Failures -/

/-- What can go wrong in a run. -/
inductive Failure
  | file (e : FileError)
  | notUtf8 (f : Utf8.Fault)
  | notJson (e : Json.ReadError)
  | notGraph (e : Document.Invalid)
  | document (f : Document.Fault)
  | blankOption (name : Text)
  deriving DecidableEq, Repr

/-- The message of a failure; a value of the wrong kind, and an option
that lacks the value it cannot do without, have none. -/
def Failure.message : Failure → Text
  | .file e => e.message
  | .notUtf8 f => f.message
  | .notJson e => e.message
  | .notGraph e => e.message
  | .document _ => []
  | .blankOption _ => []

/-- Did the system refuse to use a file? -/
def Failure.isSystem : Failure → Bool
  | .file e => e.cause ≠ .nullCharacter
  | _ => false

/-! ## §2 Outcomes -/

/-- What a run leaves behind. -/
structure Outcome where
  exitCode : Nat
  stdout : Text := []
  stderr : Text := []
  workspace : Workspace
  broken : Option Failure := none
  deriving DecidableEq, Repr

/-- The run ended well. -/
def Outcome.success (w : Workspace) (stdout stderr : Text) : Outcome :=
  ⟨0, stdout, stderr, w, none⟩

/-- The line of an error. -/
def errorLine (message : Text) : Text := "Error: ".toList ++ message ++ ['\n']

/-- The run reported an error. -/
def Outcome.reported (w : Workspace) (stdout message : Text) : Outcome :=
  ⟨1, stdout, errorLine message, w, none⟩

/-- The run broke off. -/
def Outcome.brokenOff (w : Workspace) (stdout : Text) (f : Failure) : Outcome :=
  ⟨1, stdout, [], w, some f⟩

/-! ## §3 Commands -/

/-- A command: the name it goes by, its grammar, whether its arguments
make it read standard input, and what it does with its arguments, that
input and a workspace. -/
structure Command where
  program : Text
  grammar : Grammar
  readsInput : Taken → Bool
  body : Taken → Text → Workspace → Outcome

/-- The names of a command's options. -/
def Command.usage (c : Command) : Text :=
  "usage: ".toList ++ c.program ++
    c.grammar.allFlags.flatMap (fun f => " [".toList ++ f.title ++ [']']) ++
    (match c.grammar.operand with
     | some name => ' ' :: name
     | none => []) ++ ['\n']

/-- Runs a command. Arguments that it refuses are reported with exit
code 2, and nothing else happens. -/
def Command.run (c : Command) (arguments : List Text) (stdin : Text) (w : Workspace) : Outcome :=
  match parse c.grammar arguments with
  | .ok taken => c.body taken stdin w
  | .error .help => .success w c.usage []
  | .error (.error e) => ⟨2, [], c.program ++ ": error: ".toList ++ e.message, w, none⟩

/-! ## §4 Texts in files -/

/-- The text of a file, with every line end as `\n`. -/
def readText (w : Workspace) (p : Path) : Except Failure Text :=
  match w.read p with
  | .error e => .error (.file e)
  | .ok bytes =>
    match Utf8.decode bytes with
    | .error f => .error (.notUtf8 f)
    | .ok t => .ok (unifyNewlines t)

/-- The workspace with a text written to a file. -/
def writeText (w : Workspace) (p : Path) (t : Text) : Except Failure Workspace :=
  match w.write p (Utf8.encode t) with
  | .error e => .error (.file e)
  | .ok w' => .ok w'

/-! ## §5 Words -/

/-- A number in a message. -/
def number (n : Nat) : Text := Nat.toDigits 10 n

/-- The dialect of a diagram in a message. -/
def dialectWord (d : Diagram) : Text :=
  match d.dialect with
  | some dialect => dialect.name
  | none => "empty".toList

end DiagramGraph.Cli
