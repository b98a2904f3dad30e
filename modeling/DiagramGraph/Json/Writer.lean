/-
DiagramGraph.Json.Writer — writing a JSON document.

Every item and every field stands on a line of its own, indented by two
spaces for each level; what is empty stays on its line. All characters
are written as they are, but for the quote, the backslash and the
control characters.
-/
import DiagramGraph.Json.Value
import DiagramGraph.Number.Shortest
import DiagramGraph.Text.Quoted

namespace DiagramGraph.Json

open Text Number

/-! ## §1 Strings and numbers -/

/-- One character inside a string. -/
def writeChar (c : Char) : Text :=
  if c = '"' then "\\\"".toList
  else if c = '\\' then "\\\\".toList
  else if c = '\n' then "\\n".toList
  else if c = '\r' then "\\r".toList
  else if c = '\t' then "\\t".toList
  else if c = '\x08' then "\\b".toList
  else if c = '\x0c' then "\\f".toList
  else if c.toNat < 0x20 then "\\u".toList ++ hex 4 c.toNat
  else [c]

/-- A string with its quotes. -/
def writeString (t : Text) : Text := '"' :: t.flatMap writeChar ++ ['"']

/-- An integer. -/
def writeInt (n : Int) : Text :=
  (if n < 0 then ['-'] else []) ++ Nat.toDigits 10 n.natAbs

/-- The names of the numbers without digits. -/
def numberNames : Names := ⟨"NaN".toList, "Infinity".toList⟩

/-! ## §2 Values -/

/-- A line end and the indentation of a level. -/
def newline (level : Nat) : Text := '\n' :: List.replicate (2 * level) ' '

mutual

/-- The text of a value that stands at the given level. -/
def writeAt (level : Nat) : Value → Text
  | .null => "null".toList
  | .bool b => if b then "true".toList else "false".toList
  | .int n => writeInt n
  | .float x => Number.text numberNames x
  | .str t => writeString t
  | .arr [] => "[]".toList
  | .arr (v :: rest) =>
    '[' :: newline (level + 1) ++ writeAt (level + 1) v ++ writeItems level rest
  | .obj [] => "\x7b\x7d".toList
  | .obj ((key, v) :: rest) =>
    '\x7b' :: newline (level + 1) ++ writeString key ++ ": ".toList ++ writeAt (level + 1) v ++
      writeFields level rest

/-- The items after the first, and the closing bracket. -/
def writeItems (level : Nat) : List Value → Text
  | [] => newline level ++ [']']
  | v :: rest => ',' :: newline (level + 1) ++ writeAt (level + 1) v ++ writeItems level rest

/-- The fields after the first, and the closing brace. -/
def writeFields (level : Nat) : List (Text × Value) → Text
  | [] => newline level ++ ['\x7d']
  | (key, v) :: rest =>
    ',' :: newline (level + 1) ++ writeString key ++ ": ".toList ++ writeAt (level + 1) v ++
      writeFields level rest

end

/-- The text of a JSON document. -/
def write (v : Value) : Text := writeAt 0 v

end DiagramGraph.Json
