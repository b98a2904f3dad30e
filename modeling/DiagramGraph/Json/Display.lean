/-
DiagramGraph.Json.Display — a JSON value as running text.

Where a value stands for a piece of text (an identifier that is a
number, a member that is null), a string is shown as it is and every
other value in a form of its own: `None`, `True`, `False`, numbers, and
lists and records with their strings in quotes.
-/
import DiagramGraph.Json.Writer

namespace DiagramGraph.Json

open Text Number

/-- The names of the numbers without digits, in running text. -/
def displayNames : Names := ⟨"nan".toList, "inf".toList⟩

mutual

/-- The form of a value inside a list or a record. -/
def displayInner : Value → Text
  | .null => "None".toList
  | .bool b => if b then "True".toList else "False".toList
  | .int n => writeInt n
  | .float x => Number.text displayNames x
  | .str t => quoted t
  | .arr [] => "[]".toList
  | .arr (v :: rest) => '[' :: displayInner v ++ displayItems rest
  | .obj [] => "\x7b\x7d".toList
  | .obj ((key, v) :: rest) =>
    '\x7b' :: quoted key ++ ": ".toList ++ displayInner v ++ displayFields rest

/-- The items after the first, and the closing bracket. -/
def displayItems : List Value → Text
  | [] => [']']
  | v :: rest => ", ".toList ++ displayInner v ++ displayItems rest

/-- The fields after the first, and the closing brace. -/
def displayFields : List (Text × Value) → Text
  | [] => ['\x7d']
  | (key, v) :: rest =>
    ", ".toList ++ quoted key ++ ": ".toList ++ displayInner v ++ displayFields rest

end

/-- The value as running text. -/
def display : Value → Text
  | .str t => t
  | v => displayInner v

end DiagramGraph.Json
