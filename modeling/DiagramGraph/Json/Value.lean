/-
DiagramGraph.Json.Value — JSON values.

The fields of an object keep the order in which they were written, and
numbers written without point and exponent stay integers: both can be
seen in what is printed later.
-/
import DiagramGraph.Number.Binary64
import DiagramGraph.Text.Basic

namespace DiagramGraph.Json

open Number

/-- A JSON value. -/
inductive Value
  | null
  | bool (b : Bool)
  | int (n : Int)
  | float (x : Binary64)
  | str (t : Text)
  | arr (items : List Value)
  | obj (fields : List (Text × Value))
  deriving Repr

/-- The fields of an object. -/
abbrev Fields := List (Text × Value)

/-- The value of a field. -/
def Fields.get? (fields : Fields) (key : Text) : Option Value :=
  (fields.find? (fun f => f.1 = key)).map (·.2)

/-- The fields with one set: a known key keeps its place and takes the
new value, a new one goes to the end. -/
def Fields.put (fields : Fields) (key : Text) (v : Value) : Fields :=
  if fields.any (fun f => f.1 = key) then
    fields.map (fun f => if f.1 = key then (key, v) else f)
  else fields ++ [(key, v)]

namespace Value

/-- Does the value say anything? Null, false, zero and everything empty do not. -/
def isTruthy : Value → Bool
  | null => false
  | bool b => b
  | int n => n ≠ 0
  | float x => !x.isZero
  | str t => !t.isEmpty
  | arr items => !items.isEmpty
  | obj fields => !fields.isEmpty

/-! ## Equality of contents -/

mutual

/-- Do two values inside of containers have the same contents? Numbers
are compared by value, and false and true are the numbers 0 and 1; the
order of fields does not matter. -/
def sameContents : Value → Value → Bool
  | null, null => true
  | bool a, bool b => a = b
  | bool a, int n => (if a then 1 else 0) = n
  | int n, bool b => n = (if b then 1 else 0)
  | bool a, float x => x.equalsInt (if a then 1 else 0)
  | float x, bool b => x.equalsInt (if b then 1 else 0)
  | int m, int n => m = n
  | int n, float x => x.equalsInt n
  | float x, int n => x.equalsInt n
  | float x, float y => x = y || x.equals y
  | str s, str t => s = t
  | arr xs, arr ys => sameItems xs ys
  | obj xs, obj ys => xs.length = ys.length && sameFields xs ys
  | _, _ => false

/-- Do the lists agree item by item? -/
def sameItems : List Value → List Value → Bool
  | [], [] => true
  | x :: xs, y :: ys => sameContents x y && sameItems xs ys
  | _, _ => false

/-- Is each of the first fields among the second ones, with the same contents? -/
def sameFields : List (Text × Value) → List (Text × Value) → Bool
  | [], _ => true
  | (key, x) :: xs, ys =>
    (match Fields.get? ys key with
     | some y => sameContents x y
     | none => false) && sameFields xs ys

end

/-- Are the values equal? A NaN is not equal to itself, though a
container that holds one is. -/
def equals : Value → Value → Bool
  | float x, float y => x.equals y
  | v, w => sameContents v w

end Value
end DiagramGraph.Json
