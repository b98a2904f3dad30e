/-
DiagramGraph.Json.Reader — reading a JSON document.

Readers take a text and return a value with the rest of the text; a
reader that cannot go on names its problem and the text at the fault
(`Stop`), from which the place is computed at the end. Besides the
standard grammar the names `NaN`, `Infinity` and `-Infinity` are
numbers, and of a repeated field the last value counts.

* `readString` — a string after its opening quote;
* `readNumber?` — a number;
* `readValue` — any value;
* `read` — a whole document.
-/
import DiagramGraph.Json.Value
import DiagramGraph.Text.Search

namespace DiagramGraph.Json

open Text Number

/-! ## §1 Problems -/

/-- What is wrong with a text that is no JSON document. -/
inductive Problem
  | byteOrderMark
  | expectedValue
  | expectedName
  | expectedColon
  | expectedComma
  | unterminatedString
  | controlCharacter
  | badEscape
  | badUnicodeEscape
  | extraData
  deriving DecidableEq, Repr

/-- The wording of a problem. -/
def Problem.message : Problem → Text
  | .byteOrderMark => "Unexpected UTF-8 BOM (decode using utf-8-sig)".toList
  | .expectedValue => "Expecting value".toList
  | .expectedName => "Expecting property name enclosed in double quotes".toList
  | .expectedColon => "Expecting ':' delimiter".toList
  | .expectedComma => "Expecting ',' delimiter".toList
  | .unterminatedString => "Unterminated string starting at".toList
  | .controlCharacter => "Invalid control character at".toList
  | .badEscape => "Invalid \\escape".toList
  | .badUnicodeEscape => "Invalid \\uXXXX escape".toList
  | .extraData => "Extra data".toList

/-- What values can stand in. -/
inductive Container
  | array
  | object
  deriving DecidableEq, Repr

/-- The word for a container. -/
def Container.word : Container → Text
  | .array => "array".toList
  | .object => "object".toList

/-- Why a reader stopped. -/
inductive Stop
  /-- A problem, and the text from the fault on. -/
  | fault (problem : Problem) (rest : Text)
  /-- An integer with more digits than are read. -/
  | longInteger (digits : Nat)
  /-- A container inside more others than are read. -/
  | tooDeep (c : Container)
  deriving DecidableEq, Repr

/-! ## §2 Strings -/

/-- The value of a hexadecimal digit. -/
def hexDigit? (c : Char) : Option Nat :=
  if '0' ≤ c ∧ c ≤ '9' then some (c.toNat - 48)
  else if 'a' ≤ c ∧ c ≤ 'f' then some (c.toNat - 87)
  else if 'A' ≤ c ∧ c ≤ 'F' then some (c.toNat - 55)
  else none

/-- The number that the first four characters write in hexadecimal. -/
def hexQuad? : Text → Option Nat
  | a :: b :: c :: d :: _ =>
    match hexDigit? a, hexDigit? b, hexDigit? c, hexDigit? d with
    | some x, some y, some z, some w => some (((x * 16 + y) * 16 + z) * 16 + w)
    | _, _, _, _ => none
  | _ => none

/-- The character of a code point; half of a surrogate pair alone is
shown as the replacement character. -/
def charOfCode (n : Nat) : Char :=
  if 0xD800 ≤ n ∧ n ≤ 0xDFFF then '\uFFFD' else Char.ofNat n

/-- The character of an escape of one letter. -/
def shortEscape? (c : Char) : Option Char :=
  if c = '"' ∨ c = '\\' ∨ c = '/' then some c
  else if c = 'b' then some '\x08'
  else if c = 'f' then some '\x0c'
  else if c = 'n' then some '\n'
  else if c = 'r' then some '\r'
  else if c = 't' then some '\t'
  else none

/-- The escape `uXXXX` that `t` starts with: its character and its
length. Two escapes that write a surrogate pair are one character. A
string cannot end inside the document's last escape, so a character has
to follow the digits. -/
def unicodeEscape (t : Text) : Except Stop (Char × Nat) :=
  if t.length ≤ 5 then .error (.fault .badUnicodeEscape t)
  else
    match hexQuad? (t.drop 1) with
    | none => .error (.fault .badUnicodeEscape t)
    | some high =>
      let tail := t.drop 5
      if 0xD800 ≤ high ∧ high ≤ 0xDBFF ∧ 7 ≤ tail.length ∧ "\\u".toList.isPrefixOf tail then
        match hexQuad? (tail.drop 2) with
        | none => .error (.fault .badUnicodeEscape (tail.drop 1))
        | some low =>
          if 0xDC00 ≤ low ∧ low ≤ 0xDFFF then
            .ok (Char.ofNat (0x10000 + (high - 0xD800) * 0x400 + (low - 0xDC00)), 11)
          else .ok (charOfCode high, 5)
      else .ok (charOfCode high, 5)

/-- The escape after a backslash: its character and its length.
`opening` is the text from the quote that opened the string. -/
def escape (opening t : Text) : Except Stop (Char × Nat) :=
  match t with
  | [] => .error (.fault .unterminatedString opening)
  | c :: _ =>
    if c = 'u' then unicodeEscape t
    else
      match shortEscape? c with
      | some e => .ok (e, 1)
      | none => .error (.fault .badEscape ('\\' :: t))

/-- Reads the characters of a string up to its closing quote, after
`skip` characters that belong to an escape already read. -/
def readString (opening : Text) : Nat → Text → Except Stop (Text × Text)
  | _, [] => .error (.fault .unterminatedString opening)
  | skip + 1, _ :: rest => readString opening skip rest
  | 0, c :: rest =>
    if c = '"' then .ok ([], rest)
    else if c = '\\' then
      match escape opening rest with
      | .error stop => .error stop
      | .ok (e, n) => (readString opening n rest).map (fun s => (e :: s.1, s.2))
    else if c.toNat < 0x20 then .error (.fault .controlCharacter (c :: rest))
    else (readString opening 0 rest).map (fun s => (c :: s.1, s.2))

/-! ## §3 Numbers -/

/-- Is the character a decimal digit? -/
def isDigit (c : Char) : Bool := c.isDigit

/-- The number that decimal digits write. -/
def digitsValue (digits : Text) : Nat :=
  digits.foldl (fun n c => n * 10 + (c.toNat - 48)) 0

/-- The digits before the point, and the rest: a zero alone, or digits
that start with none. -/
def wholePart? (t : Text) : Option (Text × Text) :=
  match t with
  | '0' :: rest => some (['0'], rest)
  | _ =>
    if (t.takeWhile isDigit).isEmpty then none
    else some (t.takeWhile isDigit, t.dropWhile isDigit)

/-- The digits after a point, empty if no point with digits stands
there, and the rest. -/
def fractionPart (t : Text) : Text × Text :=
  match t with
  | '.' :: rest =>
    if (rest.takeWhile isDigit).isEmpty then ([], t)
    else (rest.takeWhile isDigit, rest.dropWhile isDigit)
  | _ => ([], t)

/-- The exponent, if one stands there, and the rest. -/
def exponentPart (t : Text) : Option Int × Text :=
  match t with
  | c :: rest =>
    if c = 'e' ∨ c = 'E' then
      let (negative, more) := match rest with
        | '-' :: more => (true, more)
        | '+' :: more => (false, more)
        | _ => (false, rest)
      let digits := more.takeWhile isDigit
      if digits.isEmpty then (none, t)
      else
        let n : Int := digitsValue digits
        (some (if negative then -n else n), more.dropWhile isDigit)
    else (none, t)
  | [] => (none, t)

/-- The most digits that an integer may have. -/
def maxIntegerDigits : Nat := 4300

/-- The number after its sign; none if no digit stands there. -/
def readMagnitude (negative : Bool) (t : Text) : Option (Except Stop (Value × Text)) :=
  match wholePart? t with
  | none => none
  | some (whole, afterWhole) =>
    let (fraction, afterFraction) := fractionPart afterWhole
    let (exponent, rest) := exponentPart afterFraction
    if fraction.isEmpty ∧ exponent.isNone then
      if maxIntegerDigits < whole.length then some (.error (.longInteger whole.length))
      else
        let n : Int := digitsValue whole
        some (.ok (.int (if negative then -n else n), rest))
    else
      let x := Binary64.ofDecimal negative (digitsValue (whole ++ fraction))
        (exponent.getD 0 - fraction.length)
      some (.ok (.float x, rest))

/-- The names of values, each with its value. -/
def namedValues : List (Text × Value) :=
  [("null".toList, .null), ("true".toList, .bool true), ("false".toList, .bool false),
   ("NaN".toList, .float .nan), ("Infinity".toList, .float (.infinite false)),
   ("-Infinity".toList, .float (.infinite true))]

/-- A value without parts: a name or a number. -/
def readAtom (t : Text) : Except Stop (Value × Text) :=
  match namedValues.findSome? (fun (name, v) => (after? name t).map (fun rest => (v, rest))) with
  | some found => .ok found
  | none =>
    let number := match t with
      | '-' :: rest => readMagnitude true rest
      | _ => readMagnitude false t
    number.getD (.error (.fault .expectedValue t))

/-! ## §4 Values -/

/-- The white space of JSON. -/
def isSpace (c : Char) : Bool := c == ' ' || c == '\t' || c == '\n' || c == '\r'

/-- The text from its first character that is no white space. -/
def skipSpace (t : Text) : Text := t.dropWhile isSpace

/-- How many containers may stand inside each other. -/
def maxDepth : Nat := 990

mutual

/-- Reads a value at the start of the text, inside of which `depth`
containers may be nested. `fuel` bounds the number of parts. -/
def readValue : Nat → Nat → Text → Except Stop (Value × Text)
  | 0, _, t => .error (.fault .expectedValue t)
  | fuel + 1, depth, t =>
    match t with
    | [] => .error (.fault .expectedValue t)
    | c :: rest =>
      if c = '"' then (readString t 0 rest).map (fun s => (.str s.1, s.2))
      else if c = '\x7b' then
        if depth = 0 then .error (.tooDeep .object)
        else
          match skipSpace rest with
          | '\x7d' :: rest => .ok (.obj [], rest)
          | inner => readFields fuel (depth - 1) [] inner
      else if c = '[' then
        if depth = 0 then .error (.tooDeep .array)
        else
          match skipSpace rest with
          | ']' :: rest => .ok (.arr [], rest)
          | inner => readItems fuel (depth - 1) inner
      else readAtom t

/-- Reads the fields of an object from the name of one of them on;
`done` are the fields before. -/
def readFields : Nat → Nat → Fields → Text → Except Stop (Value × Text)
  | 0, _, _, t => .error (.fault .expectedName t)
  | fuel + 1, depth, done, t =>
    match t with
    | '"' :: rest =>
      match readString t 0 rest with
      | .error stop => .error stop
      | .ok (name, rest) =>
        match skipSpace rest with
        | ':' :: rest =>
          match readValue fuel depth (skipSpace rest) with
          | .error stop => .error stop
          | .ok (v, rest) =>
            let fields := done.put name v
            match skipSpace rest with
            | '\x7d' :: rest => .ok (.obj fields, rest)
            | ',' :: rest => readFields fuel depth fields (skipSpace rest)
            | other => .error (.fault .expectedComma other)
        | other => .error (.fault .expectedColon other)
    | _ => .error (.fault .expectedName t)

/-- Reads the items of an array from one of them on. -/
def readItems : Nat → Nat → Text → Except Stop (Value × Text)
  | 0, _, t => .error (.fault .expectedValue t)
  | fuel + 1, depth, t =>
    match readValue fuel depth t with
    | .error stop => .error stop
    | .ok (v, rest) =>
      match skipSpace rest with
      | ']' :: rest => .ok (.arr [v], rest)
      | ',' :: rest =>
        match readItems fuel depth (skipSpace rest) with
        | .ok (.arr items, rest) => .ok (.arr (v :: items), rest)
        | other => other
      | other => .error (.fault .expectedComma other)

end

/-! ## §5 Documents -/

/-- The reading of a whole document. -/
def readDocument (t : Text) : Except Stop Value :=
  if t.head? = some '\uFEFF' then .error (.fault .byteOrderMark t)
  else
    match readValue (2 * t.length + 2) maxDepth (skipSpace t) with
    | .error stop => .error stop
    | .ok (v, rest) =>
      match skipSpace rest with
      | [] => .ok v
      | other => .error (.fault .extraData other)

/-- Why a text is no JSON document: a problem at a place, or an integer
or a nesting beyond the limits. Lines and columns are counted from 1,
offsets from 0. -/
inductive ReadError
  | malformed (problem : Problem) (line column offset : Nat)
  | longInteger (digits : Nat)
  | tooDeep (c : Container)
  deriving DecidableEq, Repr

/-- The error of a stop in the document `t`. -/
def Stop.locate (t : Text) : Stop → ReadError
  | .longInteger digits => .longInteger digits
  | .tooDeep c => .tooDeep c
  | .fault problem rest =>
    let offset := t.length - rest.length
    let before := t.take offset
    let column := (before.reverse.takeWhile (· != '\n')).length + 1
    .malformed problem (before.count '\n' + 1) column offset

/-- The wording of an error. -/
def ReadError.message : ReadError → Text
  | .malformed problem line column offset =>
    problem.message ++ ": line ".toList ++ Nat.toDigits 10 line ++ " column ".toList ++
      Nat.toDigits 10 column ++ " (char ".toList ++ Nat.toDigits 10 offset ++ [')']
  | .longInteger digits =>
    "Exceeds the limit (".toList ++ Nat.toDigits 10 maxIntegerDigits ++
      " digits) for integer string conversion: value has ".toList ++ Nat.toDigits 10 digits ++
      " digits; use sys.set_int_max_str_digits() to increase the limit".toList
  | .tooDeep c =>
    "maximum recursion depth exceeded while decoding a JSON ".toList ++ c.word ++
      " from a unicode string".toList

/-- Reads a JSON document. -/
def read (t : Text) : Except ReadError Value :=
  match readDocument t with
  | .ok v => .ok v
  | .error stop => .error (stop.locate t)

end DiagramGraph.Json
