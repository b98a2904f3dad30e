/-
DiagramGraph.Text.Quoted — a text as messages show it, between quotes.

The quote is `'`, unless the text holds a `'` and no `"`, which are
then the quotes. The quote in use and the backslash get a backslash,
line feed, carriage return and tab are `\n`, `\r`, `\t`, and any other
unprintable character is its code point in hexadecimal: `\x` and two
digits, `\u` and four, or `\U` and eight.
-/
import DiagramGraph.Text.Printable

namespace DiagramGraph.Text

/-- The number in hexadecimal with lower-case digits, padded with zeros
to `width` digits. -/
def hex (width n : Nat) : Text :=
  let digits := Nat.toDigits 16 n
  List.replicate (width - digits.length) '0' ++ digits

/-- The quote that messages put around the text. -/
def quoteMark (t : Text) : Char :=
  if t.contains '\'' && !t.contains '"' then '"' else '\''

/-- One character between `mark`s. -/
def quoteChar (mark c : Char) : Text :=
  if c = mark ∨ c = '\\' then ['\\', c]
  else if c = '\n' then "\\n".toList
  else if c = '\r' then "\\r".toList
  else if c = '\t' then "\\t".toList
  else if isPrintable c then [c]
  else if c.toNat ≤ 0xFF then "\\x".toList ++ hex 2 c.toNat
  else if c.toNat ≤ 0xFFFF then "\\u".toList ++ hex 4 c.toNat
  else "\\U".toList ++ hex 8 c.toNat

/-- The text between quotes, as messages show it. -/
def quoted (t : Text) : Text :=
  let mark := quoteMark t
  mark :: t.flatMap (quoteChar mark) ++ [mark]

end DiagramGraph.Text
