/-
DiagramGraph.Text.Basic — text as a list of characters, blanks and
the ways of removing them.

Every part of the library scans text from left to right, so `Text` is
`List Char`: what a scanner takes and what it leaves are two lists
whose concatenation is the input, and facts about them are proved by
induction on the list.

* `isBlank` — the characters that count as white space;
* `trim` — the text without leading and trailing blanks;
* `squeeze` — the words of the text, one space between each two.
-/

namespace DiagramGraph

/-- A text is the list of its characters. -/
abbrev Text := List Char

namespace Text

/-! ## §1 Blanks -/

/-- The code points of the blank characters beyond the ASCII range. -/
def wideBlanks : List Nat :=
  [0x85, 0xA0, 0x1680, 0x2000, 0x2001, 0x2002, 0x2003, 0x2004, 0x2005, 0x2006,
   0x2007, 0x2008, 0x2009, 0x200A, 0x2028, 0x2029, 0x202F, 0x205F, 0x3000]

/-- White space: the space, the control characters from tab to carriage
return, the four separators U+001C to U+001F, and `wideBlanks`. -/
def isBlank (c : Char) : Bool :=
  if c.toNat < 128 then
    c.toNat == 32 || (9 ≤ c.toNat && c.toNat ≤ 13) || (28 ≤ c.toNat && c.toNat ≤ 31)
  else wideBlanks.contains c.toNat

/-! ## §2 Trimming -/

/-- The text from its first character that is no blank. -/
def trimStart (t : Text) : Text := t.dropWhile isBlank

/-- The text up to its last character that is no blank. -/
def trimEnd (t : Text) : Text := (t.reverse.dropWhile isBlank).reverse

/-- The text without leading and trailing blanks. -/
def trim (t : Text) : Text := trimEnd (trimStart t)

@[simp] theorem trimStart_nil : trimStart [] = [] := rfl

@[simp] theorem trimEnd_nil : trimEnd [] = [] := rfl

@[simp] theorem trim_nil : trim [] = [] := rfl

theorem length_trimStart_le (t : Text) : (trimStart t).length ≤ t.length :=
  (List.dropWhile_sublist isBlank).length_le

/-! ## §3 Words -/

/-- The maximal runs of characters that are no blanks, in order. -/
def words (t : Text) : List Text :=
  (t.splitOnP isBlank).filter (fun w => !w.isEmpty)

/-- The words of the text with one space between each two: no blank at
either end and no other white space inside. -/
def squeeze (t : Text) : Text := [' '].intercalate (words t)

/-- The word at the start of the text, empty if there is none. -/
def firstWord (t : Text) : Text := (trimStart t).takeWhile (fun c => !isBlank c)

end Text
end DiagramGraph
