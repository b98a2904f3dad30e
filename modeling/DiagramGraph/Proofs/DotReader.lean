/-
DiagramGraph.Proofs.DotReader — DOT as it is read.

The writer of DOT texts decides what has to stand in quotes; this module
says what such a text means, by the rules of DOT and by none of the
writer's:

  §1 Tokens      — an identifier is a name, a numeral or a quoted string;
                   a name that is a keyword, in capitals or not, is no
                   identifier. In a quoted string `\"` is a quote, and a
                   quote alone ends the string; a pair of backslashes
                   stays a pair. Line ends are spaces like others.
  §2 Statements  — a text is read as one statement after the other. A
                   label has escapes of its own: `\\` is a backslash and
                   `\n` a line break.
  §3 Lexing      — `Reads next chunk ks`: the chunk is read as the items
                   `ks` before anything that cannot extend its last one.
                   Chunks can be put together (`Reads.append`). `Lexes`
                   is that for tokens, and `Spells` for one token.
  §4 Names       — names and numerals are one token each.
  §5 Label text  — what the writer escapes can be quoted
                   (`quotable_escapeLines`), is decoded as the lines
                   (`decodes_escapeLines`) and stays in its line.
  §6 Quoting     — what the writer writes for a label, a name or an end
                   of an edge is one identifier, the text itself
                   (`lexes_label`, `lexes_label_of_isName`).
-/
import DiagramGraph.Dot.Digraph
import DiagramGraph.Proofs.TextTheorems

namespace DiagramGraph.Dot

open Text

/-! ## §1 Tokens -/

section Scan

variable {α β : Type}

/-- What is read of a list item by item, after `skip` elements that
belong to an item already read. -/
def scanFrom (next : List α → Option (β × List α)) : Nat → List α → Option (List β)
  | _, [] => some []
  | skip + 1, _ :: rest => scanFrom next skip rest
  | 0, a :: rest =>
    match next (a :: rest) with
    | none => none
    | some (b, more) => (scanFrom next (rest.length - more.length) rest).map (b :: ·)

/-- What is read of a list item by item. -/
def scan? (next : List α → Option (β × List α)) (t : List α) : Option (List β) := scanFrom next 0 t

theorem scanFrom_eq_drop (next : List α → Option (β × List α)) :
    ∀ (skip : Nat) (t : List α), scanFrom next skip t = scan? next (t.drop skip)
  | 0, t => rfl
  | skip + 1, [] => rfl
  | skip + 1, a :: rest => by
      rw [scanFrom, scanFrom_eq_drop next skip rest, List.drop_succ_cons]

/-- One item is read and the rest follows. -/
theorem scan?_append {next : List α → Option (β × List α)} {chunk rest : List α} {b : β}
    (hne : chunk ≠ []) (h : next (chunk ++ rest) = some (b, rest)) :
    scan? next (chunk ++ rest) = (scan? next rest).map (b :: ·) := by
  obtain ⟨a, u, rfl⟩ := List.exists_cons_of_ne_nil hne
  have hlength : (u ++ rest).length - rest.length = u.length := by simp
  rw [List.cons_append] at h ⊢
  rw [scan?, scanFrom, h]
  dsimp only
  rw [hlength, scanFrom_eq_drop, List.drop_left]

end Scan

/-- White space between tokens. -/
def isSpace (c : Char) : Bool := c == ' ' || c == '\t' || c == '\r' || c == '\n'

/-- A character that begins a name: a letter, the underscore, or any
character beyond ASCII. -/
def beginsName (c : Char) : Bool := c.isAlpha || c == '_' || 128 ≤ c.toNat

/-- A character that stands in a name. -/
def inName (c : Char) : Bool := beginsName c || c.isDigit

/-- The unsigned numeral at the start of the text, and the rest. -/
def unsigned? (t : Text) : Option (Text × Text) :=
  let whole := t.takeWhile Char.isDigit
  match t.dropWhile Char.isDigit with
  | '.' :: more =>
    let fraction := more.takeWhile Char.isDigit
    if whole.isEmpty && fraction.isEmpty then none
    else some (whole ++ '.' :: fraction, more.dropWhile Char.isDigit)
  | rest => if whole.isEmpty then none else some (whole, rest)

/-- The numeral at the start of the text, which may have a minus sign,
and the rest. -/
def numeral? : Text → Option (Text × Text)
  | '-' :: t => (unsigned? t).map fun s => ('-' :: s.1, s.2)
  | t => unsigned? t

/-- The contents of a quoted string whose first quote was read, and the
rest after the quote that ends it. -/
def closeQuote? : Text → Option (Text × Text)
  | [] => none
  | '"' :: rest => some ([], rest)
  | '\\' :: '"' :: rest => (closeQuote? rest).map fun s => ('"' :: s.1, s.2)
  | '\\' :: '\\' :: rest => (closeQuote? rest).map fun s => ('\\' :: '\\' :: s.1, s.2)
  | c :: rest => (closeQuote? rest).map fun s => (c :: s.1, s.2)

/-- The keywords. -/
inductive Keyword
  | graph | digraph | subgraph | node | edge | strict
  deriving DecidableEq, Repr

/-- The keyword that a name is, in capitals or not. -/
def Keyword.ofName? (t : Text) : Option Keyword :=
  let t := lower t
  if t = "graph".toList then some .graph
  else if t = "digraph".toList then some .digraph
  else if t = "subgraph".toList then some .subgraph
  else if t = "node".toList then some .node
  else if t = "edge".toList then some .edge
  else if t = "strict".toList then some .strict
  else none

/-- The tokens. -/
inductive Token
  | id (t : Text)
  | keyword (k : Keyword)
  | arrow
  | mark (c : Char)
  deriving DecidableEq, Repr

/-- What a name stands for. -/
def nameToken (t : Text) : Token :=
  match Keyword.ofName? t with
  | some k => .keyword k
  | none => .id t

/-- The characters that are tokens. -/
def marks : List Char := ['\x7b', '\x7d', '[', ']', '=', ';', ',', ':']

/-- The token at the start of the text, and the rest. -/
def token? : Text → Option (Token × Text)
  | [] => none
  | '"' :: rest => (closeQuote? rest).map fun s => (.id s.1, s.2)
  | '-' :: '>' :: rest => some (.arrow, rest)
  | c :: rest =>
    if marks.contains c then some (.mark c, rest)
    else if beginsName c then
      some (nameToken ((c :: rest).takeWhile inName), (c :: rest).dropWhile inName)
    else (numeral? (c :: rest)).map fun s => (.id s.1, s.2)

/-- The space or the token at the start of the text, and the rest. -/
def lexeme? : Text → Option (Option Token × Text)
  | [] => none
  | c :: rest =>
    if isSpace c then some (none, rest) else (token? (c :: rest)).map fun s => (some s.1, s.2)

/-- The tokens of a text. -/
def tokens? (t : Text) : Option (List Token) := (scan? lexeme? t).map List.reduceOption

/-! ## §2 Statements -/

/-- The text of a label. A backslash before any other character would
stand for something else than text. -/
def unescape? : Text → Option Text
  | [] => some []
  | '\\' :: '\\' :: rest => (unescape? rest).map ('\\' :: ·)
  | '\\' :: 'n' :: rest => (unescape? rest).map ('\n' :: ·)
  | c :: rest => if c = '\\' then none else (unescape? rest).map (c :: ·)

/-- The value of an attribute: a label is decoded. -/
def attributeValue? (name value : Text) : Option Text :=
  if name = "label".toList then unescape? value else some value

/-- The attributes up to the bracket that ends them, and the rest. -/
def attributes? : List Token → Option (List (Text × Text) × List Token)
  | .mark ']' :: rest => some ([], rest)
  | .id name :: .mark '=' :: .id value :: rest =>
    (attributeValue? name value).bind fun v =>
      (attributes? rest).map fun s => ((name, v) :: s.1, s.2)
  | _ => none

/-- A statement as it is meant. -/
inductive Meaning
  | opening (name : Text)
  | setting (name value : Text)
  | nodeDefaults (attributes : List (Text × Text))
  | node (id : Text) (attributes : List (Text × Text))
  | edge (source target : Text) (attributes : List (Text × Text))
  | closing
  deriving DecidableEq, Repr

/-- The statement at the start of the tokens, and the rest. -/
def statement? : List Token → Option (Meaning × List Token)
  | .keyword .digraph :: .id name :: .mark '\x7b' :: rest => some (.opening name, rest)
  | .mark '\x7d' :: rest => some (.closing, rest)
  | .id name :: .mark '=' :: .id value :: rest => some (.setting name value, rest)
  | .keyword .node :: .mark '[' :: rest =>
    (attributes? rest).map fun s => (.nodeDefaults s.1, s.2)
  | .id source :: .arrow :: .id target :: .mark '[' :: rest =>
    (attributes? rest).map fun s => (.edge source target s.1, s.2)
  | .id id :: .mark '[' :: rest => (attributes? rest).map fun s => (.node id s.1, s.2)
  | _ => none

/-- The statements of a text. -/
def readText? (t : Text) : Option (List Meaning) := (tokens? t).bind (scan? statement?)

/-! ## §3 Lexing -/

/-- The text cannot extend a name or a numeral that stands before it. -/
def Stops (t : Text) : Prop := ∀ c ∈ t.head?, inName c = false ∧ c ≠ '.'

theorem Stops.append {a b : Text} (ha : Stops a) (hb : Stops b) : Stops (a ++ b) := by
  cases a with
  | nil => exact hb
  | cons c a => exact ha

theorem stops_cons {c : Char} (h : inName c = false ∧ c ≠ '.') (t : Text) : Stops (c :: t) := by
  simpa [Stops] using h

section Chunks

variable {α κ : Type}

/-- What is read of a list item by item, without what is passed over. -/
def items? (next : List α → Option (Option κ × List α)) (t : List α) : Option (List κ) :=
  (scan? next t).map List.reduceOption

/-- One item is read, or something is passed over, and the rest follows. -/
theorem items?_append {next : List α → Option (Option κ × List α)} {chunk rest : List α}
    {k? : Option κ} (hne : chunk ≠ []) (h : next (chunk ++ rest) = some (k?, rest)) :
    items? next (chunk ++ rest) = (items? next rest).map (k?.toList ++ ·) := by
  rw [items?, scan?_append hne h, items?, Option.map_map, Option.map_map]
  cases k? <;> rfl

/-- The chunk is read as the items, before anything that stops it. -/
def Reads (next : Text → Option (Option κ × Text)) (chunk : Text) (ks : List κ) : Prop :=
  ∀ rest, Stops rest → items? next (chunk ++ rest) = (items? next rest).map (ks ++ ·)

variable {next : Text → Option (Option κ × Text)} {a b : Text} {ks ls : List κ}

/-- Chunks are read one after the other. -/
theorem Reads.append (ha : Reads next a ks) (hb : Reads next b ls) (hstops : Stops b) :
    Reads next (a ++ b) (ks ++ ls) := by
  intro rest hrest
  rw [List.append_assoc, ha _ (hstops.append hrest), hb rest hrest, Option.map_map]
  congr 1
  funext more
  exact (List.append_assoc ks ls more).symm

/-- A text is read as the items of its only chunk. -/
theorem Reads.items?_eq (h : Reads next a ks) : items? next a = some ks := by
  have hall := h [] (by simp [Stops])
  have hnil : items? next [] = some [] := rfl
  simpa [hnil] using hall

theorem reads_nil : Reads next [] [] := by
  intro rest _
  simp

/-- What is one item, or is passed over, before anything that stops it. -/
theorem reads_of_next {k? : Option κ} (hne : a ≠ [])
    (h : ∀ rest, Stops rest → next (a ++ rest) = some (k?, rest)) : Reads next a k?.toList :=
  fun rest hrest => items?_append hne (h rest hrest)

/-- A character that is one item, or is passed over, whatever follows it. -/
theorem Reads.cons {c : Char} {k? : Option κ} (h : ∀ rest, next (c :: rest) = some (k?, rest))
    (ha : Reads next a ks) : Reads next (c :: a) (k?.toList ++ ks) := by
  intro rest hrest
  have hread : items? next ([c] ++ (a ++ rest)) = (items? next (a ++ rest)).map (k?.toList ++ ·) :=
    items?_append (by simp) (h (a ++ rest))
  rw [List.singleton_append] at hread
  rw [List.cons_append, hread, ha rest hrest, Option.map_map]
  congr 1
  funext more
  exact (List.append_assoc k?.toList ks more).symm

end Chunks

/-- The chunk is read as the tokens, before anything that stops it. -/
def Lexes (chunk : Text) (ks : List Token) : Prop :=
  ∀ rest, Stops rest → tokens? (chunk ++ rest) = (tokens? rest).map (ks ++ ·)

/-- Chunks are read one after the other. -/
theorem Lexes.append {a b : Text} {ks ls : List Token} (ha : Lexes a ks) (hb : Lexes b ls)
    (hstops : Stops b) : Lexes (a ++ b) (ks ++ ls) :=
  Reads.append (show Reads lexeme? a ks from ha) hb hstops

/-- A text is read as the tokens of its only chunk. -/
theorem Lexes.tokens?_eq {chunk : Text} {ks : List Token} (h : Lexes chunk ks) :
    tokens? chunk = some ks :=
  Reads.items?_eq (show Reads lexeme? chunk ks from h)

theorem lexes_nil : Lexes [] [] := show Reads lexeme? [] [] from reads_nil

theorem Lexes.space_cons {c : Char} (h : isSpace c = true) {t : Text} {ks : List Token}
    (ht : Lexes t ks) : Lexes (c :: t) ks :=
  Reads.cons (show ∀ rest, lexeme? (c :: rest) = some (none, rest) from fun _ => if_pos h) ht

/-- The chunk is the token, before anything that stops it. -/
def Spells (chunk : Text) (k : Token) : Prop :=
  ∀ rest, Stops rest → token? (chunk ++ rest) = some (k, rest)

/-- A space and an angle bracket begin no token. -/
theorem token?_eq_none {c : Char} (h : isSpace c = true ∨ c = '<') (t : Text) :
    token? (c :: t) = none := by
  simp only [isSpace, Bool.or_eq_true, beq_iff_eq] at h
  rcases h with (((rfl | rfl) | rfl) | rfl) | rfl <;> rfl

theorem Spells.exists_cons {chunk : Text} {k : Token} (h : Spells chunk k) :
    ∃ c t, chunk = c :: t ∧ isSpace c = false ∧ c ≠ '<' := by
  have hwhole := h [] (by simp [Stops])
  rw [List.append_nil] at hwhole
  cases chunk with
  | nil => cases hwhole
  | cons c t =>
    have hbegins : ¬ (isSpace c = true ∨ c = '<') := by
      intro hc
      rw [token?_eq_none hc] at hwhole
      cases hwhole
    simp only [not_or, Bool.not_eq_true] at hbegins
    exact ⟨c, t, rfl, hbegins⟩

theorem Spells.lexes {chunk : Text} {k : Token} (h : Spells chunk k) : Lexes chunk [k] := by
  obtain ⟨c, t, rfl, hspace, -⟩ := h.exists_cons
  suffices hreads : Reads lexeme? (c :: t) (some k).toList from hreads
  refine reads_of_next (by simp) fun rest hrest => ?_
  have htoken := h rest hrest
  rw [List.cons_append] at htoken ⊢
  rw [lexeme?, hspace, htoken]
  rfl

theorem not_space_nor_name_of_mem_marks {c : Char} (h : c ∈ marks) :
    isSpace c = false ∧ beginsName c = false := by
  have hall : marks.all (fun d => !isSpace d && !beginsName d) = true := by decide
  simpa using List.all_eq_true.mp hall c h

/-- A mark is a token, whatever follows it. -/
theorem token?_mark {c : Char} (h : c ∈ marks) (t : Text) :
    token? (c :: t) = some (.mark c, t) := by
  simp only [marks, List.mem_cons, List.not_mem_nil, or_false] at h
  rcases h with rfl | rfl | rfl | rfl | rfl | rfl | rfl | rfl <;> rfl

theorem Lexes.mark_cons {c : Char} (h : c ∈ marks) {t : Text} {ks : List Token}
    (ht : Lexes t ks) : Lexes (c :: t) (.mark c :: ks) := by
  have hlexeme : ∀ rest, lexeme? (c :: rest) = some (some (.mark c), rest) := by
    intro rest
    rw [lexeme?, (not_space_nor_name_of_mem_marks h).1, token?_mark h]
    rfl
  exact Reads.cons hlexeme ht

theorem spells_arrow : Spells "->".toList .arrow := fun _ _ => rfl

theorem lexes_arrow : Lexes "->".toList [.arrow] := spells_arrow.lexes

/-- Chunks with a space between them. -/
theorem Lexes.append_space {a b : Text} {ks ls : List Token} (ha : Lexes a ks) (hb : Lexes b ls) :
    Lexes (a ++ ' ' :: b) (ks ++ ls) :=
  ha.append (hb.space_cons rfl) (stops_cons (by decide) b)

/-- A text is read by its tokens. -/
theorem Lexes.readText?_eq {t : Text} {ks : List Token} (h : Lexes t ks) :
    readText? t = scan? statement? ks := by
  rw [readText?, h.tokens?_eq]
  rfl

/-! ## §4 Names and numerals -/

/-- A name is read up to the first character that cannot stand in it. -/
theorem token?_of_beginsName {c : Char} (h : beginsName c = true) (t : Text) :
    token? (c :: t) = some (nameToken ((c :: t).takeWhile inName), (c :: t).dropWhile inName) := by
  have hmark : ¬ marks.contains c = true := by
    intro hm
    rw [(not_space_nor_name_of_mem_marks (by simpa using hm)).2] at h
    exact absurd h (by decide)
  unfold token?
  split
  · contradiction
  · next heq =>
    obtain ⟨rfl, -⟩ := List.cons.inj heq
    exact absurd h (by decide)
  · next heq =>
    obtain ⟨rfl, -⟩ := List.cons.inj heq
    exact absurd h (by decide)
  · next heq =>
    obtain ⟨rfl, rfl⟩ := List.cons.inj heq
    rw [if_neg hmark, if_pos h]

/-- A name is one token. -/
theorem spells_name {c : Char} {t : Text} (hc : beginsName c = true)
    (ht : ∀ d ∈ t, inName d = true) : Spells (c :: t) (nameToken (c :: t)) := by
  have hall : ∀ d ∈ c :: t, inName d = true := by
    simpa [inName, hc] using ht
  intro rest hrest
  have hstop : rest.takeWhile inName = [] ∧ rest.dropWhile inName = rest := by
    cases rest with
    | nil => simp
    | cons d r => simp [(hrest d (by simp)).1]
  rw [List.cons_append, token?_of_beginsName hc, ← List.cons_append,
    List.takeWhile_append_of_pos hall, List.dropWhile_append_of_pos hall, hstop.1, hstop.2,
    List.append_nil]

/-- Digits end where the text stops. -/
theorem takeWhile_isDigit_append {ds rest : Text} (hds : ∀ c ∈ ds, c.isDigit = true)
    (hrest : ∀ c ∈ rest.head?, c.isDigit = false) :
    (ds ++ rest).takeWhile Char.isDigit = ds ∧ (ds ++ rest).dropWhile Char.isDigit = rest := by
  rw [List.takeWhile_append_of_pos hds, List.dropWhile_append_of_pos hds]
  cases rest with
  | nil => simp
  | cons c r => simp [hrest c (by simp)]

theorem Stops.isDigit {rest : Text} (h : Stops rest) : ∀ c ∈ rest.head?, c.isDigit = false := by
  intro c hc
  exact ((Bool.or_eq_false_iff).mp (h c hc).1).2

/-- An unsigned numeral is read whole. -/
theorem unsigned?_append {u : Text} (h : isUnsigned u = true) {rest : Text} (hrest : Stops rest) :
    unsigned? (u ++ rest) = some (u, rest) := by
  have hwhole : ∀ c ∈ u.takeWhile Char.isDigit, c.isDigit = true :=
    List.all_eq_true.mp List.all_takeWhile
  have hu : u = u.takeWhile Char.isDigit ++ u.dropWhile Char.isDigit :=
    List.takeWhile_append_dropWhile.symm
  unfold isUnsigned at h
  split at h
  · next hnil =>
    rw [hnil, List.append_nil] at hu
    rw [← hu] at hwhole
    obtain ⟨htake, hdrop⟩ := takeWhile_isDigit_append hwhole hrest.isDigit
    unfold unsigned?
    rw [htake, hdrop]
    split
    · exact absurd rfl (hrest '.' (by simp)).2
    · exact if_neg (by simpa using h)
  · next fraction hpoint =>
    simp only [Bool.and_eq_true, List.all_eq_true, Bool.not_eq_true'] at h
    rw [hpoint] at hu
    generalize u.takeWhile Char.isDigit = whole at hwhole hu h
    subst hu
    have hdigits : ∀ c ∈ ('.' :: (fraction ++ rest)).head?, c.isDigit = false := by simp
    obtain ⟨htake, hdrop⟩ := takeWhile_isDigit_append hwhole hdigits
    obtain ⟨htake', hdrop'⟩ := takeWhile_isDigit_append h.1 hrest.isDigit
    rw [List.append_assoc, List.cons_append]
    unfold unsigned?
    rw [htake, hdrop]
    show (if (whole.isEmpty && ((fraction ++ rest).takeWhile Char.isDigit).isEmpty) = true then none
      else some (whole ++ '.' :: (fraction ++ rest).takeWhile Char.isDigit, _)) = _
    rw [htake', hdrop', h.2]
    rfl
  · simp at h

/-- An unsigned numeral begins with a digit or a point. -/
theorem exists_cons_of_isUnsigned {u : Text} (h : isUnsigned u = true) :
    ∃ c v, u = c :: v ∧ (c.isDigit = true ∨ c = '.') := by
  cases u with
  | nil => simp [isUnsigned] at h
  | cons c v =>
    refine ⟨c, v, rfl, ?_⟩
    cases hc : c.isDigit with
    | true => exact .inl rfl
    | false =>
      unfold isUnsigned at h
      simp only [List.dropWhile_cons, hc, Bool.false_eq_true, if_false] at h
      split at h
      · contradiction
      · next heq => exact .inr (List.cons.inj heq).1
      · simp at h

/-- A character that begins a numeral. -/
def beginsNumeral (c : Char) : Bool := c.isDigit || c == '.' || c == '-'

/-- What begins a numeral is no space, no mark and begins no name. -/
theorem of_beginsNumeral {c : Char} (h : beginsNumeral c = true) :
    isSpace c = false ∧ marks.contains c = false ∧ beginsName c = false := by
  have hc : c.toNat < 128 := by
    simp only [beginsNumeral, Bool.or_eq_true, beq_iff_eq] at h
    rcases h with (h | rfl) | rfl
    · exact toNat_lt_of_isAlphanum (by simp [Char.isAlphanum, h])
    · decide
    · decide
  have hall : ∀ n < 128, beginsNumeral (Char.ofNat n) = true → isSpace (Char.ofNat n) = false ∧
      marks.contains (Char.ofNat n) = false ∧ beginsName (Char.ofNat n) = false := by
    decide +kernel
  have hpoint := hall c.toNat hc
  rw [Char.ofNat_toNat] at hpoint
  exact hpoint h

theorem token?_of_beginsNumeral {c : Char} {t : Text} (hc : beginsNumeral c = true)
    (ht : c = '-' → t.head? ≠ some '>') :
    token? (c :: t) = (numeral? (c :: t)).map fun s => (.id s.1, s.2) := by
  obtain ⟨-, hmark, hname⟩ := of_beginsNumeral hc
  unfold token?
  split
  · contradiction
  · next heq =>
    obtain ⟨rfl, -⟩ := List.cons.inj heq
    exact absurd hc (by decide)
  · next heq =>
    obtain ⟨rfl, rfl⟩ := List.cons.inj heq
    exact absurd rfl (ht rfl)
  · next heq =>
    obtain ⟨rfl, rfl⟩ := List.cons.inj heq
    rw [hmark, hname]
    rfl

/-- A numeral is one token. -/
theorem spells_numeral {t : Text} (h : isNumeral t = true) : Spells t (.id t) := by
  unfold isNumeral at h
  split at h
  · next u =>
    obtain ⟨d, v, rfl, hd⟩ := exists_cons_of_isUnsigned h
    intro rest hrest
    have hhead : ('-' = '-' → (d :: v ++ rest).head? ≠ some '>') := by
      rintro - heq
      obtain rfl : d = '>' := by simpa using heq
      exact absurd hd (by decide)
    have hnumeral : numeral? ('-' :: (d :: v ++ rest)) = some ('-' :: d :: v, rest) := by
      show (unsigned? (d :: v ++ rest)).map _ = _
      rw [unsigned?_append h hrest]
      rfl
    rw [List.cons_append, token?_of_beginsNumeral (by decide) hhead, hnumeral]
    rfl
  · next u hminus =>
    obtain ⟨d, v, rfl, hd⟩ := exists_cons_of_isUnsigned h
    have hbegins : beginsNumeral d = true := by
      rcases hd with hd | rfl
      · simp [beginsNumeral, hd]
      · decide
    have hne : d ≠ '-' := fun he => hminus v (by rw [he])
    intro rest hrest
    have hnumeral : numeral? (d :: (v ++ rest)) = some (d :: v, rest) := by
      rw [numeral?.eq_2 _ (by rintro w ⟨⟩; exact hne rfl)]
      exact unsigned?_append h hrest
    rw [List.cons_append, token?_of_beginsNumeral hbegins (fun he => absurd he hne), hnumeral]
    rfl

/-! ## §5 Label text -/

/-- What holds of the escaped form of each character, and of two texts
together, holds of an escaped line. -/
theorem escapeLine_induction {P : Text → Text → Prop} (hnil : P [] [])
    (happend : ∀ {a b t u}, P a t → P b u → P (a ++ b) (t ++ u))
    (hslash : P ['\\', '\\'] ['\\']) (hbreak : P ['\\', 'n'] ['\n'])
    (hchar : ∀ {c}, c ≠ '\\' → c ≠ '\n' → P [c] [c]) (t : Text) : P (escapeLine t) t := by
  induction t with
  | nil => exact hnil
  | cons c t ih =>
    have hfirst : P (if c = '\\' then ['\\', '\\'] else if c = '\n' then ['\\', 'n'] else [c]) [c] := by
      split
      · next hc => exact hc ▸ hslash
      · next hc =>
        split
        · next hc' => exact hc' ▸ hbreak
        · next hc' => exact hchar hc hc'
    rw [escapeLine, List.flatMap_cons]
    exact happend hfirst ih

/-- So it does of escaped lines, which have a break between each two. -/
theorem escapeLines_induction {P : Text → Text → Prop} (hnil : P [] [])
    (happend : ∀ {a b t u}, P a t → P b u → P (a ++ b) (t ++ u))
    (hslash : P ['\\', '\\'] ['\\']) (hbreak : P ['\\', 'n'] ['\n'])
    (hchar : ∀ {c}, c ≠ '\\' → c ≠ '\n' → P [c] [c]) :
    ∀ lines : List Text, P (escapeLines lines) (['\n'].intercalate lines)
  | [] => hnil
  | [t] => by
      rw [escapeLines, List.map_singleton, List.intercalate_singleton, List.intercalate_singleton]
      exact escapeLine_induction hnil happend hslash hbreak hchar t
  | t :: u :: lines => by
      have hfirst : P (escapeLine t) t := escapeLine_induction hnil happend hslash hbreak hchar t
      have hrest := escapeLines_induction hnil happend hslash hbreak hchar (u :: lines)
      have hcons : escapeLines (t :: u :: lines) =
          escapeLine t ++ ['\\', 'n'] ++ escapeLines (u :: lines) := by
        simp [escapeLines, List.intercalate_cons_cons]
      rw [hcons, List.intercalate_cons_cons]
      exact happend (happend hfirst hbreak) hrest

/-- The text comes back from a quoted string, whatever follows it there. -/
def Quotable (t : Text) : Prop :=
  ∀ more rest, closeQuote? (escapeQuotes false (t ++ more) ++ rest) =
    (closeQuote? (escapeQuotes false more ++ rest)).map fun s => (t ++ s.1, s.2)

theorem Quotable.append {a b : Text} (ha : Quotable a) (hb : Quotable b) : Quotable (a ++ b) := by
  intro more rest
  rw [List.append_assoc, ha, hb, Option.map_map]
  congr 1
  funext s
  simp

theorem quotable_nil : Quotable [] := by
  intro more rest
  simp

/-- A character of no meaning in a quoted string. -/
theorem closeQuote?_cons {c : Char} (hquote : c ≠ '"') (hslash : c ≠ '\\') (t : Text) :
    closeQuote? (c :: t) = (closeQuote? t).map fun s => (c :: s.1, s.2) :=
  closeQuote?.eq_5 _ _ hquote (fun _ he _ => hslash he) (fun _ he _ => hslash he)

/-- A character other than a backslash. -/
theorem quotable_singleton {c : Char} (h : c ≠ '\\') : Quotable [c] := by
  intro more rest
  by_cases hq : c = '"'
  · subst hq
    rfl
  · have hescape : escapeQuotes false ([c] ++ more) = c :: escapeQuotes false more := by
      simp [escapeQuotes, h, hq]
    rw [hescape, List.cons_append, closeQuote?_cons hq h]
    rfl

theorem quotable_break : Quotable ['\\', 'n'] := by
  intro more rest
  show closeQuote? ('\\' :: 'n' :: (escapeQuotes false more ++ rest)) = _
  rw [closeQuote?.eq_5 _ _ (by decide) (by simp) (by simp),
    closeQuote?.eq_5 _ _ (by decide) (by simp) (by simp), Option.map_map]
  rfl

/-- Escaped lines can be quoted: their backslashes stand in pairs. -/
theorem quotable_escapeLines (lines : List Text) : Quotable (escapeLines lines) :=
  escapeLines_induction (P := fun a _ => Quotable a) quotable_nil Quotable.append (fun _ _ => rfl)
    quotable_break (fun hc _ => quotable_singleton hc) lines

/-- The chunk is decoded as the text, whatever follows it. -/
def Decodes (chunk t : Text) : Prop :=
  ∀ more, unescape? (chunk ++ more) = (unescape? more).map (t ++ ·)

theorem Decodes.append {a b t u : Text} (ha : Decodes a t) (hb : Decodes b u) :
    Decodes (a ++ b) (t ++ u) := by
  intro more
  rw [List.append_assoc, ha, hb, Option.map_map]
  congr 1
  funext s
  exact (List.append_assoc t u s).symm

theorem decodes_nil : Decodes [] [] := by
  intro more
  simp

theorem decodes_singleton {c : Char} (h : c ≠ '\\') : Decodes [c] [c] := by
  intro more
  rw [List.singleton_append, unescape?.eq_4 _ _ (fun _ he _ => h he) (fun _ he _ => h he), if_neg h]
  rfl

/-- Escaped lines are decoded as the lines. -/
theorem decodes_escapeLines (lines : List Text) :
    Decodes (escapeLines lines) (['\n'].intercalate lines) :=
  escapeLines_induction decodes_nil Decodes.append (fun _ => rfl) (fun _ => rfl)
    (fun hc _ => decodes_singleton hc) lines

theorem unescape?_escapeLines (lines : List Text) :
    unescape? (escapeLines lines) = some (['\n'].intercalate lines) := by
  simpa [unescape?] using decodes_escapeLines lines []

theorem newline_not_mem_escapeLines (lines : List Text) : '\n' ∉ escapeLines lines :=
  escapeLines_induction (P := fun a _ => '\n' ∉ a) (by decide) (by simp +contextual) (by decide)
    (by decide) (fun _ hc => by simpa using Ne.symm hc) lines

/-- Escaped lines stay in one line. -/
theorem oneLine_escapeLines {lines : List Text} (h : ∀ line ∈ lines, OneLine line) :
    OneLine (escapeLines lines) := by
  have hmem : '\r' ∈ escapeLines lines → '\r' ∈ ['\n'].intercalate lines :=
    escapeLines_induction (P := fun a t => '\r' ∈ a → '\r' ∈ t) (by simp)
      (fun ha hb hm => by simpa using (List.mem_append.mp hm).imp ha hb) (by decide) (by decide)
      (fun _ _ hm => hm) lines
  refine ⟨newline_not_mem_escapeLines lines, fun hm => ?_⟩
  rcases mem_intercalate (hmem hm) with heq | ⟨line, hline, hc⟩
  · exact absurd heq (by decide)
  · exact (h line hline).2 hc

/-- A line of its own is escaped as a list of one line. -/
theorem escapeLine_eq (t : Text) : escapeLine t = escapeLines [t] := by
  rw [escapeLines, List.map_singleton, List.intercalate_singleton]

/-! ## §6 Quoting -/

/-- A text without backslashes can be quoted. -/
theorem quotable_of_not_mem : ∀ {t : Text}, '\\' ∉ t → Quotable t
  | [], _ => quotable_nil
  | c :: t, h => by
      have hc : c ≠ '\\' := fun hc => h (by simp [hc])
      exact (quotable_singleton hc).append (quotable_of_not_mem fun hm => h (by simp [hm]))

/-- A quoted string is one token: what is read up to its closing quote. -/
theorem spells_inQuotes {t u : Text}
    (h : ∀ rest, closeQuote? (escapeQuotes false t ++ '"' :: rest) = some (u, rest)) :
    Spells (inQuotes t) (.id u) := by
  intro rest _
  have htext : inQuotes t ++ rest = '"' :: (escapeQuotes false t ++ '"' :: rest) := by
    simp [inQuotes]
  rw [htext]
  show (closeQuote? (escapeQuotes false t ++ '"' :: rest)).map _ = _
  rw [h]
  rfl

theorem Quotable.closeQuote?_eq {t : Text} (h : Quotable t) (rest : Text) :
    closeQuote? (escapeQuotes false t ++ '"' :: rest) = some (t, rest) := by
  have hwhole := h [] ('"' :: rest)
  simpa [escapeQuotes, closeQuote?] using hwhole

/-- A name that the writer lets stand bare is no keyword. -/
theorem nameToken_of_not_mem_keywords {t : Text} (h : lower t ∉ keywords) : nameToken t = .id t := by
  have hnone : Keyword.ofName? t = none := by
    simp only [keywords, List.mem_cons, List.not_mem_nil, or_false, not_or] at h
    obtain ⟨hnode, hedge, hgraph, hdigraph, hsubgraph, hstrict⟩ := h
    simp only [Keyword.ofName?, hnode, hedge, hgraph, hdigraph, hsubgraph, hstrict, if_false]
  rw [nameToken, hnone]

/-- The names of the writer are names. -/
theorem spells_of_isName {t : Text} (h : isName t = true) : Spells t (nameToken t) := by
  cases t with
  | nil => simp [isName] at h
  | cons c t =>
    simp only [isName, Bool.and_eq_true, List.all_eq_true] at h
    refine spells_name ?_ fun d hd => ?_
    · have hc := h.1
      simp only [isNameStart, Bool.or_eq_true] at hc
      rcases hc with hc | hc <;> simp [beginsName, hc]
    · have hd := h.2 d hd
      simp only [isNameChar, Char.isAlphanum, Bool.or_eq_true] at hd
      rcases hd with (hd | hd) | hd <;> simp [inName, beginsName, hd]

theorem lexes_of_isName {t : Text} (h : isName t = true) : Lexes t [nameToken t] :=
  (spells_of_isName h).lexes

/-- A name of the writer that is no keyword. -/
def IsPlain (t : Text) : Prop := isName t = true ∧ lower t ∉ keywords

instance (t : Text) : Decidable (IsPlain t) := inferInstanceAs (Decidable (_ ∧ _))

theorem IsPlain.spells {t : Text} (h : IsPlain t) : Spells t (.id t) := by
  rw [← nameToken_of_not_mem_keywords h.2]
  exact spells_of_isName h.1

theorem IsPlain.lexes {t : Text} (h : IsPlain t) : Lexes t [.id t] := h.spells.lexes

/-- A name or numeral that stands without quotes. -/
def BareToken (t : Text) : Prop := (isName t = true ∨ isNumeral t = true) ∧ lower t ∉ keywords

theorem BareToken.spells {t : Text} (h : BareToken t) : Spells t (.id t) := by
  rcases h.1 with hname | hnumeral
  · exact IsPlain.spells ⟨hname, h.2⟩
  · exact spells_numeral hnumeral

/-- Without a line feed at its end, what may stand bare is a name or a
numeral. -/
theorem bareToken_of_isBare {t : Text} (hline : '\n' ∉ t) (h : isBare t = true) : BareToken t := by
  have hdrop : dropFinalNewline t = t := if_neg fun hlast => hline (List.mem_of_getLast? hlast)
  simpa [isBare, BareToken, hdrop] using h

/-- What is written for a label is one identifier, the label. -/
theorem spells_label {t : Text} (hline : '\n' ∉ t) (h : Quotable t) : Spells (label t) (.id t) := by
  unfold label
  split
  · next hbare => exact (bareToken_of_isBare hline hbare).spells
  · exact spells_inQuotes h.closeQuote?_eq

theorem lexes_label {t : Text} (hline : '\n' ∉ t) (h : Quotable t) : Lexes (label t) [.id t] :=
  (spells_label hline h).lexes

/-- Only backslashes are added before quotes. -/
theorem mem_of_mem_escapeQuotes {c : Char} : ∀ {odd : Bool} {t : Text},
    c ∈ escapeQuotes odd t → c ∈ '\\' :: t
  | _, [], h => by simp [escapeQuotes] at h
  | odd, d :: t, h => by
      have hrest : ∀ o, c ∈ escapeQuotes o t → c ∈ '\\' :: d :: t := by
        intro o hm
        rcases List.mem_cons.mp (mem_of_mem_escapeQuotes hm) with rfl | hm <;> simp [*]
      unfold escapeQuotes at h
      split_ifs at h <;> grind

/-- A label that stays in its line is written in one line. -/
theorem oneLine_label {t : Text} (h : OneLine t) : OneLine (label t) := by
  have hmarks : OneLine (['"', '\\'] ++ t) := oneLine_append.mpr ⟨by decide, h⟩
  refine hmarks.of_subset fun c hc => ?_
  unfold label inQuotes at hc
  split at hc
  · exact List.mem_cons_of_mem _ (List.mem_cons_of_mem _ hc)
  · rcases List.mem_append.mp hc with hc | hc
    · rcases List.mem_cons.mp hc with hc | hc
      · exact List.mem_cons.mpr (.inl hc)
      · exact List.mem_cons_of_mem _ (mem_of_mem_escapeQuotes hc)
    · exact List.mem_cons.mpr (.inl (List.mem_singleton.mp hc))

/-- Without a colon, an end of an edge is written as the node is. -/
theorem endpoint_eq_identifier {t : Text} (h : ':' ∉ t) : endpoint t = identifier t := by
  rw [endpoint, cutAt_eq_none h]

section IsName

variable {t : Text} (h : IsName t)
include h

/-- A name of a diagram is no markup. -/
theorem identifier_eq_label : identifier t = label t := by
  have hdrop : dropFinalNewline t = t :=
    if_neg fun hlast => h.oneLine.1 (List.mem_of_getLast? hlast)
  have hmarkup : ¬ isMarkup t = true := by
    simp only [isMarkup, hdrop, Bool.and_eq_true, decide_eq_true_eq]
    rintro ⟨⟨hhead, -⟩, -⟩
    exact h.not_mem (by decide) (List.mem_of_mem_head? hhead)
  exact if_neg hmarkup

/-- A name has no colon, so as an end of an edge it has no anchor. -/
theorem endpoint_eq_label : endpoint t = label t := by
  rw [endpoint_eq_identifier (h.not_mem (by decide))]
  exact identifier_eq_label h

/-- A name is written as one identifier, the name. -/
theorem lexes_label_of_isName : Lexes (label t) [.id t] :=
  lexes_label h.oneLine.1 (quotable_of_not_mem (h.not_mem (by decide)))

end IsName

end DiagramGraph.Dot
