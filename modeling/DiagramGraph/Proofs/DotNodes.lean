/-
DiagramGraph.Proofs.DotNodes — which nodes a DOT text declares, and which
ones its edges join.

The writer puts an identifier in quotes without escaping it, and cuts an
end of an edge at its colons. So what a DOT text says about nodes depends
on the identifiers:

  §1 Names       — a node is named by a text or by markup. Markup ends at
                   the bracket that matches its first one; in a text a
                   backslash before a line feed continues the line.
  §2 Sayings     — the nodes that a DOT text declares and the edges
                   between them, in order. A port after a node belongs to
                   the edge and not to the name.
  §3 Quoting     — what is read of an identifier in quotes.
  §4 Identifiers — `named`: what is read of an identifier that is
                   `Readable`. Identifiers that are also `Exact` differ
                   in what is read of them (`named_inj`).
  §5 Lines       — every statement is read as what it says.
  §6 Documents   — `write_joins_declared`: edges join the nodes that are
                   declared for their ends.
-/
import DiagramGraph.Proofs.DotReader
import DiagramGraph.Proofs.PrinterDomain
import Mathlib.Data.List.Forall2
import Mathlib.Data.List.Nodup
import Mathlib.Data.List.ReduceOption
import Mathlib.Tactic.MkIffOfInductiveProp

namespace DiagramGraph.Dot

open Text Json Document

/-! ## §1 Names -/

/-- What names a node. -/
inductive Name
  | text (t : Text)
  | markup (t : Text)
  deriving DecidableEq, Repr

/-- The text with something else `instead` of each backslash of no pair and
the `special` character after it; `odd` says whether such a backslash
stands before the text. -/
def replaceEscape (special : Char) (instead : Text) : Bool → Text → Text
  | odd, [] => if odd then ['\\'] else []
  | false, c :: t =>
    if c = '\\' then replaceEscape special instead true t
    else c :: replaceEscape special instead false t
  | true, c :: t =>
    if c = '\\' then '\\' :: '\\' :: replaceEscape special instead false t
    else if c = special then instead ++ replaceEscape special instead false t
    else '\\' :: c :: replaceEscape special instead false t

/-- The contents of a quoted string without the line feeds that continue
a line. -/
def spliced (t : Text) : Text := replaceEscape '\n' [] false t

/-- The contents of markup inside of which `depth` brackets are open, and
the rest after the bracket that ends it. -/
def closeMarkup? : Nat → Text → Option (Text × Text)
  | _, [] => none
  | depth, c :: t =>
    if c = '>' ∧ depth = 0 then some ([], t)
    else
      (closeMarkup? (if c = '<' then depth + 1 else if c = '>' then depth - 1 else depth) t).map
        fun s => (c :: s.1, s.2)

/-- The tokens of a text with markup. -/
inductive Atom
  | name (n : Name)
  | keyword (k : Keyword)
  | arrow
  | mark (c : Char)
  deriving DecidableEq, Repr

/-- An identifier is the text that is left when lines are continued. -/
def Atom.ofToken : Token → Atom
  | .id t => .name (.text (spliced t))
  | .keyword k => .keyword k
  | .arrow => .arrow
  | .mark c => .mark c

/-- The space, the markup or the token at the start of the text, and the
rest. -/
def atom? : Text → Option (Option Atom × Text)
  | [] => none
  | c :: t =>
    if isSpace c then some (none, t)
    else if c = '<' then (closeMarkup? 0 t).map fun s => (some (.name (.markup s.1)), s.2)
    else (token? (c :: t)).map fun s => (some (.ofToken s.1), s.2)

/-! ## §2 Sayings -/

/-- What a statement says about nodes. -/
inductive Saying
  | node (n : Name)
  | edge (source target : Name)
  deriving DecidableEq, Repr

/-- What follows a port, of which a compass point may be part. -/
def afterPort : List Atom → List Atom
  | .mark ':' :: .name _ :: .mark ':' :: .name _ :: rest => rest
  | .mark ':' :: .name _ :: rest => rest
  | rest => rest

/-- The node at the start, and what follows it and its port. -/
def nodeId? : List Atom → Option (Name × List Atom)
  | .name n :: rest => some (n, afterPort rest)
  | _ => none

/-- What follows a list of attributes. -/
def afterList : List Atom → List Atom
  | .mark '[' :: rest => (rest.dropWhile (· ≠ .mark ']')).drop 1
  | rest => rest

/-- What the statement at the start says about nodes, if anything, and
the rest. -/
def saying? : List Atom → Option (Option Saying × List Atom)
  | .keyword .digraph :: .name _ :: .mark '\x7b' :: rest => some (none, rest)
  | .mark '\x7d' :: rest => some (none, rest)
  | .keyword .node :: rest => some (none, afterList rest)
  | .name _ :: .mark '=' :: .name _ :: rest => some (none, rest)
  | atoms =>
    match nodeId? atoms with
    | none => none
    | some (source, .arrow :: more) =>
      (nodeId? more).map fun s => (some (.edge source s.1), afterList s.2)
    | some (n, more) => some (some (.node n), afterList more)

/-- What a DOT text says about nodes, in order. -/
def sayings? (t : Text) : Option (List Saying) := (items? atom? t).bind (items? saying?)

theorem Spells.reads {chunk : Text} {k : Token} (h : Spells chunk k) :
    Reads atom? chunk [.ofToken k] := by
  obtain ⟨c, t, rfl, hspace, hangle⟩ := h.exists_cons
  suffices hreads : Reads atom? (c :: t) (some (Atom.ofToken k)).toList from hreads
  refine reads_of_next (by simp) fun rest hrest => ?_
  have htoken := h rest hrest
  rw [List.cons_append] at htoken ⊢
  rw [atom?, hspace, htoken, if_neg hangle]
  rfl

theorem reads_space_cons {c : Char} (h : isSpace c = true) {t : Text} {ks : List Atom}
    (ht : Reads atom? t ks) : Reads atom? (c :: t) ks :=
  Reads.cons (show ∀ rest, atom? (c :: rest) = some (none, rest) from fun _ => if_pos h) ht

/-- Chunks with a space between them. -/
theorem reads_append_space {a b : Text} {ks ls : List Atom} (ha : Reads atom? a ks)
    (hb : Reads atom? b ls) : Reads atom? (a ++ ' ' :: b) (ks ++ ls) :=
  ha.append (reads_space_cons rfl hb) (stops_cons (by decide) b)

theorem reads_mark_cons {c : Char} (h : c ∈ marks) {t : Text} {ks : List Atom}
    (ht : Reads atom? t ks) : Reads atom? (c :: t) (.mark c :: ks) := by
  have hangle : c ≠ '<' := by
    rintro rfl
    exact absurd h (by decide)
  have hatom : ∀ rest, atom? (c :: rest) = some (some (.mark c), rest) := by
    intro rest
    rw [atom?, (not_space_nor_name_of_mem_marks h).1, token?_mark h, if_neg hangle]
    rfl
  exact Reads.cons hatom ht

/-! ## §3 Quoting -/

/-- Does the text end in a backslash of no pair? -/
def endsOdd : Bool → Text → Bool
  | odd, [] => odd
  | odd, c :: t => endsOdd (c = '\\' && !odd) t

/-- A backslash changes whether the run is odd. -/
theorem endsOdd_slash (odd : Bool) (t : Text) : endsOdd odd ('\\' :: t) = endsOdd (!odd) t := by
  simp [endsOdd]

/-- Any other character ends the run. -/
theorem endsOdd_cons {c : Char} (h : c ≠ '\\') (odd : Bool) (t : Text) :
    endsOdd odd (c :: t) = endsOdd false t := by
  simp [endsOdd, h]

/-- The text without the backslash of each quote that has one. -/
def dequoted (odd : Bool) (t : Text) : Text := replaceEscape '"' ['"'] odd t

/-- A text in quotes is read whole if it does not escape the last quote.
After a backslash of no pair, that backslash is read with the text. -/
theorem closeQuote?_escapeQuotes (rest : Text) : ∀ {t : Text},
    (endsOdd false t = false →
      closeQuote? (escapeQuotes false t ++ '"' :: rest) = some (dequoted false t, rest)) ∧
    (endsOdd true t = false →
      closeQuote? ('\\' :: (escapeQuotes true t ++ '"' :: rest)) = some (dequoted true t, rest)) := by
  intro t
  induction t with
  | nil => exact ⟨fun _ => rfl, fun h => absurd h (by decide)⟩
  | cons c t ih =>
    obtain ⟨heven, hodd⟩ := ih
    by_cases hslash : c = '\\'
    · subst hslash
      refine ⟨fun h => hodd h, fun h => ?_⟩
      show (closeQuote? (escapeQuotes false t ++ '"' :: rest)).map _ = _
      rw [heven h]
      rfl
    rw [endsOdd_cons hslash, endsOdd_cons hslash]
    by_cases hquote : c = '"'
    · subst hquote
      constructor
      · intro h
        show (closeQuote? (escapeQuotes false t ++ '"' :: rest)).map _ = _
        rw [heven h]
        rfl
      · intro h
        show (closeQuote? (escapeQuotes false t ++ '"' :: rest)).map _ = _
        rw [heven h]
        rfl
    · have hescape : ∀ odd, escapeQuotes odd (c :: t) = c :: escapeQuotes false t := by
        intro odd
        simp [escapeQuotes, hslash, hquote]
      rw [hescape, hescape, List.cons_append]
      constructor
      · intro h
        rw [closeQuote?_cons hquote hslash, heven h]
        simp [dequoted, replaceEscape, hslash]
      · intro h
        rw [closeQuote?.eq_5 _ _ (by decide) (by simp [hquote]) (by simp [hslash]),
          closeQuote?_cons hquote hslash, heven h]
        simp [dequoted, replaceEscape, hslash, hquote]

/-! ## §4 Identifiers -/

/-- Do the angle brackets match, with `depth` of them open before? -/
def matched : Nat → Text → Bool
  | depth, [] => depth == 0
  | depth, c :: t =>
    if c = '<' then matched (depth + 1) t
    else if c = '>' then depth != 0 && matched (depth - 1) t
    else matched depth t

/-- What stands between the brackets of markup. -/
def inner (t : Text) : Text := (dropFinalNewline t).tail.dropLast

/-- What is read of an identifier. -/
def named (t : Text) : Name :=
  if isMarkup t then .markup (inner t)
  else .text (spliced (if isBare t then dropFinalNewline t else dequoted false t))

/-- An identifier that is written as one name. -/
@[mk_iff] structure Readable (t : Text) : Prop where
  markup : isMarkup t = true → matched 0 (inner t) = true
  bare : isBare t = true → lower (dropFinalNewline t) ∉ keywords
  quoted : isMarkup t = false → isBare t = false → endsOdd false t = false

instance (t : Text) : Decidable (Readable t) :=
  letI : Decidable (lower (dropFinalNewline t) ∈ keywords) :=
    decidable_of_iff (keywords.contains (lower (dropFinalNewline t)) = true) List.contains_iff_mem
  decidable_of_iff' _ (readable_iff t)

/-- Markup ends at the bracket that matches its first one. -/
theorem closeMarkup?_append (rest : Text) : ∀ {t : Text} {depth : Nat}, matched depth t = true →
    closeMarkup? depth (t ++ '>' :: rest) = some (t, rest) := by
  intro t
  induction t with
  | nil =>
    intro depth h
    obtain rfl : depth = 0 := by simpa [matched] using h
    rfl
  | cons c t ih =>
    intro depth h
    unfold matched at h
    rw [List.cons_append, closeMarkup?]
    split_ifs at h with hopen hclose
    · rw [if_neg (by simp [hopen]), if_pos hopen, ih h]
      rfl
    · simp only [Bool.and_eq_true, bne_iff_ne, ne_eq] at h
      rw [if_neg (by simp [h.1]), if_neg hopen, if_pos hclose, ih h.2]
      rfl
    · rw [if_neg (by simp [hclose]), if_neg hopen, if_neg hclose, ih h]
      rfl

theorem reads_markup {t : Text} (h : matched 0 t = true) :
    Reads atom? ('<' :: (t ++ ['>'])) [.name (.markup t)] := by
  suffices hreads :
    Reads atom? ('<' :: (t ++ ['>'])) (some (Atom.name (.markup t))).toList from hreads
  refine reads_of_next (by simp) fun rest _ => ?_
  have hatom : atom? ('<' :: (t ++ '>' :: rest)) =
      (closeMarkup? 0 (t ++ '>' :: rest)).map fun s => (some (.name (.markup s.1)), s.2) := rfl
  rw [List.cons_append, List.append_assoc, List.singleton_append, hatom, closeMarkup?_append rest h]
  rfl

/-- Only a line feed at the end is dropped. -/
theorem dropFinalNewline_cases (t : Text) :
    t = dropFinalNewline t ∨ t = dropFinalNewline t ++ ['\n'] := by
  unfold dropFinalNewline
  split
  · next hlast => exact .inr (List.dropLast_append_getLast? _ hlast).symm
  · exact .inl rfl

/-- A line feed after a name is a space. -/
theorem reads_of_dropFinalNewline {t : Text} {ks : List Atom}
    (h : Reads atom? (dropFinalNewline t) ks) : Reads atom? t ks := by
  rcases dropFinalNewline_cases t with heq | heq
  · rw [heq]
    exact h
  · rw [heq]
    have hspace := h.append (reads_space_cons (c := '\n') rfl reads_nil) (stops_cons (by decide) [])
    rwa [List.append_nil] at hspace

theorem eq_inner_of_isMarkup {t : Text} (h : isMarkup t = true) :
    dropFinalNewline t = '<' :: (inner t ++ ['>']) := by
  simp only [isMarkup, Bool.and_eq_true, decide_eq_true_eq] at h
  obtain ⟨⟨hhead, hlast⟩, hlength⟩ := h
  unfold inner
  generalize dropFinalNewline t = u at hhead hlast hlength
  cases u with
  | nil => cases hhead
  | cons c u =>
    obtain rfl : c = '<' := by simpa using hhead
    have hne : u ≠ [] := by
      rintro rfl
      simp at hlength
    rw [List.getLast?_cons_of_ne_nil hne] at hlast
    rw [List.tail_cons, List.dropLast_append_getLast? _ hlast]

/-- A name or numeral that the writer lets stand bare is one token, unless
it is a keyword before a line feed. -/
theorem spells_of_isBare {t : Text} (hbare : isBare t = true)
    (hkeyword : lower (dropFinalNewline t) ∉ keywords) :
    Spells (dropFinalNewline t) (.id (dropFinalNewline t)) := by
  simp only [isBare, Bool.and_eq_true, Bool.or_eq_true] at hbare
  exact BareToken.spells ⟨hbare.1, hkeyword⟩

/-- A readable identifier is written as its name. -/
theorem reads_identifier {t : Text} (h : Readable t) :
    Reads atom? (identifier t) [.name (named t)] := by
  unfold identifier label named
  cases hmarkup : isMarkup t with
  | true =>
    rw [if_pos rfl, if_pos rfl]
    refine reads_of_dropFinalNewline ?_
    rw [eq_inner_of_isMarkup hmarkup]
    exact reads_markup (h.markup hmarkup)
  | false =>
    cases hbare : isBare t with
    | true => exact reads_of_dropFinalNewline (spells_of_isBare hbare (h.bare hbare)).reads
    | false =>
      have hclose := fun rest => (closeQuote?_escapeQuotes rest).1 (h.quoted hmarkup hbare)
      exact (spells_inQuotes hclose).reads

/-- Does no backslash of no pair stand before a quote, a line feed or the
end? -/
def paired : Bool → Text → Bool
  | odd, [] => !odd
  | odd, c :: t => !(odd && (c = '"' || c = '\n')) && paired (c = '\\' && !odd) t

/-- An identifier that is read as it is. -/
@[mk_iff] structure Exact (t : Text) : Prop where
  final : isMarkup t = true ∨ isBare t = true → dropFinalNewline t = t
  paired : isMarkup t = false → paired false t = true

instance (t : Text) : Decidable (Exact t) := decidable_of_iff' _ (exact_iff t)

/-- Where backslashes stand in pairs, there is nothing to replace. -/
theorem replaceEscape_eq_self {special : Char} (hspecial : special = '"' ∨ special = '\n')
    (instead : Text) : ∀ {t : Text} {odd : Bool}, paired odd t = true →
      replaceEscape special instead odd t = if odd then '\\' :: t else t := by
  intro t
  induction t with
  | nil =>
    intro odd h
    cases odd with
    | false => rfl
    | true => cases h
  | cons c t ih =>
    intro odd h
    simp only [paired, Bool.and_eq_true, Bool.not_eq_true'] at h
    obtain ⟨hescape, hrest⟩ := h
    have hrest := ih hrest
    by_cases hslash : c = '\\'
    · subst hslash
      cases odd with
      | false => exact hrest
      | true => exact congrArg (fun u => '\\' :: '\\' :: u) hrest
    · have heven : replaceEscape special instead false t = t := by simpa [hslash] using hrest
      cases odd with
      | false => simp [replaceEscape, hslash, heven]
      | true =>
        have hother : c ≠ special := by
          rintro rfl
          rcases hspecial with rfl | rfl <;> exact absurd hescape (by decide)
        simp [replaceEscape, hslash, hother, heven]

theorem named_of_exact {t : Text} (h : Exact t) (hmarkup : isMarkup t = false) :
    named t = .text t := by
  have hdequoted : dequoted false t = t :=
    replaceEscape_eq_self (.inl rfl) ['"'] (h.paired hmarkup)
  have hspliced : spliced t = t := replaceEscape_eq_self (.inr rfl) [] (h.paired hmarkup)
  unfold named
  rw [hmarkup, if_neg (by decide)]
  split
  · next hbare => rw [h.final (.inr hbare), hspliced]
  · rw [hdequoted, hspliced]

/-- Different identifiers that are read as they are have different names. -/
theorem named_inj {s t : Text} (hs : Exact s) (ht : Exact t) (h : named s = named t) : s = t := by
  cases hsm : isMarkup s with
  | true =>
    have hnamed : named s = .markup (inner s) := if_pos hsm
    cases htm : isMarkup t with
    | true =>
      rw [hnamed, show named t = .markup (inner t) from if_pos htm] at h
      calc s = dropFinalNewline s := (hs.final (.inl hsm)).symm
        _ = '<' :: (inner s ++ ['>']) := eq_inner_of_isMarkup hsm
        _ = '<' :: (inner t ++ ['>']) := by rw [Name.markup.inj h]
        _ = dropFinalNewline t := (eq_inner_of_isMarkup htm).symm
        _ = t := ht.final (.inl htm)
    | false =>
      rw [hnamed, named_of_exact ht htm] at h
      cases h
  | false =>
    rw [named_of_exact hs hsm] at h
    cases htm : isMarkup t with
    | true =>
      rw [show named t = .markup (inner t) from if_pos htm] at h
      cases h
    | false =>
      rw [named_of_exact ht htm] at h
      exact Name.text.inj h

/-! ## §5 Ends of edges -/

/-- The node of an end: what stands before its first colon. -/
def nodePart (t : Text) : Text := t.takeWhile (· != ':')

/-- An end of an edge of readable parts: a node, and perhaps a port that
may have a compass point. -/
inductive ReadableEnd : Text → Prop
  | node {n : Text} (hn : Readable n) (hnode : ':' ∉ n) : ReadableEnd n
  | anchor {n a : Text} (hn : Readable n) (hnode : ':' ∉ n) (ha : Readable a) (hanchor : ':' ∉ a) :
    ReadableEnd (n ++ ':' :: a)
  | compass {n a c : Text} (hn : Readable n) (hnode : ':' ∉ n) (ha : Readable a)
    (hanchor : ':' ∉ a) (hc : IsPlain c) : ReadableEnd (n ++ ':' :: (a ++ ':' :: c))

/-- The atoms of a port. -/
inductive IsPort : List Atom → Prop
  | none : IsPort []
  | anchor (a : Name) : IsPort [.mark ':', .name a]
  | compass (a c : Name) : IsPort [.mark ':', .name a, .mark ':', .name c]

theorem nodePart_append {n : Text} (h : ':' ∉ n) (t : Text) : nodePart (n ++ ':' :: t) = n := by
  have hall : ∀ c ∈ n, (c != ':') = true := fun c hc => bne_iff_ne.mpr fun hcm => h (hcm ▸ hc)
  rw [nodePart, List.takeWhile_append_of_pos hall]
  simp

theorem nodePart_eq_self {t : Text} (h : ':' ∉ t) : nodePart t = t :=
  List.takeWhile_eq_self_iff.mpr fun _ hc => bne_iff_ne.mpr fun hcm => h (hcm ▸ hc)

/-- An end of an edge is read as its node and a port. -/
theorem exists_reads_endpoint {t : Text} (h : ReadableEnd t) :
    ∃ port, Reads atom? (endpoint t) (.name (named (nodePart t)) :: port) ∧ IsPort port := by
  cases h with
  | node hn hnode =>
    rw [nodePart_eq_self hnode, endpoint_eq_identifier hnode]
    exact ⟨[], reads_identifier hn, .none⟩
  | @anchor n a hn hnode ha hanchor =>
    rw [nodePart_append hnode]
    cases a with
    | nil =>
      have hend : endpoint (n ++ [':']) = identifier n := by
        rw [endpoint, cutAt_append hnode]
      rw [hend]
      exact ⟨[], reads_identifier hn, .none⟩
    | cons d a =>
      have hend : endpoint (n ++ ':' :: d :: a) = identifier n ++ ':' :: identifier (d :: a) := by
        rw [endpoint, cutAt_append hnode]
        simp only [cutAt_eq_none hanchor]
      rw [hend]
      exact ⟨[.mark ':', .name (named (d :: a))], (reads_identifier hn).append
        (reads_mark_cons (by decide) (reads_identifier ha)) (stops_cons (by decide) _), .anchor _⟩
  | @compass n a c hn hnode ha hanchor hc =>
    rw [nodePart_append hnode]
    have hend : endpoint (n ++ ':' :: (a ++ ':' :: c)) =
        identifier n ++ ':' :: (identifier a ++ ':' :: c) := by
      obtain ⟨d, u, rfl⟩ : ∃ d u, c = d :: u := by
        cases c with
        | nil => exact absurd hc (by decide)
        | cons d u => exact ⟨d, u, rfl⟩
      rw [endpoint, cutAt_append hnode]
      split
      · next heq => simp at heq
      · next heq => simp at heq
      · next heq =>
        cases heq
        rw [cutAt_append hanchor]
        simp
    rw [hend]
    have hport : Reads atom? (identifier a ++ ':' :: c)
        [.name (named a), .mark ':', .name (.text (spliced c))] :=
      (reads_identifier ha).append (reads_mark_cons (by decide) hc.spells.reads)
        (stops_cons (by decide) _)
    exact ⟨_, (reads_identifier hn).append (reads_mark_cons (by decide) hport)
      (stops_cons (by decide) _), .compass _ _⟩

/-- The characters of a name. -/
def Name.chars : Name → Text
  | .text t => t
  | .markup t => t

/-- Only backslashes and special characters come or go. -/
theorem mem_replaceEscape_iff {c special : Char} {instead : Text} (hslash : c ≠ '\\')
    (hspecial : c ≠ special) (hinstead : c ∉ instead) : ∀ {t : Text} {odd : Bool},
      c ∈ replaceEscape special instead odd t ↔ c ∈ t := by
  intro t
  induction t with
  | nil =>
    intro odd
    cases odd <;> simp [replaceEscape, hslash]
  | cons d t ih =>
    intro odd
    cases odd with
    | false =>
      unfold replaceEscape
      split
      · next hd => rw [ih, List.mem_cons, or_iff_right (hd ▸ hslash)]
      · rw [List.mem_cons, List.mem_cons, ih]
    | true =>
      unfold replaceEscape
      split_ifs with hd hd'
      · simp [ih, hslash, hd]
      · simp [ih, hinstead, hd' ▸ hspecial]
      · simp [ih, hslash]

theorem mem_dropFinalNewline_iff {c : Char} (h : c ≠ '\n') (t : Text) :
    c ∈ dropFinalNewline t ↔ c ∈ t := by
  rcases dropFinalNewline_cases t with heq | heq
  · rw [← heq]
  · nth_rewrite 2 [heq]
    simp [h]

/-- A colon of the identifier is part of its name. -/
theorem colon_mem_named_iff (t : Text) : ':' ∈ (named t).chars ↔ ':' ∈ t := by
  have hdrop := mem_dropFinalNewline_iff (c := ':') (by decide) t
  have hspliced (u : Text) : ':' ∈ spliced u ↔ ':' ∈ u :=
    mem_replaceEscape_iff (by decide) (by decide) (by decide)
  unfold named
  split_ifs with hmarkup hbare
  · rw [← hdrop, eq_inner_of_isMarkup hmarkup]
    simp [Name.chars]
  · rw [Name.chars, hspliced, hdrop]
  · rw [Name.chars, hspliced]
    exact mem_replaceEscape_iff (by decide) (by decide) (by decide)

/-- An end names the node that is declared for it unless it has a colon. -/
theorem named_nodePart_iff (t : Text) : named (nodePart t) = named t ↔ ':' ∉ t := by
  constructor
  · intro h
    rw [← colon_mem_named_iff, ← h, colon_mem_named_iff]
    intro hmem
    exact absurd (List.mem_takeWhile_imp hmem) (by decide)
  · intro h
    rw [nodePart_eq_self h]

/-! ## §6 Lines -/

/-- The line is read as saying so about nodes, whatever follows it. -/
def Says (line : Text) (x : Option Saying) : Prop :=
  ∃ ks, Reads atom? line ks ∧ ∀ more, saying? (ks ++ more) = some (x, more)

/-- The chunk is read as atoms inside of a list. -/
def ReadsInList (chunk : Text) : Prop := ∃ ks, Reads atom? chunk ks ∧ Atom.mark ']' ∉ ks

theorem readsInList_attribute {name chunk value : Text} (hname : IsPlain name)
    (hvalue : Spells chunk (.id value)) : ReadsInList (name ++ '=' :: chunk) := by
  refine ⟨[.ofToken (.id name), .mark '=', .ofToken (.id value)], ?_, by simp [Atom.ofToken]⟩
  exact hname.spells.reads.append (reads_mark_cons (by decide) hvalue.reads)
    (stops_cons (by decide) chunk)

/-- A list of attributes is read up to its bracket. -/
theorem exists_reads_list {chunks : List Text} (h : ∀ chunk ∈ chunks, ReadsInList chunk) :
    ∃ ks, Reads atom? ([' '].intercalate chunks ++ [']']) (ks ++ [.mark ']']) ∧
      Atom.mark ']' ∉ ks := by
  induction chunks with
  | nil => exact ⟨[], reads_mark_cons (by decide) reads_nil, by simp⟩
  | cons chunk chunks ih =>
    obtain ⟨ks, hks, hinside⟩ := h chunk (by simp)
    obtain ⟨ls, hls, hinside'⟩ := ih fun next hnext => h next (List.mem_cons_of_mem _ hnext)
    refine ⟨ks ++ ls, ?_, by simp [hinside, hinside']⟩
    rw [List.append_assoc]
    cases chunks with
    | nil =>
      rw [List.intercalate_singleton]
      exact hks.append hls (stops_cons (by decide) [])
    | cons next chunks =>
      rw [List.intercalate_cons_cons, List.append_assoc, List.append_assoc]
      exact reads_append_space hks hls

/-- The attributes of a statement, with the lines of a label if it has
one, are passed over. -/
theorem exists_reads_attributeList (lines? : Option (List Text)) {attributes : List (Text × Text)}
    (h : ∀ a ∈ attributes, IsPlain a.1 ∧ IsPlain a.2) :
    ∃ ks, Reads atom? (attributeList (lines?.map escapeLines) attributes) (.mark '[' :: ks) ∧
      ∀ more, afterList (.mark '[' :: ks ++ more) = more := by
  have hwritten :
      ∀ chunk ∈ ((lines?.map escapeLines).map (fun l => "label=".toList ++ label l)).toList ++
        attributes.map (fun a => a.1 ++ '=' :: a.2), ReadsInList chunk := by
    intro chunk hchunk
    rcases List.mem_append.mp hchunk with hchunk | hchunk
    · obtain ⟨t, ht, rfl⟩ := Option.map_eq_some_iff.mp (Option.mem_toList.mp hchunk)
      obtain ⟨lines, -, rfl⟩ := Option.map_eq_some_iff.mp ht
      have hname : IsPlain "label".toList := by decide
      exact readsInList_attribute hname
        (spells_label (newline_not_mem_escapeLines lines) (quotable_escapeLines lines))
    · obtain ⟨a, ha, rfl⟩ := List.mem_map.mp hchunk
      exact readsInList_attribute (h a ha).1 (h a ha).2.spells
  obtain ⟨ks, hks, hinside⟩ := exists_reads_list hwritten
  refine ⟨ks ++ [.mark ']'], reads_mark_cons (by decide) hks, fun more => ?_⟩
  have hall : ∀ k ∈ ks, decide (k ≠ Atom.mark ']') = true := by
    intro k hk
    simpa using fun heq : k = .mark ']' => hinside (heq ▸ hk)
  have hafter : afterList (.mark '[' :: (ks ++ .mark ']' :: more)) =
      ((ks ++ .mark ']' :: more).dropWhile (· ≠ .mark ']')).drop 1 := rfl
  rw [List.cons_append, List.append_assoc, List.singleton_append, hafter,
    List.dropWhile_append_of_pos hall]
  rfl

theorem says_node {id : Text} (h : Readable id) (lines : List Text) :
    Says (Statement.node id (escapeLines lines)).render (some (.node (named id))) := by
  obtain ⟨ks, hks, hafter⟩ := exists_reads_attributeList (some lines)
    (show ∀ a ∈ ([] : List (Text × Text)), IsPlain a.1 ∧ IsPlain a.2 by simp)
  refine ⟨.name (named id) :: .mark '[' :: ks, ?_, fun more => ?_⟩
  · exact reads_space_cons rfl (reads_append_space (reads_identifier h) hks)
  · show some (some (Saying.node (named id)), afterList (.mark '[' :: ks ++ more)) = _
    rw [hafter]

theorem isPlain_attributesNamed (kind : Text) :
    ∀ a ∈ attributesNamed kind, IsPlain a.1 ∧ IsPlain a.2 := by
  unfold attributesNamed
  cases (Relation.ofName? (lower kind)).getD .link <;> decide

/-- An edge joins the nodes of its ends, whatever ports they have. -/
theorem saying?_edge (source target : Name) {p q : List Atom} (hp : IsPort p) (hq : IsPort q)
    (more : List Atom) :
    saying? (.name source :: (p ++ .arrow :: .name target :: (q ++ .mark '[' :: more))) =
      some (some (.edge source target), afterList (.mark '[' :: more)) := by
  cases hp <;> cases hq <;> rfl

theorem says_edge {source target : Text} (hs : ReadableEnd source) (ht : ReadableEnd target)
    (lines? : Option (List Text)) (kind : Text) :
    Says (Statement.edge source target (lines?.map escapeLines) (attributesNamed kind)).render
      (some (.edge (named (nodePart source)) (named (nodePart target)))) := by
  obtain ⟨p, hsource, hp⟩ := exists_reads_endpoint hs
  obtain ⟨q, htarget, hq⟩ := exists_reads_endpoint ht
  obtain ⟨ks, hks, hafter⟩ := exists_reads_attributeList lines? (isPlain_attributesNamed kind)
  have hline : (Statement.edge source target (lines?.map escapeLines) (attributesNamed kind)).render =
      '\t' :: (endpoint source ++ ' ' :: ("->".toList ++ ' ' :: (endpoint target ++ ' ' ::
        attributeList (lines?.map escapeLines) (attributesNamed kind)))) := by
    simp [Statement.render]
  refine ⟨_, hline ▸ reads_space_cons rfl (reads_append_space hsource
    (reads_append_space spells_arrow.reads (reads_append_space htarget hks))), fun more => ?_⟩
  have hsaying := saying?_edge (named (nodePart source)) (named (nodePart target)) hp hq (ks ++ more)
  simp only [Atom.ofToken, List.cons_append, List.append_assoc, List.nil_append] at hafter hsaying ⊢
  rw [hsaying, hafter]

/-! ## §7 Documents -/

/-- Lines are read one after the other. -/
theorem sayings?_lines {lines : List Text} {xs : List (Option Saying)}
    (h : List.Forall₂ Says lines xs) :
    sayings? (lines.flatMap (fun line => line ++ ['\n'])) = some xs.reduceOption := by
  have hatoms : ∃ ks, Reads atom? (lines.flatMap (fun line => line ++ ['\n'])) ks ∧
      items? saying? ks = some xs.reduceOption := by
    induction h with
    | nil => exact ⟨[], reads_nil, rfl⟩
    | @cons line x lines xs hline _ ih =>
      obtain ⟨ks, hks, hsaying⟩ := hline
      obtain ⟨ls, hls, hrest⟩ := ih
      have hne : ks ≠ [] := by
        rintro rfl
        exact Option.some_ne_none _ (hsaying []).symm
      refine ⟨ks ++ ls, ?_, ?_⟩
      · rw [List.flatMap_cons, List.append_assoc, List.singleton_append]
        exact hks.append (reads_space_cons rfl hls) (stops_cons (by decide) _)
      · rw [items?_append hne (hsaying ls), hrest]
        cases x <;> rfl
  obtain ⟨ks, hks, hsayings⟩ := hatoms
  rw [sayings?, hks.items?_eq]
  exact hsayings

example : sayings? "digraph G \x7b\n\t<<b>> [x=y]\n\t\"a\\\nb\":n:e -> c\n\x7d\n".toList =
    some [.node (.markup "<b>".toList), .edge (.text "ab".toList) (.text "c".toList)] := by
  decide +kernel

theorem says_header (rank : Rank) (statements : List Statement) :
    Says (Digraph.mk defaultName rank statements).header none := by
  have hkeyword : Spells "digraph".toList (.keyword .digraph) := spells_of_isName (by decide)
  have hname : IsPlain ['G'] := by decide
  have hbrace : Reads atom? ['\x7b'] [.mark '\x7b'] := reads_mark_cons (by decide) reads_nil
  exact ⟨_, reads_append_space hkeyword.reads (reads_append_space hname.spells.reads hbrace),
    fun _ => rfl⟩

theorem says_rank (rank : Rank) : Says ("\trankdir=".toList ++ rank.name) none := by
  have hname : IsPlain "rankdir".toList := by decide
  have hrank : IsPlain rank.name := by cases rank <;> decide
  exact ⟨_, reads_space_cons rfl (hname.spells.reads.append
    (reads_mark_cons (by decide) hrank.spells.reads) (stops_cons (by decide) rank.name)),
    fun _ => rfl⟩

theorem says_nodeDefaults : Says "\tnode [shape=box]".toList none := by
  have hkeyword : Spells "node".toList (.keyword .node) := spells_of_isName (by decide)
  have hshape : ∀ a ∈ [("shape".toList, "box".toList)], IsPlain a.1 ∧ IsPlain a.2 := by decide
  obtain ⟨ks, hks, hafter⟩ := exists_reads_attributeList none hshape
  refine ⟨_, reads_space_cons rfl (reads_append_space hkeyword.reads hks), fun more => ?_⟩
  show some (none, afterList (.mark '[' :: ks ++ more)) = _
  rw [hafter]

theorem says_closing : Says "\x7d".toList none :=
  ⟨_, reads_mark_cons (by decide) reads_nil, fun _ => rfl⟩

/-- The text of a graph says what its statements say. -/
theorem sayings?_render {rank : Rank} {statements : List Statement} {xs : List Saying}
    (h : List.Forall₂ (fun s x => Says s.render (some x)) statements xs) :
    sayings? (Digraph.mk defaultName rank statements).render = some xs := by
  have hstatements : List.Forall₂ Says (statements.map Statement.render) (xs.map some) :=
    List.forall₂_map_left_iff.mpr (List.forall₂_map_right_iff.mpr h)
  have hlines : List.Forall₂ Says (Digraph.mk defaultName rank statements).lines
      (none :: none :: none :: (xs.map some ++ [none])) :=
    .cons (says_header rank statements) (.cons (says_rank rank) (.cons says_nodeDefaults
      (List.rel_append hstatements (.cons says_closing .nil))))
  have hsaid : (none :: none :: none :: (xs.map some ++ [none])).reduceOption = xs := by
    simp [List.reduceOption]
  rw [Digraph.render, sayings?_lines hlines, hsaid]

/-- The record has the identifier. -/
def HasId (v : Value) (id : Text) : Prop := Record (fun fs => valueAt fs "id" = .str id) v

/-- The record joins the two ends. -/
def Joins (v : Value) (e : Text × Text) : Prop :=
  Record (fun fs => valueAt fs "source" = .str e.1 ∧ valueAt fs "target" = .str e.2) v

/-- The nodes have identifiers, which differ and are not empty, and the
links join nodes. -/
structure Declares (nodes links : List Value) (ids : List Text) (ends : List (Text × Text)) :
    Prop where
  node : List.Forall₂ HasId nodes ids
  link : List.Forall₂ Joins links ends
  distinct : ids.Nodup
  nonempty : [] ∉ ids
  declared : ∀ e ∈ ends, e.1 ∈ ids ∧ e.2 ∈ ids

/-- What is made of each item of a list is made of the list. -/
theorem exists_mapM_some {α β γ ε : Type} {f : α → Except ε (Option β)} {R : α → γ → Prop}
    {P : β → γ → Prop} {xs : List α} {cs : List γ} (h : List.Forall₂ R xs cs)
    (hstep : ∀ x ∈ xs, ∀ c ∈ cs, R x c → ∃ b, f x = .ok (some b) ∧ P b c) :
    ∃ bs, xs.mapM f = .ok (bs.map some) ∧ List.Forall₂ P bs cs := by
  induction h with
  | nil => exact ⟨[], rfl, .nil⟩
  | @cons x c xs cs hx _ ih =>
    obtain ⟨b, hb, hP⟩ := hstep x (by simp) c (by simp) hx
    obtain ⟨bs, hbs, hPs⟩ := ih fun y hy d hd =>
      hstep y (List.mem_cons_of_mem _ hy) d (List.mem_cons_of_mem _ hd)
    refine ⟨b :: bs, ?_, .cons hP hPs⟩
    rw [List.mapM_cons, hb, hbs]
    rfl

/-- The document of readable identifiers has a text, and its edges join the
nodes of their ends: those that are declared for them exactly if there is
no colon in the ends. Different identifiers that are exact are declared
as different nodes. -/
theorem write_joins_declared {v : Value} {nodes links : List Value} {ids : List Text}
    {ends : List (Text × Text)} (hlists : Lists v nodes links) (haccepts : Accepts nodes links)
    (h : Declares nodes links ids ends) (hreadable : ∀ id ∈ ids, Readable id)
    (hends : ∀ e ∈ ends, ReadableEnd e.1 ∧ ReadableEnd e.2) (orientation : Text) :
    (∃ t, write v orientation = .ok t ∧
      sayings? t = some (ids.map (fun id => .node (named id)) ++
        ends.map (fun e => .edge (named (nodePart e.1)) (named (nodePart e.2))))) ∧
    (∀ e ∈ ends, (named (nodePart e.1) = named e.1 ∧ named (nodePart e.2) = named e.2) ↔
      (':' ∉ e.1 ∧ ':' ∉ e.2)) ∧
    ((∀ id ∈ ids, Exact id) → (ids.map named).Nodup) := by
  have hne : ∀ id ∈ ids, id ≠ [] := fun id hid heq => h.nonempty (heq ▸ hid)
  obtain ⟨ns, hns, hnodes⟩ := exists_mapM_some (f := nodeStatement?)
    (P := fun s id => Says s.render (some (.node (named id)))) h.node (by
      rintro _ hv id hid ⟨fs, rfl, hfs⟩
      obtain ⟨lines, hstatement⟩ :=
        exists_nodeStatement hfs (hne id hid) (record_obj.mp (haccepts.node _ hv))
      exact ⟨_, hstatement, says_node (hreadable id hid) lines⟩)
  obtain ⟨es, hes, hedges⟩ := exists_mapM_some (f := edgeStatement?)
    (P := fun s e => Says s.render (some (.edge (named (nodePart e.1)) (named (nodePart e.2)))))
    h.link (by
      rintro _ hv e he ⟨fs, rfl, hsource, htarget⟩
      obtain ⟨hs, ht⟩ := h.declared e he
      obtain ⟨lines?, kind, hstatement⟩ := exists_edgeStatement hsource htarget (hne _ hs) (hne _ ht)
        (record_obj.mp (haccepts.link _ hv))
      exact ⟨_, hstatement, says_edge (hends e he).1 (hends e he).2 lines? kind⟩)
  have hwrite : write v orientation =
      .ok (Digraph.mk defaultName (Rank.ofOrientation orientation) (ns ++ es)).render := by
    rw [write_eq hlists, hns, hes]
    simp [bind, Except.bind, pure, Except.pure]
  have hsaid : List.Forall₂ (fun s x => Says s.render (some x)) (ns ++ es)
      (ids.map (fun id => .node (named id)) ++
        ends.map (fun e => .edge (named (nodePart e.1)) (named (nodePart e.2)))) := by
    refine List.rel_append ?_ ?_
    · exact List.forall₂_map_right_iff.mpr hnodes
    · exact List.forall₂_map_right_iff.mpr hedges
  refine ⟨⟨_, hwrite, sayings?_render hsaid⟩, fun e _ => ?_, fun hexact => ?_⟩
  · rw [named_nodePart_iff, named_nodePart_iff]
  · exact List.Nodup.map_on
      (fun s hs t ht => named_inj (hexact s hs) (hexact t ht)) h.distinct

/-- A document that holds the identifiers and the ends and nothing else. -/
def plainDocument (ids : List Text) (ends : List (Text × Text)) : Value :=
  .obj [("nodes".toList, .arr (ids.map fun id => .obj [("id".toList, .str id)])),
    ("links".toList, .arr (ends.map fun e =>
      .obj [("source".toList, .str e.1), ("target".toList, .str e.2)]))]

/-- Such a document meets all that is asked of documents. -/
theorem declares_plainDocument {ids : List Text} {ends : List (Text × Text)} (hdistinct : ids.Nodup)
    (hnonempty : [] ∉ ids) (hdeclared : ∀ e ∈ ends, e.1 ∈ ids ∧ e.2 ∈ ids) :
    ∃ nodes links, Lists (plainDocument ids ends) nodes links ∧ Accepts nodes links ∧
      Declares nodes links ids ends := by
  refine ⟨_, _, ⟨_, rfl, rfl, rfl⟩, ⟨fun v hv => ?_, fun v hv => ?_⟩, ?_, ?_, hdistinct, hnonempty,
    hdeclared⟩
  · obtain ⟨id, -, rfl⟩ := List.mem_map.mp hv
    refine ⟨_, rfl, fun _ => ⟨⟨id, rfl⟩, ?_, ?_⟩⟩
    · exact fun hlabel => absurd hlabel Bool.false_ne_true
    · exact fun hmembers => absurd hmembers Bool.false_ne_true
  · obtain ⟨e, -, rfl⟩ := List.mem_map.mp hv
    refine ⟨_, rfl, fun _ _ => ⟨⟨e.1, rfl⟩, ⟨e.2, rfl⟩, ?_, ?_⟩⟩
    · exact fun htype => absurd htype Bool.false_ne_true
    · exact fun hlabel => absurd hlabel Bool.false_ne_true
  · exact List.forall₂_map_left_iff.mpr (List.forall₂_same.mpr fun id _ => ⟨_, rfl, rfl⟩)
  · exact List.forall₂_map_left_iff.mpr (List.forall₂_same.mpr fun e _ => ⟨_, rfl, rfl, rfl⟩)

/-- Identifiers with a quote, with backslashes in pairs, with a line feed
and with a colon, markup, a keyword and a numeral. -/
def oddIds : List Text :=
  ["a\"b".toList, "x\\\\".toList, "1\n2".toList, "c:d".toList, "<b<i>>".toList, "Node".toList,
    "-1.5".toList]

/-- Ends among them, none with a colon. -/
def oddEnds : List (Text × Text) :=
  [("a\"b".toList, "<b<i>>".toList), ("Node".toList, "-1.5".toList), ("1\n2".toList, "x\\\\".toList)]

/-- All of them are declared as they are, and edges join them. -/
theorem write_joins_declared_odd :
    (oddIds.Nodup ∧ [] ∉ oddIds ∧ ∀ e ∈ oddEnds, e.1 ∈ oddIds ∧ e.2 ∈ oddIds) ∧
      (∃ t, write (plainDocument oddIds oddEnds) "LR".toList = .ok t ∧
        sayings? t = some (oddIds.map (fun id => .node (named id)) ++
          oddEnds.map (fun e => .edge (named (nodePart e.1)) (named (nodePart e.2))))) ∧
      (∀ e ∈ oddEnds, named (nodePart e.1) = named e.1 ∧ named (nodePart e.2) = named e.2) ∧
      (oddIds.map named).Nodup := by
  have hdistinct : oddIds.Nodup := by decide +kernel
  have hnonempty : [] ∉ oddIds := by decide +kernel
  have hdeclared : ∀ e ∈ oddEnds, e.1 ∈ oddIds ∧ e.2 ∈ oddIds := by decide +kernel
  have hreadable : ∀ id ∈ oddIds, Readable id := by decide +kernel
  have hcolon : ∀ e ∈ oddEnds, ':' ∉ e.1 ∧ ':' ∉ e.2 := by decide +kernel
  obtain ⟨nodes, links, hlists, haccepts, hdeclares⟩ :=
    declares_plainDocument hdistinct hnonempty hdeclared
  obtain ⟨hwrite, hjoined, hnodup⟩ := write_joins_declared hlists haccepts hdeclares hreadable
    (fun e he => ⟨.node (hreadable _ (hdeclared e he).1) (hcolon e he).1,
      .node (hreadable _ (hdeclared e he).2) (hcolon e he).2⟩) "LR".toList
  exact ⟨⟨hdistinct, hnonempty, hdeclared⟩, hwrite, fun e he => (hjoined e he).mpr (hcolon e he),
    hnodup (by decide +kernel)⟩

/-- An edge from `a:b` starts at a node `a`, which is not declared; and the
identifiers `a"` and `a\"` are declared as one node. -/
theorem write_joins_undeclared :
    (write (plainDocument ["a:b".toList, "c".toList] [("a:b".toList, "c".toList)]) []).toOption.bind
        sayings? =
      some [.node (.text "a:b".toList), .node (.text "c".toList),
        .edge (.text "a".toList) (.text "c".toList)] ∧
    (write (plainDocument ["a\"".toList, "a\\\"".toList] []) []).toOption.bind sayings? =
      some [.node (.text "a\"".toList), .node (.text "a\"".toList)] := by
  decide +kernel

end DiagramGraph.Dot
