/-
DiagramGraph.Proofs.DotLabels — what is written for a label is one token,
and it says the label.

The lines of a label are any texts. Their backslashes are doubled, a line
feed becomes `\n`, `\n` is put between the lines, and then the whole is
quoted, by a rule that looks at the run of backslashes before each quote.
The main statement is `labelToken_label`: the three steps go together for
every list of lines. What is written is a single token without a line
feed in it (`LabelToken`), reading it gives the lines back, and the list
of attributes it stands in ends where it was meant to end. So no text can
leave its label.

  §1 Tokens   — what DOT asks of a token, and what a label says. A quote
                is escaped by an odd run of backslashes before it.
  §2 Quotes   — quoting escapes each quote, and keeps the end of the text
                as it was; the backslashes of escaped lines stand in
                pairs, so the last quote is not escaped by them.
  §3 Reading  — in one pass, quotes, backslashes and line breaks are found
                again.
  §4 Labels   — both kinds of label.
-/
import DiagramGraph.Proofs.DotFaithful
import DiagramGraph.Proofs.DotNodes

namespace DiagramGraph.Dot

open Text

/-! ## §1 Tokens -/

/-- A string in quotes: of its quotes, the first and the last character
are those that no backslash escapes. -/
structure QuotedToken (t : Text) : Prop where
  ends : ∃ inner, t = '"' :: (inner ++ ['"'])
  quotes : ∀ before after, t = before ++ '"' :: after →
    (endsOdd false before = false ↔ before = [] ∨ after = [])

/-- The text of a label in quotes, the first of which was read. -/
def quotedLabel? : Text → Option Text
  | [] => none
  | ['"'] => some []
  | '\\' :: '"' :: rest => (quotedLabel? rest).map ('"' :: ·)
  | '\\' :: '\\' :: rest => (quotedLabel? rest).map ('\\' :: ·)
  | '\\' :: 'n' :: rest => (quotedLabel? rest).map ('\n' :: ·)
  | c :: rest => if c = '\\' ∨ c = '"' then none else (quotedLabel? rest).map (c :: ·)

/-- The text that a token says as a label. -/
def labelText? : Text → Option Text
  | '"' :: rest => quotedLabel? rest
  | t => some t

/-- The token is one identifier, on one line and whatever follows it. It
says the text as a label, whether quotes and escapes are undone one after
the other or in one pass. -/
structure LabelToken (token text : Text) : Prop where
  form : BareToken token ∨ QuotedToken token
  noNewline : '\n' ∉ token
  single : ∃ value, Spells token (.id value) ∧ unescape? value = some text
  meant : labelText? token = some text

/-- The list in brackets is read as the attributes and ends with its last
bracket. -/
def ListsAttributes (written : Text) (attributes : List (Text × Text)) : Prop :=
  ∃ ks, Lexes written (.mark '[' :: ks) ∧ ∀ more, attributes? (ks ++ more) = some (attributes, more)

/-! ## §2 Quotes -/

theorem endsOdd_append : ∀ (odd : Bool) (a b : Text),
    endsOdd odd (a ++ b) = endsOdd (endsOdd odd a) b
  | _, [], _ => rfl
  | _, _ :: a, b => endsOdd_append _ a b

/-- Each quote in a quoted text is escaped. -/
theorem endsOdd_of_escapeQuotes : ∀ {t : Text} {odd : Bool} {before after : Text},
    escapeQuotes odd t = before ++ '"' :: after → endsOdd odd before = true
  | [], odd, before, after, h => by simp [escapeQuotes] at h
  | c :: t, odd, before, after, h => by
      unfold escapeQuotes at h
      split_ifs at h with hslash hquote hodd
      · cases before with
        | nil => cases (List.cons.inj h).1
        | cons d before =>
          obtain ⟨rfl, hrest⟩ := List.cons.inj h
          rw [endsOdd_slash]
          exact endsOdd_of_escapeQuotes (t := t) hrest
      · cases before with
        | nil => exact hodd
        | cons d before =>
          obtain ⟨rfl, hrest⟩ := List.cons.inj h
          rw [endsOdd_cons (by decide)]
          exact endsOdd_of_escapeQuotes (t := t) hrest
      · cases before with
        | nil => cases (List.cons.inj h).1
        | cons d before =>
          obtain ⟨rfl, hquoted⟩ := List.cons.inj h
          rw [endsOdd_slash]
          cases before with
          | nil => simp [endsOdd, hodd]
          | cons e before =>
            obtain ⟨rfl, hrest⟩ := List.cons.inj hquoted
            rw [endsOdd_cons (by decide)]
            exact endsOdd_of_escapeQuotes (t := t) hrest
      · cases before with
        | nil => exact absurd (List.cons.inj h).1 hquote
        | cons d before =>
          obtain ⟨rfl, hrest⟩ := List.cons.inj h
          rw [endsOdd_cons hslash]
          exact endsOdd_of_escapeQuotes (t := t) hrest

/-- Quoting keeps the run of backslashes at the end of a text. -/
theorem endsOdd_escapeQuotes : ∀ (odd : Bool) (t : Text),
    endsOdd odd (escapeQuotes odd t) = endsOdd odd t
  | _, [] => rfl
  | odd, c :: t => by
      have hrest := fun o => endsOdd_escapeQuotes o t
      unfold escapeQuotes
      split_ifs with hslash hquote hodd
      · simpa [endsOdd, hslash] using hrest (!odd)
      · simpa [endsOdd, hquote] using hrest false
      · simpa [endsOdd, hquote] using hrest false
      · simpa [endsOdd, hslash] using hrest false

/-- The backslashes of escaped lines stand in pairs. -/
theorem endsOdd_escapeLines (lines : List Text) : endsOdd false (escapeLines lines) = false := by
  refine escapeLines_induction (P := fun a _ => endsOdd false a = false) rfl ?_ rfl rfl ?_ lines
  · intro a b _ _ ha hb
    rw [endsOdd_append, ha, hb]
  · intro c hslash _
    simp [endsOdd, hslash]

/-- In quotes, only the first and the last quote are not escaped. -/
theorem quotedToken_inQuotes {t : Text} (h : endsOdd false t = false) : QuotedToken (inQuotes t) := by
  refine ⟨⟨escapeQuotes false t, rfl⟩, fun before after hsplit => ?_⟩
  cases before with
  | nil => simp [endsOdd]
  | cons c before =>
    have hcons : '"' :: (escapeQuotes false t ++ ['"']) = c :: (before ++ '"' :: after) := hsplit
    obtain ⟨rfl, hrest⟩ := List.cons.inj hcons
    have hstep : endsOdd false ('"' :: before) = endsOdd false before := rfl
    rw [hstep]
    rcases append_eq_append_cons hrest with ⟨u, hinner, rfl⟩ | ⟨u, rfl, hlast⟩
    · -- a quote of the text
      simp [endsOdd_of_escapeQuotes hinner]
    · -- the quote at the end
      obtain ⟨rfl, rfl⟩ : u = [] ∧ after = [] := by
        cases u with
        | nil => simpa using hlast
        | cons d u => simp at hlast
      simp [endsOdd_escapeQuotes, h]

/-! ## §3 Reading -/

/-- The escaped text is read as the other one, whatever follows it in the
quotes. -/
def SaysInQuotes (chunk t : Text) : Prop :=
  ∀ more, quotedLabel? (escapeQuotes false (chunk ++ more) ++ ['"']) =
    (quotedLabel? (escapeQuotes false more ++ ['"'])).map (t ++ ·)

theorem SaysInQuotes.append {a b t u : Text} (ha : SaysInQuotes a t) (hb : SaysInQuotes b u) :
    SaysInQuotes (a ++ b) (t ++ u) := by
  intro more
  rw [List.append_assoc, ha, hb, Option.map_map]
  congr 1
  funext s
  exact (List.append_assoc t u s).symm

theorem saysInQuotes_nil : SaysInQuotes [] [] := by
  intro more
  simp

theorem saysInQuotes_singleton {c : Char} (h : c ≠ '\\') : SaysInQuotes [c] [c] := by
  intro more
  by_cases hquote : c = '"'
  · subst hquote
    rfl
  · have hescape : escapeQuotes false ([c] ++ more) = c :: escapeQuotes false more := by
      simp [escapeQuotes, h, hquote]
    rw [hescape, List.cons_append, quotedLabel?.eq_6 _ _ (by simp [hquote]) (by simp [h]) (by simp [h])
      (by simp [h]), if_neg (by simp [h, hquote])]
    rfl

/-- Escaped lines are read as the lines. -/
theorem saysInQuotes_escapeLines (lines : List Text) :
    SaysInQuotes (escapeLines lines) (['\n'].intercalate lines) :=
  escapeLines_induction saysInQuotes_nil SaysInQuotes.append (fun _ => rfl) (fun _ => rfl)
    (fun hc _ => saysInQuotes_singleton hc) lines

theorem labelText?_inQuotes (lines : List Text) :
    labelText? (inQuotes (escapeLines lines)) = some (['\n'].intercalate lines) := by
  have hwhole := saysInQuotes_escapeLines lines []
  show quotedLabel? (escapeQuotes false (escapeLines lines) ++ ['"']) = _
  simpa [escapeQuotes, quotedLabel?] using hwhole

/-- A text without backslashes says itself. -/
theorem unescape?_eq_self : ∀ {t : Text}, '\\' ∉ t → unescape? t = some t
  | [], _ => rfl
  | c :: t, h => by
      have hc : c ≠ '\\' := fun hc => h (by simp [hc])
      have hrest : unescape? t = some t := unescape?_eq_self fun hm => h (by simp [hm])
      have hchar : unescape? ([c] ++ t) = (unescape? t).map ([c] ++ ·) := decodes_singleton hc t
      rw [hrest] at hchar
      exact hchar

/-! ## §4 Labels -/

/-- The characters of names and numerals. -/
def isBareChar (c : Char) : Bool := isNameChar c || c == '.' || c == '-'

theorem isBareChar_of_isName {t : Text} (h : isName t = true) : ∀ c ∈ t, isBareChar c = true := by
  cases t with
  | nil => simp
  | cons d t =>
    simp only [isName, Bool.and_eq_true, List.all_eq_true] at h
    intro c hc
    rcases List.mem_cons.mp hc with rfl | hc
    · have hstart := h.1
      simp only [isNameStart, Bool.or_eq_true] at hstart
      rcases hstart with hstart | hstart <;> simp [isBareChar, isNameChar, Char.isAlphanum, hstart]
    · simp [isBareChar, h.2 c hc]

theorem isBareChar_of_isUnsigned {t : Text} (h : isUnsigned t = true) :
    ∀ c ∈ t, isBareChar c = true := by
  have hdigit : ∀ c : Char, c.isDigit = true → isBareChar c = true := by
    intro c hc
    simp [isBareChar, isNameChar, Char.isAlphanum, hc]
  intro c hc
  rw [← List.takeWhile_append_dropWhile (p := Char.isDigit) (l := t)] at hc
  rcases List.mem_append.mp hc with hc | hc
  · exact hdigit c (List.all_eq_true.mp List.all_takeWhile c hc)
  · unfold isUnsigned at h
    split at h
    · next hnil => simp [hnil] at hc
    · next fraction hpoint =>
      simp only [Bool.and_eq_true, List.all_eq_true] at h
      rw [hpoint] at hc
      rcases List.mem_cons.mp hc with rfl | hc
      · decide
      · exact hdigit c (h.1 c hc)
    · simp at h

theorem isBareChar_of_isNumeral {t : Text} (h : isNumeral t = true) :
    ∀ c ∈ t, isBareChar c = true := by
  unfold isNumeral at h
  split at h
  · intro c hc
    rcases List.mem_cons.mp hc with rfl | hc
    · decide
    · exact isBareChar_of_isUnsigned h c hc
  · exact isBareChar_of_isUnsigned h

/-- A bare token has nothing in it that would be read as something else. -/
theorem BareToken.isBareChar {t : Text} (h : BareToken t) : ∀ c ∈ t, isBareChar c = true :=
  h.1.elim isBareChar_of_isName isBareChar_of_isNumeral

theorem BareToken.not_mem {t : Text} (h : BareToken t) {c : Char}
    (hc : Dot.isBareChar c = false) : c ∉ t := by
  intro hm
  rw [h.isBareChar c hm] at hc
  cases hc

/-- What stands bare says itself. -/
theorem BareToken.labelText?_eq {t : Text} (h : BareToken t) : labelText? t = some t := by
  have hquote : '"' ∉ t := h.not_mem (by decide)
  unfold labelText?
  split
  · simp at hquote
  · rfl

theorem newline_not_mem_label {t : Text} (h : '\n' ∉ t) : '\n' ∉ label t := by
  intro hm
  unfold label inQuotes at hm
  split at hm
  · exact h hm
  · have hquoted : '\n' ∈ escapeQuotes false t := by simpa using hm
    exact h (by simpa using mem_of_mem_escapeQuotes hquoted)

/-- The lines of a label are written as one token that says them. -/
theorem labelToken_escapeLines (lines : List Text) :
    LabelToken (label (escapeLines lines)) (['\n'].intercalate lines) := by
  have hline := newline_not_mem_escapeLines lines
  have hdecoded := unescape?_escapeLines lines
  have hspells := spells_label hline (quotable_escapeLines lines)
  by_cases hbare : isBare (escapeLines lines) = true
  · have htoken := bareToken_of_isBare hline hbare
    have hself := unescape?_eq_self (htoken.not_mem (c := '\\') (by decide))
    have hlabel : label (escapeLines lines) = escapeLines lines := if_pos hbare
    refine ⟨.inl ?_, newline_not_mem_label hline, ⟨_, hspells, hdecoded⟩, ?_⟩
    · rw [hlabel]
      exact htoken
    · rw [hlabel, htoken.labelText?_eq, ← hself, hdecoded]
  · have hlabel : label (escapeLines lines) = inQuotes (escapeLines lines) := if_neg hbare
    refine ⟨.inr ?_, newline_not_mem_label hline, ⟨_, hspells, hdecoded⟩, ?_⟩
    · rw [hlabel]
      exact quotedToken_inQuotes (endsOdd_escapeLines lines)
    · rw [hlabel]
      exact labelText?_inQuotes lines

/-- What is written for a label says the label and nothing else. The
lines of a node become one token that says them with line breaks between
them, the text of a link one that says the text; and a list of attributes
with such a token is read as that label and the attributes that follow it,
and ends with its own bracket. -/
theorem labelToken_label :
    (∀ lines : List Text,
      LabelToken (label (escapeLines lines)) (['\n'].intercalate lines) ∧
        ListsAttributes (attributeList (some (escapeLines lines)) [])
          [("label".toList, ['\n'].intercalate lines)]) ∧
    ∀ (t : Text) (r : Relation),
      LabelToken (label (escapeLine t)) t ∧
        ListsAttributes (attributeList (some (escapeLine t)) (edgeAttributes r))
          (("label".toList, t) :: edgeAttributes r) := by
  refine ⟨fun lines => ⟨labelToken_escapeLines lines, ?_⟩, fun t r => ?_⟩
  · exact exists_lexes_attributeList (some lines) (by simp)
  · have htoken := labelToken_escapeLines [t]
    have hlist := exists_lexes_attributeList (some [t]) (readsAttribute_of_mem_edgeAttributes (r := r))
    rw [List.intercalate_singleton, ← escapeLine_eq] at htoken
    simp only [Option.map_some, List.intercalate_singleton, ← escapeLine_eq] at hlist
    exact ⟨htoken, hlist⟩

example : label (escapeLines ["<b>\\".toList, "\"\n".toList]) =
    "\"<b>\\\\\\n\\\"\\n\"".toList := by
  decide

end DiagramGraph.Dot
