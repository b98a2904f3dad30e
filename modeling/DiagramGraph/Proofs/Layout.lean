/-
DiagramGraph.Proofs.Layout — the layout of a text does not matter.

`SetOut lines t` says that the text `t` sets out the given lines: each
stands in a row of its own, between blanks, and blank rows and comments
may stand anywhere around them; every row ends in its own way, and the
last one need not end at all. `Layout` adds the byte-order mark that may
stand before such a text.

The main statement is `read_eq_of_layout`: two layouts of the same lines
are read into the same diagram. Both readers, and the choice between
them, see of a text only its meaningful lines (`read_eq_of_meaningful`),
and those of a layout are those of the lines (`meaningful_of_layout`).

The one place where rows are not simply put one after the other is a
carriage return before an empty row that ends with a line feed: the two
ends make one. The row that is lost is empty, so it does not matter.
-/
import DiagramGraph.Cli.Outcome
import DiagramGraph.Mermaid.Reader
import DiagramGraph.Proofs.TextTheorems

namespace DiagramGraph.Mermaid

open Text

/-! ## §1 Layouts -/

/-- The ways to end a row. -/
inductive RowEnd
  | lf | crlf | cr
  deriving DecidableEq, Repr

/-- The characters at the end of a row. -/
def RowEnd.text : RowEnd → Text
  | lf => ['\n']
  | crlf => ['\r', '\n']
  | cr => ['\r']

/-- Blanks within a row. -/
structure Padding (t : Text) : Prop where
  isBlank : t.all isBlank = true
  oneLine : OneLine t

/-- A row that says nothing: it is blank, or a comment. -/
inductive Filler : Text → Prop
  | blank {pad : Text} (hpad : Padding pad) : Filler pad
  | comment {pad text : Text} (hpad : Padding pad) (htext : OneLine text) :
    Filler (pad ++ ("%%".toList ++ text))

/-- The row holds the line, with blanks around it. -/
inductive Holds (line : Text) : Text → Prop
  | padded {before after : Text} (hbefore : Padding before) (hafter : Padding after) :
    Holds line (before ++ (line ++ after))

/-- The text sets out the lines, in order, with fillers among them. What
stands after the last row end may be empty. -/
inductive SetOut : List Text → Text → Prop
  | lastFiller {row : Text} (hrow : Filler row) : SetOut [] row
  | lastLine {line row : Text} (hrow : Holds line row) : SetOut [line] row
  | filler {lines : List Text} {row t : Text} (hrow : Filler row) (stop : RowEnd)
    (ht : SetOut lines t) : SetOut lines (row ++ (stop.text ++ t))
  | line {lines : List Text} {line row t : Text} (hrow : Holds line row) (stop : RowEnd)
    (ht : SetOut lines t) : SetOut (line :: lines) (row ++ (stop.text ++ t))

/-- The text sets out the lines, perhaps after a byte-order mark; what
follows the mark does not start with another one. -/
def Layout (lines : List Text) (t : Text) : Prop :=
  ∃ body, SetOut lines body ∧ body.head? ≠ some '\uFEFF' ∧ (t = body ∨ t = '\uFEFF' :: body)

/-! ## §2 What a reader sees of a text -/

/-- The lines of a text that say something. -/
def meaningful (t : Text) : List Text := (trimmedLines t).filter isMeaningful

theorem statements_filter (markers lines : List Text) :
    statements markers (lines.filter isMeaningful) = statements markers lines := by
  rw [statements, List.filter_filter, statements]
  refine List.filter_congr fun line _ => ?_
  cases isMeaningful line <;> simp

theorem firstStatement?_eq_head? (lines : List Text) :
    firstStatement? lines = (lines.filter isMeaningful).head? := List.head?_filter.symm

/-- Texts with the same meaningful lines are read into the same diagram. -/
theorem read_eq_of_meaningful {t u : Text} (h : meaningful t = meaningful u) : read t = read u := by
  have hstatements (markers : List Text) :
      statements markers (trimmedLines t) = statements markers (trimmedLines u) := by
    rw [← statements_filter, ← statements_filter markers (trimmedLines u)]
    exact congrArg (statements markers) h
  have hfirst : firstStatement? (trimmedLines t) = firstStatement? (trimmedLines u) := by
    rw [firstStatement?_eq_head?, firstStatement?_eq_head?]
    exact congrArg List.head? h
  simp only [read, hfirst, Flowchart.readLines, ClassDiagram.readLines, hstatements]

/-! ## §3 Rows -/

/-- The lines of a text without a mark that say something. -/
def sayings (t : Text) : List Text := (((unifyNewlines t).splitOn '\n').map trim).filter isMeaningful

theorem unifyNewlines_append : ∀ {row : Text}, '\r' ∉ row → ∀ rest : Text,
    unifyNewlines (row ++ rest) = row ++ unifyNewlines rest
  | [], _, rest => rfl
  | c :: row, h, rest => by
      have hc : c ≠ '\r' := fun hc => h (by simp [hc])
      rw [List.cons_append, unifyNewlines.eq_2 _ _ (by rintro r rfl; exact absurd rfl hc), if_neg hc,
        unifyNewlines_append (fun hm => h (by simp [hm]))]
      rfl

/-- The lines of a row that ends and of what follows it. -/
theorem sayings_feed {row : Text} (hrow : OneLine row) {t rest : Text}
    (ht : unifyNewlines t = row ++ '\n' :: unifyNewlines rest) :
    sayings t = [trim row].filter isMeaningful ++ sayings rest := by
  rw [sayings, ht, List.splitOn_append_cons_self_of_not_mem hrow.1, List.map_cons,
    ← List.singleton_append, List.filter_append, ← sayings]

/-- A row says what its trimmed text says, whatever its end. -/
theorem sayings_row {row : Text} (hrow : OneLine row) (stop : RowEnd) (t : Text) :
    sayings (row ++ (stop.text ++ t)) = [trim row].filter isMeaningful ++ sayings t := by
  cases stop with
  | lf => exact sayings_feed hrow (unifyNewlines_append hrow.2 _)
  | crlf => exact sayings_feed hrow (unifyNewlines_append hrow.2 _)
  | cr =>
    have happend := unifyNewlines_append hrow.2 ('\r' :: t)
    by_cases hfeed : ∃ rest, t = '\n' :: rest
    · obtain ⟨rest, rfl⟩ := hfeed
      -- The return and the line feed of an empty row make one end.
      have hnil : OneLine [] := by decide
      have hempty : sayings ('\n' :: rest) = sayings rest := sayings_feed hnil rfl
      rw [hempty]
      exact sayings_feed hrow happend
    · refine sayings_feed hrow (happend.trans ?_)
      rw [unifyNewlines.eq_2 _ _ (by rintro rest - rfl; exact hfeed ⟨rest, rfl⟩)]
      rfl

/-- So does the last row, which has no end. -/
theorem sayings_lastRow {row : Text} (hrow : OneLine row) :
    sayings row = [trim row].filter isMeaningful := by
  rw [sayings, unifyNewlines_eq_self hrow.2, List.splitOn_eq_singleton hrow.1]
  rfl

/-! ## §4 Layouts of the same lines -/

theorem Filler.oneLine {row : Text} (h : Filler row) : OneLine row := by
  cases h with
  | blank hpad => exact hpad.oneLine
  | comment hpad htext =>
    exact oneLine_append.mpr ⟨hpad.oneLine, oneLine_append.mpr ⟨by decide, htext⟩⟩

/-- A filler says nothing. -/
theorem Filler.filter_trim {row : Text} (h : Filler row) : [trim row].filter isMeaningful = [] := by
  cases h with
  | blank hpad =>
    have htrim : trim row = [] := trim_append_blanks hpad.isBlank []
    rw [htrim]
    rfl
  | @comment pad text hpad htext =>
    have htrim : trim (pad ++ ("%%".toList ++ text)) = "%%".toList ++ trimEnd text := by
      rw [trim_append hpad.isBlank, trim, trimStart_eq_self (by simp; decide)]
      show trimEnd ('%' :: '%' :: text) = _
      rw [trimEnd_cons (by decide), trimEnd_cons (by decide)]
      rfl
    have hcomment : isComment ("%%".toList ++ trimEnd text) = true :=
      List.isPrefixOf_iff_prefix.mpr ⟨_, rfl⟩
    have hsilent : isMeaningful ("%%".toList ++ trimEnd text) = false := by
      rw [isMeaningful, hcomment, Bool.not_true, Bool.and_false]
    rw [htrim, List.filter_cons_of_neg (by rw [hsilent]; decide)]
    rfl

theorem Holds.oneLine {line row : Text} (h : Holds line row) (hline : OneLine line) :
    OneLine row := by
  obtain ⟨hbefore, hafter⟩ := h
  exact oneLine_append.mpr ⟨hbefore.oneLine, oneLine_append.mpr ⟨hline, hafter.oneLine⟩⟩

theorem Holds.trim_eq {line row : Text} (h : Holds line row) : trim row = trim line := by
  obtain ⟨hbefore, hafter⟩ := h
  rw [trim_append hbefore.isBlank, trim_append_blanks hafter.isBlank]

/-- What a text says that sets out the lines is what the lines say. -/
theorem sayings_of_setOut {lines : List Text} {t : Text} (h : SetOut lines t)
    (hlines : ∀ line ∈ lines, OneLine line) :
    sayings t = (lines.map trim).filter isMeaningful := by
  induction h with
  | lastFiller hrow => rw [sayings_lastRow hrow.oneLine, hrow.filter_trim]; rfl
  | lastLine hrow => rw [sayings_lastRow (hrow.oneLine (hlines _ (by simp))), hrow.trim_eq]; rfl
  | filler hrow stop ht ih => rw [sayings_row hrow.oneLine, hrow.filter_trim, ih hlines]; rfl
  | line hrow stop ht ih =>
    rw [sayings_row (hrow.oneLine (hlines _ (by simp))), hrow.trim_eq,
      ih fun l hl => hlines l (List.mem_cons_of_mem _ hl), ← List.filter_append]
    rfl

theorem head?_unifyNewlines {t : Text} (h : t.head? ≠ some '\uFEFF') :
    (unifyNewlines t).head? ≠ some '\uFEFF' := by
  fun_cases unifyNewlines t with
  | case1 rest => simp
  | case2 c rest =>
    by_cases hc : c = '\r'
    · simp [hc]
    · simpa [hc] using h
  | case3 => simp

theorem dropMark_eq_self {t : Text} (h : t.head? ≠ some '\uFEFF') : dropMark t = t := by
  cases t with
  | nil => rfl
  | cons c t => exact if_neg fun hc => h (congrArg some hc)

/-- The meaningful lines of a layout are those of its lines. -/
theorem meaningful_of_layout {lines : List Text} {t : Text} (h : Layout lines t)
    (hlines : ∀ line ∈ lines, OneLine line) :
    meaningful t = (lines.map trim).filter isMeaningful := by
  obtain ⟨body, hbody, hmark, ht⟩ := h
  have hdrop : dropMark (unifyNewlines t) = unifyNewlines body := by
    rcases ht with rfl | rfl
    · exact dropMark_eq_self (head?_unifyNewlines hmark)
    · rfl
  rw [← sayings_of_setOut hbody hlines, meaningful, trimmedLines, hdrop]
  rfl

/-- Line ends that are unified already are read the same. -/
theorem read_unifyNewlines (t : Text) : read (unifyNewlines t) = read t := by
  have hlines : trimmedLines (unifyNewlines t) = trimmedLines t := by
    rw [trimmedLines, unifyNewlines_eq_self (not_mem_unifyNewlines t), trimmedLines]
  exact read_eq_of_meaningful (congrArg (List.filter isMeaningful) hlines)

/-- Two layouts of the same lines are read into the same diagram. So are a
text that comes from a file, where line ends are unified on the way, and
the same text as it is. -/
theorem read_eq_of_layout :
    (∀ (lines : List Text) (t u : Text), (∀ line ∈ lines, OneLine line) →
        Layout lines t → Layout lines u → read t = read u) ∧
      ∀ (w : Files.Workspace) (path : Files.Path) (bytes : List UInt8) (t : Text),
        w.read path = .ok bytes → Utf8.decode bytes = .ok t →
          ∃ u, Cli.readText w path = .ok u ∧ read u = read t := by
  refine ⟨fun lines t u hlines ht hu => ?_, fun w path bytes t hread hdecode => ?_⟩
  · apply read_eq_of_meaningful
    rw [meaningful_of_layout ht hlines, meaningful_of_layout hu hlines]
  · refine ⟨_, ?_, read_unifyNewlines t⟩
    simp only [Cli.readText, hread, hdecode]

/-- A mark, a comment before the header, blanks, and a carriage return
that runs into the end of an empty row; the same diagram in a file. -/
theorem read_eq_of_layout_mark :
    read "classDiagram\nA --> B".toList =
        read "\uFEFF%% x\r\tclassDiagram \r\nA --> B\n".toList ∧
      ∃ u, Cli.readText ⟨⟨[(["a".toList], .file (Utf8.encode "graph TB\r\nA".toList))]⟩, []⟩
          ⟨[], ["a".toList]⟩ = .ok u ∧ read u = read "graph TB\r\nA".toList := by
  have hnone : Padding [] := ⟨rfl, by decide⟩
  have hplain : SetOut ["classDiagram".toList, "A --> B".toList] "classDiagram\nA --> B".toList := by
    have hlast := SetOut.lastLine (@Holds.padded "A --> B".toList _ _ hnone hnone)
    exact SetOut.line (@Holds.padded "classDiagram".toList _ _ hnone hnone) .lf hlast
  have hspread : SetOut ["classDiagram".toList, "A --> B".toList]
      "%% x\r\tclassDiagram \r\nA --> B\n".toList := by
    have hlast := SetOut.line (@Holds.padded "A --> B".toList _ _ hnone hnone) .lf
      (.lastFiller (.blank hnone))
    have hblank := SetOut.filler (.blank hnone) .lf hlast
    have hheader := SetOut.line (@Holds.padded "classDiagram".toList ['\t'] [' ']
      ⟨by decide, by decide⟩ ⟨by decide, by decide⟩) .cr hblank
    exact SetOut.filler (@Filler.comment [] " x".toList hnone (by decide)) .cr hheader
  have hmarked : Layout ["classDiagram".toList, "A --> B".toList]
      "\uFEFF%% x\r\tclassDiagram \r\nA --> B\n".toList :=
    ⟨_, hspread, by decide, .inr (by decide)⟩
  refine ⟨read_eq_of_layout.1 _ _ _ (by decide) ⟨_, hplain, by decide, .inl rfl⟩ hmarked, ?_⟩
  exact read_eq_of_layout.2 _ _ (Utf8.encode "graph TB\r\nA".toList) _ (by decide) (by decide)

end DiagramGraph.Mermaid
