/-
DiagramGraph.Proofs.FlowHeader — the header of a flowchart and the lines
after it.

Two rules know the header: `flowDirection?`, which chooses the dialect,
takes any blanks between the keyword and the direction, and `directives`,
by which the reader passes over lines, wants a space right after the
keyword. The main statement is `read_flowchart`: a flowchart is read as
the lines after its header, and the header adds nothing to the graph; it
is itself left unread exactly if the blank after its keyword is not a
space.

  §1 Headers   — what a header looks like (`exists_of_flowDirection?`).
  §2 Reading   — a header with a space is passed over; any other one is
                 neither an edge nor a node, since the direction follows
                 the keyword where a glyph would have to stand.
-/
import DiagramGraph.Mermaid.Reader
import DiagramGraph.Proofs.FlowComposition
import DiagramGraph.Proofs.FlowRoundTrip

namespace DiagramGraph.Mermaid

open Text Flowchart

/-! ## §1 Headers -/

/-- The words that begin a header. -/
def headerWords : List Text := ["graph".toList, "flowchart".toList]

/-- A space follows the keyword of the header. -/
def SpacedHeader (header : Text) : Prop := ∃ word ∈ headerWords, word ++ [' '] <+: header

instance (header : Text) : Decidable (SpacedHeader header) :=
  inferInstanceAs (Decidable (∃ word ∈ headerWords, word ++ [' '] <+: header))

theorem exists_of_leadingDirection? {t direction : Text} (h : leadingDirection? t = some direction) :
    ∃ c rest, t = c :: rest ∧ isWord c = true := by
  have hmem := List.mem_of_find?_eq_some h
  have hword : ∀ d ∈ directions, ∃ c rest, d = c :: rest ∧ isWord c = true := by
    simp only [directions, List.forall_mem_cons]
    exact ⟨⟨_, _, rfl, by decide⟩, ⟨_, _, rfl, by decide⟩, ⟨_, _, rfl, by decide⟩,
      ⟨_, _, rfl, by decide⟩, ⟨_, _, rfl, by decide⟩, by simp⟩
  obtain ⟨c, more, rfl, hc⟩ := hword direction hmem
  have hafter := List.find?_some h
  cases hrest : after? (c :: more) t with
  | none => simp [hrest] at hafter
  | some rest => exact ⟨c, more ++ rest, by simpa using after?_eq_some_iff.mp hrest, hc⟩

/-- A header is a keyword, blanks, and then a word character: the first
one of the direction. -/
theorem exists_of_flowDirection? {header direction : Text}
    (h : flowDirection? header = some direction) :
    ∃ word ∈ headerWords, ∃ b pad c rest, header = word ++ b :: (pad ++ c :: rest) ∧
      isBlank b = true ∧ (∀ x ∈ pad, isBlank x = true) ∧ isWord c = true := by
  unfold flowDirection? at h
  split at h
  · next b more hmore =>
    split at h
    · next hb =>
      obtain ⟨c, rest, hstart, hc⟩ := exists_of_leadingDirection? h
      have hsplit : more = more.takeWhile isBlank ++ c :: rest := by
        rw [← hstart, trimStart, List.takeWhile_append_dropWhile]
      have hpad : ∀ x ∈ more.takeWhile isBlank, isBlank x = true :=
        List.all_eq_true.mp List.all_takeWhile
      rcases Option.or_eq_some_iff.mp hmore with hafter | ⟨-, hafter⟩
      · refine ⟨"graph".toList, by simp [headerWords], b, _, c, rest, ?_, hb, hpad, hc⟩
        rw [← hsplit]
        exact after?_eq_some_iff.mp hafter
      · refine ⟨"flowchart".toList, by simp [headerWords], b, _, c, rest, ?_, hb, hpad, hc⟩
        rw [← hsplit]
        exact after?_eq_some_iff.mp hafter
    · simp at h
  · simp at h

theorem isName_of_mem_headerWords : ∀ word ∈ headerWords, IsName word := by decide

/-- A header says something. -/
theorem isMeaningful_of_flowDirection? {header direction : Text}
    (h : flowDirection? header = some direction) : isMeaningful header = true := by
  obtain ⟨word, hword, b, pad, c, rest, rfl, -⟩ := exists_of_flowDirection? h
  rcases List.mem_pair.mp hword with rfl | rfl <;> rfl

/-! ## §2 Reading -/

/-- What is neither a semicolon nor a blank stays, and so does all that
stands before it. -/
theorem exists_dropSemicolons {c : Char} (hsemicolon : c ≠ ';') (hblank : isBlank c = false)
    (before after : Text) : ∃ rest, dropSemicolons (before ++ c :: after) = before ++ c :: rest := by
  have hturned : (before ++ c :: after).reverse = after.reverse ++ c :: before.reverse := by simp
  have hdrop : (before ++ c :: after).reverse.dropWhile (· == ';') =
      after.reverse.dropWhile (· == ';') ++ c :: before.reverse := by
    rw [hturned]
    exact dropWhile_append_cons (by simpa using hsemicolon) _ _
  refine ⟨((after.reverse.dropWhile (· == ';')).dropWhile isBlank).reverse, ?_⟩
  rw [dropSemicolons, hdrop, trimEnd, List.reverse_reverse, dropWhile_append_cons hblank]
  simp

/-- A header with a space after its keyword is a directive. -/
theorem startsWithAny_of_spacedHeader {header : Text} (h : SpacedHeader header) :
    startsWithAny directives header = true := by
  obtain ⟨word, hword, hp⟩ := h
  have hmem : word ++ [' '] ∈ directives := by
    have hall : ∀ w ∈ headerWords, directives.contains (w ++ [' ']) = true := by decide
    exact List.contains_iff_mem.mp (hall word hword)
  exact List.any_eq_true.mpr ⟨_, hmem, List.isPrefixOf_iff_prefix.mpr hp⟩

section Unspaced

variable {word : Text} {b : Char}

/-- With another blank after its keyword it is none. -/
theorem startsWithAny_of_ne_space (hword : word ∈ headerWords) (hb : isBlank b = true)
    (hspace : b ≠ ' ') (rest : Text) : startsWithAny directives (word ++ b :: rest) = false := by
  refine not_startsWithAny_directives fun w hw hp => ?_
  have hname : IsName word := isName_of_mem_headerWords word hword
  have hnames : ∀ w ∈ directiveWords, IsName w := by decide
  -- both words end before the blank that follows them
  obtain ⟨more, hmore⟩ := hp
  rw [List.append_assoc, List.singleton_append] at hmore
  have hafter := congrArg (List.dropWhile isWord) hmore
  rw [(hnames w hw).dropWhile_append (by simp; decide),
    hname.dropWhile_append (by simpa using isWord_eq_false_of_isBlank hb)] at hafter
  exact hspace (List.cons.inj hafter).1.symm

/-- Nor is it an edge or a node. -/
theorem stepsOf_header (hword : word ∈ headerWords) (hb : isBlank b = true) {pad : Text}
    (hpad : ∀ x ∈ pad, isBlank x = true) {c : Char} (hc : isWord c = true) (rest : Text) :
    stepsOf (word ++ b :: (pad ++ c :: rest)) = [.setAside (word ++ b :: (pad ++ c :: rest))] := by
  have hname : IsName word := isName_of_mem_headerWords word hword
  have htokens := tokens_name_append hname (endsToken_blank hb (pad ++ c :: rest))
  have hstart : trimStart (b :: (pad ++ c :: rest)) = c :: rest := by
    have hall : ∀ x ∈ b :: pad, isBlank x = true := by simpa using ⟨hb, hpad⟩
    rw [← List.cons_append, trimStart, List.dropWhile_append_of_pos hall]
    simp [isBlank_eq_false_of_isWord hc]
  have hedge : Edge.ofLine? (word ++ b :: (pad ++ c :: rest)) = none := by
    refine ofLine?_eq_none fun s hs g hg hp => ?_
    rw [htokens, List.mem_singleton] at hs
    subst hs
    rw [hstart] at hp
    obtain ⟨-, -, -, hne, hword⟩ := sign_of_mem_flowGlyphs g hg
    cases hsign : g.sign with
    | nil => exact hne hsign
    | cons x more =>
      rw [hsign] at hp hword
      obtain ⟨rfl, -⟩ := List.cons_prefix_cons.mp hp
      simp [hc] at hword
  have hlast : lastToken? (word ++ b :: (pad ++ c :: rest)) = none := by
    rw [lastToken?, htokens]
    simp [atEnd]
  have hgrouping : isGrouping (word ++ b :: (pad ++ c :: rest)) = false := by
    have hletters : ("end".toList ++ "subgraph".toList).all (fun m => !isBlank m) = true := by decide
    have hnot : b ∉ "end".toList ++ "subgraph".toList := by
      intro hm
      simpa [hb] using List.all_eq_true.mp hletters b hm
    exact isGrouping_eq_false_of_mem (by simp) (not_or.mp (mt List.mem_append.mpr hnot))
  simp [stepsOf, hedge, hlast, hgrouping]

end Unspaced

/-- The steps of a header: none, or it is set aside. -/
theorem stepsOfLines_header {header direction : Text} (h : flowDirection? header = some direction) :
    stepsOfLines [header] =
      if SpacedHeader header then [] else [.setAside (dropSemicolons header)] := by
  split
  · next hspaced =>
    simp [stepsOfLines, statements, startsWithAny_of_spacedHeader hspaced]
  · next hspaced =>
    have hmeaningful := isMeaningful_of_flowDirection? h
    obtain ⟨word, hword, b, pad, c, rest, rfl, hb, hpad, hc⟩ := exists_of_flowDirection? h
    have hspace : b ≠ ' ' := by
      rintro rfl
      exact hspaced ⟨word, hword, by simp⟩
    have hdirective := startsWithAny_of_ne_space hword hb hspace (pad ++ c :: rest)
    have hsemicolon : c ≠ ';' := by
      rintro rfl
      exact absurd hc (by decide)
    obtain ⟨more, hmore⟩ := exists_dropSemicolons hsemicolon (isBlank_eq_false_of_isWord hc)
      (word ++ b :: pad) rest
    simp only [List.append_assoc, List.cons_append] at hmore
    have hstatements : statements directives [word ++ b :: (pad ++ c :: rest)] =
        [word ++ b :: (pad ++ c :: rest)] := by
      simp [statements, hmeaningful, hdirective]
    rw [stepsOfLines, hstatements, List.map_singleton, hmore, List.flatMap_singleton,
      stepsOf_header hword hb hpad hc]

/-- Lines that say nothing have no steps. -/
theorem stepsOfLines_eq_nil {lines : List Text} (h : ∀ line ∈ lines, isMeaningful line = false) :
    stepsOfLines lines = [] := by
  have hnone : statements directives lines = [] :=
    List.filter_eq_nil_iff.mpr fun line hline => by simp [h line hline]
  rw [stepsOfLines, hnone]
  rfl

/-- A diagram of no graph adds only what it left unread. -/
theorem followedBy_of_unread (unread : List Text) (e : Diagram) :
    Diagram.followedBy ⟨[], [], e.dialect, e.orientation, unread⟩ e =
      { e with unread := unread ++ e.unread } := by
  simp [Diagram.followedBy]

/-- The lines up to a header add nothing to the graph of the lines after it. -/
theorem readLines_header {header direction : Text} (h : flowDirection? header = some direction)
    {before : List Text} (hbefore : ∀ line ∈ before, isMeaningful line = false) (after : List Text)
    (orientation : Option Text) :
    readLines (before ++ header :: after) orientation =
      { readLines after orientation with
        unread := (if SpacedHeader header then [] else [dropSemicolons header]) ++
          (readLines after orientation).unread } := by
  rw [readLines_eq_draftAfter, readLines_eq_draftAfter, stepsOfLines_append,
    stepsOfLines_eq_nil hbefore, List.nil_append, ← List.singleton_append, stepsOfLines_append,
    finish_draftAfter_append _ (bodiless_stepsOfLines after), stepsOfLines_header h]
  split
  · exact followedBy_of_unread [] _
  · exact followedBy_of_unread [dropSemicolons header] _

/-- A flowchart is read as the lines after its header: whatever follows
the direction, the header adds no node and no link. It is left unread if
another blank than a space follows its keyword, and only then. -/
theorem read_flowchart {t header : Text} {before after : List Text}
    (hlines : trimmedLines t = before ++ header :: after)
    (hbefore : ∀ line ∈ before, isMeaningful line = false) (hheader : isMeaningful header = true)
    (hdialect : dialect? t = some .flowchart) (orientation : Option Text) :
    (read t).nodes = (readLines after orientation).nodes ∧
      (read t).links = (readLines after orientation).links ∧
      (read t).unread = (if SpacedHeader header then [] else [dropSemicolons header]) ++
        (readLines after orientation).unread := by
  have hfirst : firstStatement? (trimmedLines t) = some header := by
    rw [hlines]
    exact List.find?_eq_some_iff_append.mpr ⟨hheader, before, after, rfl, by simpa using hbefore⟩
  obtain ⟨direction, hdirection⟩ : ∃ direction, flowDirection? header = some direction := by
    rw [dialect?, hfirst] at hdialect
    refine Option.isSome_iff_exists.mp ?_
    by_contra hnone
    simp [hnone] at hdialect
  have hread : read t = readLines (before ++ header :: after) (some direction) := by
    rw [← hlines]
    simp only [read, hfirst, hdirection]
  rw [hread, readLines_header hdirection hbefore]
  exact ⟨rfl, rfl, rfl⟩

/-- A header with a space, more blanks and an edge after the direction is
passed over. -/
theorem read_flowchart_trailing :
    let t := "%% c\n graph \t LR --> A;\nB\n?".toList
    trimmedLines t = ["%% c".toList] ++ "graph \t LR --> A;".toList :: ["B".toList, "?".toList] ∧
      dialect? t = some .flowchart ∧ (read t).unread = ["?".toList] := by
  intro t
  have hlines : trimmedLines t =
      ["%% c".toList] ++ "graph \t LR --> A;".toList :: ["B".toList, "?".toList] := by decide +kernel
  have hdialect : dialect? t = some .flowchart := by decide +kernel
  obtain ⟨-, -, hunread⟩ := read_flowchart hlines (by decide) (by decide) hdialect none
  exact ⟨hlines, hdialect, hunread.trans (by decide +kernel)⟩

/-- A tab after the keyword makes the header a statement that is left unread. -/
theorem read_flowchart_tab :
    let t := "graph\tLR\nA --> B".toList
    trimmedLines t = ["graph\tLR".toList, "A --> B".toList] ∧ dialect? t = some .flowchart ∧
      (read t).unread = ["graph\tLR".toList] ∧
      ∀ orientation, (readLines ["A --> B".toList] orientation).unread = [] := by
  intro t
  refine ⟨by decide +kernel, by decide +kernel, by decide +kernel, fun orientation => ?_⟩
  have hnone : (readLines ["A --> B".toList] none).unread = [] := by decide +kernel
  exact hnone

end DiagramGraph.Mermaid
