/-
DiagramGraph.Proofs.EdgeGrammar — the lines of a flowchart that link two
nodes, as a grammar.

The main statement is `addEdge_grammar`. Two written nodes with a glyph
between them, with any blanks and with a label in one of its two forms or
with none, are read as the edge that they write, whatever the texts of
their shapes hold and whatever was read before.

  §1 Glyphs  — at the place of a glyph, that glyph comes first among
               those that stand there, unless a stroke follows it.
  §2 Labels  — a spaced label comes before all that is longer, and no
               arrow follows what is shorter.
  §3 Forms   — a piped edge is the first thing that the first form reads.
               A line without a bar is no piped edge, and a bare edge is
               no spaced one: an arrow after its dash can only stand in
               the shape of the second node, and no token starts there and
               reaches to the end of the line.
  §4 Grammar — the three forms together, read into a draft.
-/
import DiagramGraph.Proofs.DraftTheorems
import DiagramGraph.Proofs.NodeTokens

namespace DiagramGraph.Mermaid

open Text Label

/-! ## §1 Glyphs -/

/-- A glyph is made of strokes. -/
theorem strokes_of_mem_flowGlyphs (g : FlowGlyph) (hg : g ∈ flowGlyphs) :
    g.sign ≠ [] ∧ ∀ c ∈ g.sign, c ∈ strokes := by
  have hall : ∀ g ∈ flowGlyphs, g.sign ≠ [] ∧
      g.sign.all (fun c => decide (c ∈ strokes)) = true := by decide
  exact ⟨(hall g hg).1, forall_mem_of_all (hall g hg).2⟩

/-- No stroke stands in a name, among blanks or in a mark. -/
theorem spec_of_mem_strokes : ∀ c ∈ strokes, isWord c = false ∧ isBlank c = false ∧
    c ∉ openers ∧ c ∉ closers ∧ c ∉ ":::".toList ∧ c ≠ '|' :=
  forall_mem_of_all (by decide)

/-- The glyph that also begins a spaced label. -/
def dash : FlowGlyph := ⟨"--".toList, .link⟩

theorem sign_dash : dash.sign = "--".toList := rfl

theorem dash_mem_flowGlyphs : dash ∈ flowGlyphs := by decide

theorem mem_flowGlyphs_of_mem_flowArrows : ∀ g ∈ flowArrows, g ∈ flowGlyphs :=
  fun _ hg => (List.mem_filter.mp hg).1

theorem stroke_not_mem_blanks {pad : Text} (hpad : pad.all isBlank = true) {c : Char}
    (hc : c ∈ strokes) : c ∉ pad := by
  intro hm
  have hblank := List.all_eq_true.mp hpad c hm
  rw [(spec_of_mem_strokes c hc).2.1] at hblank
  exact absurd hblank (by decide)

/-- Blanks before a glyph are skipped. -/
theorem trimStart_sign {g : FlowGlyph} (hg : g ∈ flowGlyphs) {pad : Text}
    (hpad : pad.all isBlank = true) (rest : Text) :
    trimStart (pad ++ (g.sign ++ rest)) = g.sign ++ rest := by
  obtain ⟨hne, hstroke⟩ := strokes_of_mem_flowGlyphs g hg
  rw [trimStart_append hpad]
  refine trimStart_eq_self fun c hc => ?_
  obtain ⟨d, sign, hsign⟩ := List.exists_cons_of_ne_nil hne
  obtain rfl : d = c := by simpa [hsign] using hc
  exact (spec_of_mem_strokes d (hstroke d (by simp [hsign]))).2.1

/-- Blanks and a glyph separate two nodes. -/
theorem isSeparator_sign {g : FlowGlyph} (hg : g ∈ flowGlyphs) {pad pad' : Text}
    (hpad : pad.all isBlank = true) (hpad' : pad'.all isBlank = true) :
    IsSeparator (pad ++ (g.sign ++ pad')) := by
  obtain ⟨hne, hstroke⟩ := strokes_of_mem_flowGlyphs g hg
  refine ⟨by simp [hne], fun c hc => ?_⟩
  simp only [List.mem_append] at hc
  rcases hc with hc | hc | hc
  · exact .inl (List.all_eq_true.mp hpad c hc)
  · exact .inr (hstroke c hc)
  · exact .inl (List.all_eq_true.mp hpad' c hc)

theorem endsToken_sign {g : FlowGlyph} (hg : g ∈ flowGlyphs) {pad : Text}
    (hpad : pad.all isBlank = true) (rest : Text) : EndsToken (pad ++ (g.sign ++ rest)) := by
  have hnil : ([] : Text).all isBlank = true := rfl
  simpa using (isSeparator_sign hg hpad hnil).endsToken rest

/-- A glyph of the catalog does not start with an earlier one. -/
theorem pairwise_flowGlyphs : flowGlyphs.Pairwise fun earlier g => ¬ earlier.sign <+: g.sign := by
  decide

theorem pairwise_flowArrows : flowArrows.Pairwise fun earlier g => ¬ earlier.sign <+: g.sign :=
  pairwise_flowGlyphs.filter _

/-- So an earlier one stands where a later one does only if a stroke follows. -/
theorem not_prefix_sign_append {earlier g : FlowGlyph} (hearlier : earlier ∈ flowGlyphs)
    (horder : ¬ earlier.sign <+: g.sign) {rest : Text} (hrest : ∀ c ∈ rest.head?, c ∉ strokes) :
    ¬ earlier.sign <+: g.sign ++ rest := by
  intro hp
  obtain ⟨more, hmore⟩ :=
    (List.prefix_or_prefix_of_prefix hp (List.prefix_append _ _)).resolve_left horder
  cases more with
  | nil => exact horder ⟨[], by simpa using hmore.symm⟩
  | cons c more =>
    have hc : c ∈ strokes := (strokes_of_mem_flowGlyphs earlier hearlier).2 c (by simp [← hmore])
    obtain ⟨tail, htail⟩ := hp
    rw [← hmore, List.append_assoc] at htail
    exact hrest c (by simp [← List.append_cancel_left htail]) hc

/-- At the place of a glyph, the glyph is found first. -/
theorem glyphs_sign {gs : List FlowGlyph} (hgs : gs.Pairwise fun earlier g => ¬ earlier.sign <+: g.sign)
    (hflow : ∀ g ∈ gs, g ∈ flowGlyphs) {g : FlowGlyph} (hg : g ∈ gs) {pad : Text}
    (hpad : pad.all isBlank = true) {rest : Text} (hrest : ∀ c ∈ rest.head?, c ∉ strokes) :
    ∃ others, Edge.glyphs gs (pad ++ (g.sign ++ rest)) = (g, rest) :: others := by
  obtain ⟨before, after, rfl⟩ := List.append_of_mem hg
  have hearlier : before.filterMap (fun e => (after? e.sign (g.sign ++ rest)).map (fun r => (e, r))) =
      [] := by
    refine List.filterMap_eq_nil_iff.mpr fun e he => ?_
    rw [Option.map_eq_none_iff]
    have horder := (List.pairwise_append.mp hgs).2.2 e he g (by simp)
    exact if_neg fun hp => not_prefix_sign_append (hflow e (by simp [he])) horder hrest
      (List.isPrefixOf_iff_prefix.mp hp)
  rw [Edge.glyphs, trimStart_sign (hflow g hg) hpad, List.filterMap_append, hearlier, List.nil_append,
    List.filterMap_cons, after?_append]
  exact ⟨_, rfl⟩

/-- A glyph that is found stands there, after blanks. -/
theorem of_mem_glyphs {gs : List FlowGlyph} {t rest : Text} {g : FlowGlyph}
    (h : (g, rest) ∈ Edge.glyphs gs t) : g ∈ gs ∧ trimStart t = g.sign ++ rest := by
  obtain ⟨e, he, hmap⟩ := List.mem_filterMap.mp h
  obtain ⟨r, hr, heq⟩ := Option.map_eq_some_iff.mp hmap
  obtain ⟨rfl, rfl⟩ := Prod.mk.inj heq
  exact ⟨he, after?_eq_some_iff.mp hr⟩

/-! ## §2 Labels -/

theorem afterBlanks_eq_nil {t : Text} (h : ∀ c ∈ t.head?, isBlank c = false) :
    Edge.afterBlanks t = [] := by
  cases t with
  | nil => rfl
  | cons c t => simp [Edge.afterBlanks, h c rfl]

/-- The longest run of blanks is tried first. -/
theorem afterBlanks_append {t : Text} (ht : ∀ c ∈ t.head?, isBlank c = false) : ∀ {pad : Text},
    pad ≠ [] → pad.all isBlank = true → ∃ others, Edge.afterBlanks (pad ++ t) = t :: others
  | [c], _, hpad => by
      have hc : isBlank c = true := by simpa using hpad
      exact ⟨[], by simp [Edge.afterBlanks, hc, afterBlanks_eq_nil ht]⟩
  | c :: d :: pad, _, hpad => by
      obtain ⟨hc, hpad⟩ : isBlank c = true ∧ (d :: pad).all isBlank = true := by
        simpa only [List.all_cons, Bool.and_eq_true] using hpad
      obtain ⟨others, hothers⟩ := afterBlanks_append ht (List.cons_ne_nil d pad) hpad
      refine ⟨others ++ [d :: (pad ++ t)], ?_⟩
      rw [List.cons_append] at hothers
      rw [List.cons_append, List.cons_append, Edge.afterBlanks, if_pos hc, hothers]
      rfl

theorem suffix_of_mem_afterBlanks : ∀ {t u : Text}, u ∈ Edge.afterBlanks t → u <:+ t
  | [], u, h => by simp [Edge.afterBlanks] at h
  | c :: t, u, h => by
      rw [Edge.afterBlanks] at h
      split at h
      · rcases List.mem_append.mp h with h | h
        · exact (suffix_of_mem_afterBlanks h).trans (List.suffix_cons c t)
        · rw [List.mem_singleton.mp h]
          exact List.suffix_cons c t
      · simp at h

/-- A label with a blank after it is among the labels, and those that come
before it are shorter. -/
theorem spacedLabels_append {rest : Text} {b : Char} (hrest : rest.head? = some b)
    (hb : isBlank b = true) : ∀ {label : Text}, label ≠ [] → '\n' ∉ label →
    ∃ shorter longer, Edge.spacedLabels (label ++ rest) = shorter ++ (label, rest) :: longer ∧
      ∀ s ∈ shorter, ∃ t, t ≠ [] ∧ label = s.1 ++ t ∧ s.2 = t ++ rest
  | [c], _, hline => by
      obtain ⟨tail, rfl⟩ : ∃ tail, rest = b :: tail := by
        cases rest with
        | nil => simp at hrest
        | cons d tail => exact ⟨tail, by simpa using hrest⟩
      have hc : c ≠ '\n' := by
        rintro rfl
        simp at hline
      refine ⟨[], (Edge.spacedLabels (b :: tail)).map fun s => (c :: s.1, s.2), ?_, by simp⟩
      rw [List.singleton_append, Edge.spacedLabels, if_neg hc]
      simp [hb]
  | c :: d :: label, _, hline => by
      obtain ⟨hc, hline⟩ := not_or.mp (mt List.mem_cons.mpr hline)
      obtain ⟨shorter, longer, hlabels, hshorter⟩ :=
        spacedLabels_append hrest hb (List.cons_ne_nil d label) hline
      refine ⟨(if isBlank d then [([c], d :: (label ++ rest))] else []) ++
        shorter.map fun s => (c :: s.1, s.2), longer.map fun s => (c :: s.1, s.2), ?_, ?_⟩
      · rw [List.cons_append] at hlabels
        rw [List.cons_append, List.cons_append, Edge.spacedLabels, if_neg (Ne.symm hc), hlabels]
        simp
      · intro s hs
        rcases List.mem_append.mp hs with hs | hs
        · split at hs
          · rw [List.mem_singleton.mp hs]
            exact ⟨d :: label, by simp, rfl, rfl⟩
          · simp at hs
        · obtain ⟨r, hr, rfl⟩ := List.mem_map.mp hs
          obtain ⟨t, ht, hlabel, hafter⟩ := hshorter r hr
          exact ⟨t, ht, by simp [hlabel], hafter⟩

/-- A label and the rest make up the text, and a blank follows the label. -/
theorem of_mem_spacedLabels : ∀ {t label rest : Text}, (label, rest) ∈ Edge.spacedLabels t →
    t = label ++ rest ∧ ∃ b ∈ rest.head?, isBlank b = true
  | [], label, rest, h => by simp [Edge.spacedLabels] at h
  | c :: t, label, rest, h => by
      unfold Edge.spacedLabels at h
      split at h
      · simp at h
      · rcases List.mem_append.mp h with h | h
        · cases t with
          | nil => simp at h
          | cons b t =>
            dsimp only at h
            split at h
            · next hb =>
              obtain ⟨rfl, rfl⟩ := Prod.mk.inj (List.mem_singleton.mp h)
              exact ⟨rfl, b, rfl, hb⟩
            · simp at h
        · obtain ⟨s, hs, he⟩ := List.mem_map.mp h
          obtain ⟨rfl, rfl⟩ := Prod.mk.inj he
          obtain ⟨ht, hblank⟩ := of_mem_spacedLabels hs
          exact ⟨by rw [ht, List.cons_append], hblank⟩

/-- No arrow follows where a label without arrows is cut too early. -/
theorem glyphs_cut_label {label start t rest : Text} (hlabel : label = start ++ t) (ht : t ≠ [])
    (htrim : Trimmed label) (harrow : ∀ arrow ∈ flowArrows, ¬ arrow.sign <:+: label) {b : Char}
    (hrest : rest.head? = some b) (hb : isBlank b = true) : Edge.glyphs flowArrows (t ++ rest) = [] := by
  obtain ⟨tail, rfl⟩ : ∃ tail, rest = b :: tail := List.head?_eq_some_iff.mp hrest
  obtain ⟨init, z, rfl⟩ : ∃ init z, t = init ++ [z] :=
    ⟨_, _, (List.dropLast_concat_getLast ht).symm⟩
  have hz : isBlank z = false := by
    refine (trim_eq_self_iff.mp htrim).2 z ?_
    rw [hlabel, ← List.append_assoc, List.getLast?_concat]
    rfl
  have hstart : trimStart ((init ++ [z]) ++ b :: tail) = trimStart (init ++ [z]) ++ b :: tail := by
    have hcut := dropWhile_append_cons hz
    rw [trimStart, trimStart, hcut [] init, List.append_assoc, List.singleton_append,
      hcut (b :: tail) init, List.append_assoc, List.singleton_append]
  refine glyphs_eq_nil fun arrow hmem hbegins => harrow arrow hmem ?_
  have hstrokes := (strokes_of_mem_flowGlyphs arrow (mem_flowGlyphs_of_mem_flowArrows arrow hmem)).2
  have hblank : b ∉ arrow.sign := by
    intro hm
    rw [(spec_of_mem_strokes b (hstrokes b hm)).2.1] at hb
    exact absurd hb (by decide)
  rw [hstart] at hbegins
  have hinside : arrow.sign <+: trimStart (init ++ [z]) := prefix_of_prefix_append_cons hblank hbegins
  have hsuffix : trimStart (init ++ [z]) <:+ label :=
    (suffix_trimStart _).trans ⟨start, hlabel.symm⟩
  exact hinside.isInfix.trans hsuffix.isInfix

/-- The edge whose label is cut off, with an arrow and the other node after it. -/
def arrowEdge? (left : Text) (s : Text × Text) : Option Edge :=
  (Edge.glyphs flowArrows s.2).findSome? fun (g, rest) =>
    (lastToken? (trimStart rest)).map fun right => ⟨left, right, flowRelation g.sign, s.1⟩

theorem spaced?_eq (line : Text) : Edge.spaced? line =
    (tokens line).findSome? fun s =>
      match after? "--".toList (trimStart s.2) with
      | none => none
      | some rest => ((Edge.afterBlanks rest).flatMap Edge.spacedLabels).findSome? (arrowEdge? s.1) :=
  rfl

/-- The parts of a spaced edge after its label. -/
theorem of_arrowEdge? {left : Text} {s : Text × Text} {e : Edge} (h : arrowEdge? left s = some e) :
    ∃ g ∈ flowArrows, ∃ rest, trimStart s.2 = g.sign ++ rest ∧
      ∃ right, lastToken? (trimStart rest) = some right ∧ e = ⟨left, right, g.relation, s.1⟩ := by
  obtain ⟨⟨g, rest⟩, hglyph, h⟩ := List.exists_of_findSome?_eq_some h
  obtain ⟨right, hright, rfl⟩ := Option.map_eq_some_iff.mp h
  obtain ⟨hg, htrim⟩ := of_mem_glyphs hglyph
  refine ⟨g, hg, rest, htrim, right, hright, ?_⟩
  rw [flowRelation_sign (mem_flowGlyphs_of_mem_flowArrows g hg)]

/-- The parts of a spaced edge before its label: a token, two dashes and blanks. -/
theorem of_spaced? {line : Text} {e : Edge} (h : Edge.spaced? line = some e) :
    ∃ left rest, (left, rest) ∈ tokens line ∧
      ∃ dashed, after? "--".toList (trimStart rest) = some dashed ∧
      ∃ start ∈ Edge.afterBlanks dashed, ∃ s ∈ Edge.spacedLabels start, arrowEdge? left s = some e := by
  rw [spaced?_eq] at h
  obtain ⟨⟨left, rest⟩, htoken, h⟩ := List.exists_of_findSome?_eq_some h
  split at h
  · exact absurd h (by simp)
  · next dashed hdashed =>
    obtain ⟨s, hs, hedge⟩ := List.exists_of_findSome?_eq_some h
    obtain ⟨start, hstart, hlabel⟩ := List.mem_flatMap.mp hs
    exact ⟨left, rest, htoken, dashed, hdashed, start, hstart, s, hlabel, hedge⟩

/-! ## §3 Forms -/

/-- A line without a bar is no piped edge. -/
theorem piped?_eq_none {line : Text} (h : '|' ∉ line) : Edge.piped? line = none := by
  rw [Edge.piped?, List.findSome?_eq_none_iff]
  rintro ⟨left, rest⟩ hmem
  rw [List.findSome?_eq_none_iff]
  rintro ⟨g, rest'⟩ hglyph
  have hbar : '|' ∉ trimStart rest' := by
    intro hm
    have hrest : '|' ∈ trimStart rest := by
      rw [(of_mem_glyphs hglyph).2]
      exact List.mem_append_right _ ((suffix_trimStart rest').subset hm)
    rw [append_of_mem_tokens hmem] at h
    exact h (List.mem_append_right left ((suffix_trimStart rest).subset hrest))
  have hlabel : Edge.pipedLabel? rest' = none :=
    pipedLabel?_eq_none fun c hc he => hbar (he ▸ List.mem_of_mem_head? hc)
  simp only [hlabel]

/-- No token starts before a closing mark and reaches to the end of the
line, unless a shape opens there. -/
theorem lastToken?_eq_none {t : Text} (ht : ∀ c ∈ t, c ∉ openers) {c : Char} (hc : c ∈ closers)
    (rest : Text) : lastToken? (t ++ c :: rest) = none := by
  obtain ⟨hword, -, hcolon⟩ := spec_of_mem_marks (.inr hc)
  have hstarts : shapes.flatMap (Shape.starts (t.dropWhile isWord ++ c :: rest)) = [] := by
    refine starts_eq_nil fun d hd => ?_
    cases hdrop : t.dropWhile isWord with
    | nil =>
      obtain rfl : c = d := by simpa [hdrop] using hd
      exact fun ho => not_mem_closers ho hc
    | cons x u =>
      obtain rfl : x = d := by simpa [hdrop] using hd
      exact ht x ((List.dropWhile_sublist isWord).subset (by simp [hdrop]))
  have hend : atEnd ((takeStyle (t.dropWhile isWord)).2 ++ c :: rest) = false := by
    have hfeed : c ≠ '\n' := by
      rintro rfl
      exact absurd hc (by decide)
    cases (takeStyle (t.dropWhile isWord)).2 with
    | nil => simp [atEnd, hfeed]
    | cons x u => simp [atEnd]
  rw [lastToken?, tokens]
  simp only [takeWhile_append_cons hword, dropWhile_append_cons hword, hstarts]
  split
  · rfl
  · simp [snd_takeStyle_append hcolon hword, hend]

namespace WrittenNode

variable (n : WrittenNode)

/-- A glyph in a written node stands in the text of its shape. -/
theorem of_sign {g : FlowGlyph} (hg : g ∈ flowGlyphs) {before after : Text}
    (h : n.text = before ++ (g.sign ++ after)) :
    ∃ s t rest, n.shaped = some s ∧ s.text = t ++ (g.sign ++ rest) ∧
      after = rest ++ (s.shape.closing ++ n.styleText) := by
  obtain ⟨hne, hstroke⟩ := strokes_of_mem_flowGlyphs g hg
  have hid : ∀ c ∈ g.sign, c ∉ n.id :=
    fun c hc => n.isName.not_mem (spec_of_mem_strokes c (hstroke c hc)).1
  have hstyle : ∀ c ∈ g.sign, c ∉ n.styleText := by
    intro c hc
    obtain ⟨hword, -, -, -, hcolon, -⟩ := spec_of_mem_strokes c (hstroke c hc)
    exact n.not_mem_styleText hword hcolon
  obtain ⟨t, -, hrest⟩ := append_eq_of_disjoint_left hne hid h
  obtain ⟨u, hshape, hafter⟩ := append_eq_of_disjoint_right hne hstyle hrest
  cases hshaped : n.shaped with
  | none =>
    rw [n.shapeText_of_none hshaped] at hshape
    simp [hne] at hshape
  | some s =>
    obtain ⟨-, -, hopen, hclose⟩ := marks_of_mem_shapes s.shape s.mem
    rw [n.shapeText_of_some hshaped, ShapedText.chars] at hshape
    obtain ⟨v, -, hinner⟩ := append_eq_of_disjoint_left hne
      (fun c hc hm => (spec_of_mem_strokes c (hstroke c hc)).2.2.1 (hopen c hm)) hshape
    obtain ⟨w, htext, rfl⟩ := append_eq_of_disjoint_right hne
      (fun c hc hm => (spec_of_mem_strokes c (hstroke c hc)).2.2.2.1 (hclose c hm)) hinner
    exact ⟨s, v, w, rfl, htext, by simpa using hafter⟩

/-- No token starts after a glyph of the shape and reaches to the end. -/
theorem lastToken?_after_sign {g : FlowGlyph} (hg : g ∈ flowGlyphs) {before after : Text}
    (h : n.text = before ++ (g.sign ++ after)) : lastToken? (trimStart after) = none := by
  obtain ⟨s, t, rest, -, htext, rfl⟩ := n.of_sign hg h
  obtain ⟨-, c, closing, hclosing, hc⟩ := exists_marks_cons s.mem
  have htrim : trimStart (rest ++ (s.shape.closing ++ n.styleText)) =
      trimStart rest ++ c :: (closing ++ n.styleText) := by
    rw [hclosing, List.cons_append]
    exact dropWhile_append_cons (spec_of_mem_marks (.inr hc)).2.1 _ rest
  rw [htrim]
  refine lastToken?_eq_none (fun d hd ho => ?_) hc _
  exact s.opener_not_mem_text ho (by simp [htext, (suffix_trimStart rest).subset hd])

/-- No bar and no line feed stands in a written node. -/
theorem not_mem_text {c : Char} (hc : c ∈ ['|', '\n']) : c ∉ n.text := by
  have hspec : ∀ c ∈ ['|', '\n'], isWord c = false ∧ c ∉ openers ∧ c ∉ closers ∧
      c ∉ ":::".toList := forall_mem_of_all (by decide)
  obtain ⟨hword, hopener, hcloser, hcolon⟩ := hspec c hc
  have hshape : c ∉ n.shapeText := by
    cases hshaped : n.shaped with
    | none => simp [n.shapeText_of_none hshaped]
    | some s =>
      obtain ⟨-, -, hopen, hclose⟩ := marks_of_mem_shapes s.shape s.mem
      rw [n.shapeText_of_some hshaped, ShapedText.chars]
      simp only [List.mem_append, not_or]
      exact ⟨fun hm => hopener (hopen c hm), s.not_mem_text (List.mem_append_right _ hc),
        fun hm => hcloser (hclose c hm)⟩
  simp only [text, List.mem_append, not_or]
  exact ⟨n.isName.not_mem hword, hshape, n.not_mem_styleText hword hcolon⟩

/-- A written node after blanks is the token that ends the line. -/
theorem lastToken?_blanks {pad : Text} (hpad : pad.all isBlank = true) :
    lastToken? (trimStart (pad ++ n.text)) = some n.text := by
  rw [trimStart_append hpad, trimStart_eq_self (trim_eq_self_iff.mp n.trimmed_text).1,
    n.lastToken?_text]

end WrittenNode

/-- What follows the two dashes of a spaced edge at the place of a glyph:
the rest after it, if it is the dash, else no blank. -/
theorem afterBlanks_sign {g : FlowGlyph} (hg : g ∈ flowGlyphs) {t rest : Text}
    (h : after? "--".toList (g.sign ++ t) = some rest) :
    (g.sign = "--".toList ∧ rest = t) ∨ Edge.afterBlanks rest = [] := by
  obtain ⟨-, hstroke⟩ := strokes_of_mem_flowGlyphs g hg
  have hlong : ∀ g ∈ flowGlyphs, "--".toList.length ≤ g.sign.length := by decide
  have hline : g.sign ++ t = "--".toList ++ rest := after?_eq_some_iff.mp h
  obtain ⟨more, hmore⟩ : "--".toList <+: g.sign :=
    List.prefix_of_prefix_length_le ⟨rest, hline.symm⟩ (List.prefix_append _ t) (hlong g hg)
  rw [← hmore, List.append_assoc] at hline
  obtain rfl := List.append_cancel_left hline
  cases more with
  | nil => exact .inl ⟨by simpa using hmore.symm, rfl⟩
  | cons c more =>
    refine .inr (afterBlanks_eq_nil fun d hd => ?_)
    obtain rfl : c = d := by simpa using hd
    exact (spec_of_mem_strokes c (hstroke c (by simp [← hmore]))).2.1

theorem head?_not_stroke {pad rest : Text} (hpad : pad.all isBlank = true)
    (hrest : ∀ c ∈ rest.head?, c ∉ strokes) : ∀ c ∈ (pad ++ rest).head?, c ∉ strokes := by
  intro c hc hstroke
  cases pad with
  | nil => exact hrest c hc hstroke
  | cons b pad =>
    obtain rfl : b = c := by simpa using hc
    exact stroke_not_mem_blanks hpad hstroke (by simp)

theorem WrittenNode.head?_not_stroke (n : WrittenNode) : ∀ c ∈ n.text.head?, c ∉ strokes := by
  intro c hc hstroke
  obtain ⟨d, t, htext, hd⟩ := n.exists_text_cons
  obtain rfl : d = c := by simpa [htext] using hc
  rw [(spec_of_mem_strokes d hstroke).1] at hd
  exact absurd hd (by decide)

/-- A glyph after a token of a line of nodes stands between two of them. -/
theorem of_glyph_joined {α : Type} {sep : α → Text} {n : WrittenNode} {more : List (α × WrittenNode)}
    (hsep : ∀ x ∈ more, IsSeparator (sep x.1)) {token rest : Text}
    (h : (token, rest) ∈ tokens (n.text ++ joined sep more)) {g : FlowGlyph} (hg : g ∈ flowGlyphs)
    {rest' : Text} (hglyph : trimStart rest = g.sign ++ rest') :
    ∃ passed x m ahead, more = passed ++ (x, m) :: ahead ∧ OneToken n passed ∧
      token = n.text ++ joined sep passed ∧ rest = sep x ++ (m.text ++ joined sep ahead) := by
  obtain ⟨hne, hstroke⟩ := strokes_of_mem_flowGlyphs g hg
  rcases of_mem_tokens_joined hsep h with ⟨c, t, rfl, hc⟩ | ⟨passed, ahead, rfl, hone, rfl, rfl⟩
  · have hblank : isBlank c = false := (spec_of_mem_marks hc).2.1
    obtain ⟨d, sign, hsign⟩ := List.exists_cons_of_ne_nil hne
    have hcons : c :: t = d :: (sign ++ rest') := by
      rwa [trimStart_eq_self (t := c :: t) (by simpa using hblank), hsign, List.cons_append] at hglyph
    obtain ⟨rfl, -⟩ := List.cons.inj hcons
    obtain ⟨-, -, ho, hcl, -⟩ := spec_of_mem_strokes c (hstroke c (by simp [hsign]))
    exact absurd hc (not_or.mpr ⟨ho, hcl⟩)
  · cases ahead with
    | nil => simp [hne] at hglyph
    | cons x ahead => exact ⟨passed, x.1, x.2, ahead, rfl, hone, rfl, rfl⟩

section Forms

variable (a b : WrittenNode) {g : FlowGlyph} {w w' : Text}

theorem bare?_written (hg : g ∈ flowGlyphs) (hw : w.all isBlank = true) (hw' : w'.all isBlank = true) :
    Edge.bare? (a.text ++ (w ++ (g.sign ++ (w' ++ b.text)))) =
      some ⟨a.text, b.text, g.relation, []⟩ := by
  obtain ⟨_, htokens⟩ := a.tokens_text (endsToken_sign hg hw (w' ++ b.text))
  obtain ⟨_, hglyphs⟩ :=
    glyphs_sign pairwise_flowGlyphs (fun _ h => h) hg hw (head?_not_stroke hw' b.head?_not_stroke)
  rw [Edge.bare?, htokens, List.findSome?_cons]
  simp only [hglyphs, List.findSome?_cons, b.lastToken?_blanks hw', Option.map_some,
    flowRelation_sign hg]

/-- A bare edge is no spaced one. -/
theorem spaced?_bare (hg : g ∈ flowGlyphs) (hw : w.all isBlank = true) (hw' : w'.all isBlank = true) :
    Edge.spaced? (a.text ++ (w ++ (g.sign ++ (w' ++ b.text)))) = none := by
  have hline : a.text ++ (w ++ (g.sign ++ (w' ++ b.text))) =
      a.text ++ joined id [(w ++ (g.sign ++ w'), b)] := by simp [joined]
  have hsep : ∀ x ∈ [(w ++ (g.sign ++ w'), b)], IsSeparator (id x.1) := by
    simpa using isSeparator_sign hg hw hw'
  refine Option.eq_none_iff_forall_ne_some.mpr fun e he => ?_
  obtain ⟨left, rest, htoken, dashed, hdashed, start, hstart, s, hs, hedge⟩ := of_spaced? he
  rw [hline] at htoken
  obtain ⟨passed, x, m, ahead, hmore, -, -, rfl⟩ :=
    of_glyph_joined hsep htoken dash_mem_flowGlyphs (after?_eq_some_iff.mp hdashed)
  obtain ⟨rfl, hx, rfl⟩ : passed = [] ∧ (x, m) = (w ++ (g.sign ++ w'), b) ∧ ahead = [] := by
    cases passed with
    | nil => simpa using hmore.symm
    | cons y passed => simp at hmore
  obtain ⟨rfl, rfl⟩ := Prod.mk.inj hx
  have hafter : trimStart (id (w ++ (g.sign ++ w')) ++ (m.text ++ joined id [])) =
      g.sign ++ (w' ++ m.text) := by
    simpa using trimStart_sign hg hw (w' ++ m.text)
  rw [hafter] at hdashed
  rcases afterBlanks_sign hg hdashed with ⟨-, rfl⟩ | hnil
  · -- an arrow after the dash stands in the second node
    obtain ⟨arrow, hmem, rest', htrim, right, hright, -⟩ := of_arrowEdge? hedge
    have harrow := mem_flowGlyphs_of_mem_flowArrows arrow hmem
    obtain ⟨hne, hstroke⟩ := strokes_of_mem_flowGlyphs arrow harrow
    obtain ⟨u, hu⟩ : arrow.sign ++ rest' <:+ w' ++ m.text := by
      rw [← htrim]
      refine (suffix_trimStart s.2).trans (List.IsSuffix.trans ?_ (suffix_of_mem_afterBlanks hstart))
      exact ⟨s.1, (of_mem_spacedLabels hs).1.symm⟩
    obtain ⟨t, -, htext⟩ := append_eq_of_disjoint_left hne
      (fun c hc => stroke_not_mem_blanks hw' (hstroke c hc)) hu.symm
    rw [m.lastToken?_after_sign harrow htext] at hright
    exact absurd hright (by simp)
  · simp [hnil] at hstart

/-- A piped edge is read as it is written. -/
theorem piped?_written (hg : g ∈ flowGlyphs) (hw : w.all isBlank = true) (hw' : w'.all isBlank = true)
    {w'' label : Text} (hw'' : w''.all isBlank = true) (hlabel : '|' ∉ label) :
    Edge.piped? (a.text ++ (w ++ (g.sign ++ (w' ++ '|' :: (label ++ '|' :: (w'' ++ b.text)))))) =
      some ⟨a.text, b.text, g.relation, label⟩ := by
  have hbar : ∀ c ∈ ('|' :: (label ++ '|' :: (w'' ++ b.text))).head?, c ∉ strokes := by
    intro c hc
    obtain rfl : '|' = c := by simpa using hc
    decide
  obtain ⟨_, htokens⟩ := a.tokens_text
    (endsToken_sign hg hw (w' ++ '|' :: (label ++ '|' :: (w'' ++ b.text))))
  obtain ⟨_, hglyphs⟩ :=
    glyphs_sign pairwise_flowGlyphs (fun _ h => h) hg hw (head?_not_stroke hw' hbar)
  have hpiped : Edge.pipedLabel? (w' ++ '|' :: (label ++ '|' :: (w'' ++ b.text))) =
      some (label, w'' ++ b.text) := by
    rw [Edge.pipedLabel?, trimStart_append hw']
    exact cutAt_append hlabel (w'' ++ b.text)
  rw [Edge.piped?, htokens, List.findSome?_cons]
  simp only [hglyphs, List.findSome?_cons, hpiped, b.lastToken?_blanks hw'', Option.map_some,
    flowRelation_sign hg]

/-- An arrow and a node end the edge, whatever its label. -/
theorem arrowEdge?_written (hg : g ∈ flowArrows) (hw : w.all isBlank = true)
    (hw' : w'.all isBlank = true) (left label : Text) :
    arrowEdge? left (label, w ++ (g.sign ++ (w' ++ b.text))) = some ⟨left, b.text, g.relation, label⟩ := by
  obtain ⟨_, hglyphs⟩ := glyphs_sign pairwise_flowArrows mem_flowGlyphs_of_mem_flowArrows hg hw
    (head?_not_stroke hw' b.head?_not_stroke)
  simp only [arrowEdge?, hglyphs, List.findSome?_cons, b.lastToken?_blanks hw', Option.map_some,
    flowRelation_sign (mem_flowGlyphs_of_mem_flowArrows g hg)]

/-- A spaced edge is read as it is written. -/
theorem spaced?_written (hg : g ∈ flowArrows) (hw : w.all isBlank = true) (hw' : w'.all isBlank = true)
    {s s' label : Text} (hs : s.all isBlank = true) (hs' : s'.all isBlank = true) (hsne : s ≠ [])
    (hsne' : s' ≠ []) (hne : label ≠ []) (htrim : Trimmed label) (hline : '\n' ∉ label)
    (harrow : ∀ arrow ∈ flowArrows, ¬ arrow.sign <:+: label) :
    Edge.spaced? (a.text ++ (w ++ ("--".toList ++ (s ++ (label ++ (s' ++ (g.sign ++ (w' ++ b.text)))))))) =
      some ⟨a.text, b.text, g.relation, label⟩ := by
  obtain ⟨c, u, hc⟩ := List.exists_cons_of_ne_nil hsne'
  have hhead : (s' ++ (g.sign ++ (w' ++ b.text))).head? = some c := by simp [hc]
  have hblank : isBlank c = true := List.all_eq_true.mp hs' c (by simp [hc])
  have hfirst : ∀ d ∈ (label ++ (s' ++ (g.sign ++ (w' ++ b.text)))).head?, isBlank d = false := by
    intro d hd
    refine (trim_eq_self_iff.mp htrim).1 d ?_
    rw [List.head?_append, List.head?_eq_some_head hne] at hd
    rwa [List.head?_eq_some_head hne]
  obtain ⟨_, htokens⟩ := a.tokens_text
    (endsToken_sign dash_mem_flowGlyphs hw (s ++ (label ++ (s' ++ (g.sign ++ (w' ++ b.text))))))
  obtain ⟨_, hblanks⟩ := afterBlanks_append hfirst hsne hs
  obtain ⟨shorter, longer, hlabels, hshorter⟩ := spacedLabels_append hhead hblank hne hline
  have hnone : shorter.findSome? (arrowEdge? a.text) = none := by
    refine List.findSome?_eq_none_iff.mpr fun x hx => ?_
    obtain ⟨t, ht, hcut, hafter⟩ := hshorter x hx
    rw [arrowEdge?, hafter, glyphs_cut_label hcut ht htrim harrow hhead hblank]
    rfl
  rw [spaced?_eq, ← sign_dash, htokens, List.findSome?_cons]
  simp only [trimStart_sign dash_mem_flowGlyphs hw, after?_append, hblanks, List.flatMap_cons, hlabels,
    List.findSome?_append, List.findSome?_cons, hnone, arrowEdge?_written b hg hs' hw', Option.none_or,
    Option.some_or]

end Forms

/-! ## §4 Grammar -/

/-- The draft with both nodes spoken of, the left one first, and linked. -/
def linkNodes (d : Draft) (a b : WrittenNode) (r : Relation) (label : Text) : Draft :=
  { (d.mention a.id a.label).mention b.id b.label with
    links := d.links ++ [⟨a.id, b.id, r, label⟩] }

theorem addEdge_written (d : Draft) (a b : WrittenNode) (r : Relation) (label : Text) :
    Flowchart.addEdge d ⟨a.text, b.text, r, label⟩ = linkNodes d a b r (clean label) := by
  have ha : a.id ∈ ((d.mention a.id a.label).mention b.id b.label).ids :=
    Draft.mem_ids_mention_of_mem (d.mem_ids_mention a.id a.label) b.id b.label
  have hb := (d.mention a.id a.label).mem_ids_mention b.id b.label
  simp only [Flowchart.addEdge, Flowchart.mentionToken, a.tokenParts_text, b.tokenParts_text]
  rw [Draft.connect_of_mem ha hb]
  simp [Draft.refuses, linkNodes]

/-- Two nodes with a glyph between them link them, with no label, with one
between bars or with one between blanks; the last kind is written with two
dashes before it and an arrow after it. -/
theorem addEdge_grammar (d : Draft) (a b : WrittenNode) (w w' : Text) (hw : w.all isBlank = true)
    (hw' : w'.all isBlank = true) :
    (∀ g ∈ flowGlyphs,
      (Edge.ofLine? (a.text ++ (w ++ (g.sign ++ (w' ++ b.text))))).map (Flowchart.addEdge d) =
        some (linkNodes d a b g.relation [])) ∧
    (∀ g ∈ flowGlyphs, ∀ w'' label : Text, w''.all isBlank = true → '|' ∉ label →
      (Edge.ofLine? (a.text ++ (w ++ (g.sign ++ (w' ++ '|' :: (label ++ '|' :: (w'' ++ b.text))))))).map
        (Flowchart.addEdge d) = some (linkNodes d a b g.relation (clean label))) ∧
    ∀ g ∈ flowArrows, ∀ s s' label : Text, s.all isBlank = true → s'.all isBlank = true →
      s ≠ [] → s' ≠ [] → label ≠ [] → Trimmed label → '|' ∉ label → '\n' ∉ label →
      (∀ arrow ∈ flowArrows, ¬ arrow.sign <:+: label) →
      (Edge.ofLine? (a.text ++ (w ++ ("--".toList ++ (s ++ (label ++ (s' ++
        (g.sign ++ (w' ++ b.text))))))))).map (Flowchart.addEdge d) =
        some (linkNodes d a b g.relation (clean label)) := by
  have hbars {pad : Text} (hpad : pad.all isBlank = true) : '|' ∉ pad := by
    intro hm
    exact absurd (List.all_eq_true.mp hpad _ hm) (by decide)
  have hsign (g : FlowGlyph) (hg : g ∈ flowGlyphs) : '|' ∉ g.sign := by
    intro hm
    exact (spec_of_mem_strokes _ ((strokes_of_mem_flowGlyphs g hg).2 _ hm)).2.2.2.2.2 rfl
  refine ⟨fun g hg => ?_, fun g hg w'' label hw'' hlabel => ?_, ?_⟩
  · have hbar : '|' ∉ a.text ++ (w ++ (g.sign ++ (w' ++ b.text))) := by
      simp [a.not_mem_text, b.not_mem_text, hbars hw, hbars hw', hsign g hg]
    rw [Edge.ofLine?, piped?_eq_none hbar, spaced?_bare a b hg hw hw', bare?_written a b hg hw hw',
      Option.none_or, Option.none_or, Option.map_some, addEdge_written]
    rfl
  · rw [Edge.ofLine?, piped?_written a b hg hw hw' hw'' hlabel, Option.some_or, Option.map_some,
      addEdge_written]
  · intro g hg s s' label hs hs' hsne hsne' hne htrim hlabel hline harrow
    have hbar : '|' ∉ a.text ++ (w ++ ("--".toList ++ (s ++ (label ++ (s' ++
        (g.sign ++ (w' ++ b.text))))))) := by
      simp [a.not_mem_text, b.not_mem_text, hbars hw, hbars hw', hbars hs, hbars hs', hlabel,
        hsign g (mem_flowGlyphs_of_mem_flowArrows g hg)]
    rw [Edge.ofLine?, piped?_eq_none hbar,
      spaced?_written a b hg hw hw' hs hs' hsne hsne' hne htrim hline harrow, Option.none_or,
      Option.some_or, Option.map_some, addEdge_written]

/-- Shapes with glyphs in their texts, and no blank that could be missing. -/
theorem addEdge_grammar_glyphs :
    let nodes : List Node :=
      [⟨"A".toList, "x --> y".toList, [], none⟩, ⟨"B".toList, "p -- q ==> r".toList, [], none⟩]
    (Edge.ofLine? "A((x --> y)):::big--B[p -- q ==> r]".toList).map (Flowchart.addEdge {}) =
        some { nodes := nodes, links := [⟨"A".toList, "B".toList, .link, []⟩] } ∧
      (Edge.ofLine? "A((x --> y)):::big-.->| 'a --> b'|B[p -- q ==> r]".toList).map
        (Flowchart.addEdge {}) =
        some { nodes := nodes, links := [⟨"A".toList, "B".toList, .dependency, "a --> b".toList⟩] } ∧
      (Edge.ofLine? "A((x --> y)):::big-- a - -- b ---B[p -- q ==> r]".toList).map
        (Flowchart.addEdge {}) =
        some { nodes := nodes, links := [⟨"A".toList, "B".toList, .link, "a - -- b".toList⟩] } := by
  intro nodes
  let round : ShapedText := ⟨⟨"((".toList, "))".toList⟩, "x --> y".toList, by decide,
    forall_mem_of_all (by decide)⟩
  let square : ShapedText := ⟨⟨"[".toList, "]".toList⟩, "p -- q ==> r".toList, by decide,
    forall_mem_of_all (by decide)⟩
  let a : WrittenNode := ⟨"A".toList, some round, some "big".toList, by decide, by decide⟩
  let b : WrittenNode := .ofShape "B".toList square (by decide)
  obtain ⟨hbare, hpiped, hspaced⟩ := addEdge_grammar {} a b [] [] rfl rfl
  refine ⟨?_, ?_, ?_⟩
  · exact (hbare dash (by decide)).trans (by decide +kernel)
  · exact (hpiped ⟨"-.->".toList, .dependency⟩ (by decide) [] " 'a --> b'".toList rfl
      (by decide)).trans (by decide +kernel)
  · exact (hspaced ⟨"---".toList, .link⟩ (by decide) [' '] [' '] "a - -- b".toList rfl rfl (by simp)
      (by simp) (by decide) (by decide) (by decide) (by decide) (by decide +kernel)).trans
      (by decide +kernel)

end DiagramGraph.Mermaid
