/-
DiagramGraph.Proofs.EdgeChains — what a flowchart makes of `A --> B --> C`.

A flowchart has no chains: a line links two nodes. A line of three or more
nodes is an edge all the same if one of its ends can be stretched over
several of them, or if what stands between the ends can be a label.

  §1 Chains   — nodes joined by glyphs with a space on either side, the
                texts of their shapes free of glyphs; `Chain.Reads`, the
                ways to read a chain as an edge.
  §2 Glyphs   — where glyphs stand in a chain: between its nodes only.
  §3 Readings — every edge that is read from a chain is one of them, and a
                chain that starts with a dash and ends with an arrow is
                read with a label.
  §4 Reading  — where no token stretches, a chain is set aside, or it is
                a spaced edge from its first node to its last one, which
                hides those between them (`readLines_chain`).

The order in which the forms of an edge are tried matters in one place: a
label after the first node is found before any other reading.
-/
import DiagramGraph.Proofs.EdgeGrammar
import DiagramGraph.Proofs.FlowRoundTrip

namespace DiagramGraph.Mermaid

open Text Label Flowchart

/-! ## §1 Chains -/

/-- The glyph with a space on either side. -/
def spacedSign (g : FlowGlyph) : Text := ' ' :: (g.sign ++ [' '])

/-- Nodes that are joined by glyphs. -/
structure Chain where
  first : WrittenNode
  more : List (FlowGlyph × WrittenNode)
  mem : ∀ x ∈ more, x.1 ∈ flowGlyphs
  plain : ∀ n ∈ first :: more.map Prod.snd, ∀ s ∈ n.shaped, ¬ HasGlyph s.text

/-- The chain as it is written. -/
def Chain.text (c : Chain) : Text := c.first.text ++ joined spacedSign c.more

/-- The ways to read a chain as an edge. The left end stretches over the
first node and those of `before`, the right end over the node after the
glyph and those of `after`. -/
inductive Chain.Reads (c : Chain) :
    List (FlowGlyph × WrittenNode) → List (FlowGlyph × WrittenNode) → Edge → Prop
  | bare {before after : List (FlowGlyph × WrittenNode)} {g : FlowGlyph} {n : WrittenNode}
    (hmore : c.more = before ++ (g, n) :: after) (hleft : OneToken c.first before)
    (hright : OneToken n after) :
    c.Reads before after ⟨c.first.text ++ joined spacedSign before,
      n.text ++ joined spacedSign after, g.relation, []⟩
  | spaced {before between after : List (FlowGlyph × WrittenNode)} {m : WrittenNode} {g : FlowGlyph}
    {n : WrittenNode} (hmore : c.more = before ++ (dash, m) :: (between ++ (g, n) :: after))
    (hg : g ∈ flowArrows) (hleft : OneToken c.first before) (hright : OneToken n after) :
    c.Reads before after ⟨c.first.text ++ joined spacedSign before,
      n.text ++ joined spacedSign after, g.relation, m.text ++ joined spacedSign between⟩

/-- The nodes after one of the arrows can be taken for one, and there are
several of them. -/
def Chain.StretchesRight (c : Chain) : Prop :=
  ∃ before g n after, c.more = before ++ (g, n) :: after ∧ g ∈ flowArrows ∧ OneToken n after ∧ after ≠ []

/-- The chain can be read with a token that stretches over several nodes. -/
def Chain.Stretches (c : Chain) : Prop :=
  OneToken c.first c.more ∨ ∃ before after e, c.Reads before after e ∧ (before ≠ [] ∨ after ≠ [])

/-! ## §2 Glyphs -/

theorem isSeparator_spacedSign {g : FlowGlyph} (hg : g ∈ flowGlyphs) : IsSeparator (spacedSign g) := by
  have hspace : [' '].all isBlank = true := by decide
  exact isSeparator_sign hg hspace hspace

/-- A written node has no glyph in it if its shape has none. -/
theorem not_hasGlyph_text {n : WrittenNode} (h : ∀ s ∈ n.shaped, ¬ HasGlyph s.text) :
    ¬ HasGlyph n.text := by
  rintro ⟨g, hg, before, after, htext⟩
  obtain ⟨s, t, rest, hshaped, hs, -⟩ := n.of_sign hg (by simpa using htext.symm)
  exact h s hshaped ⟨g, hg, t, rest, by simp [hs]⟩

/-- No glyph is a part of another one, but for the dash. -/
theorem eq_of_infix_of_mem_flowArrows : ∀ arrow ∈ flowArrows, ∀ g ∈ flowGlyphs,
    arrow.sign <:+: g.sign → arrow = g := by
  decide

/-- An arrow in a chain stands between two of its nodes. -/
theorem of_arrow_joined {arrow : FlowGlyph} (harrow : arrow ∈ flowArrows) :
    ∀ {more : List (FlowGlyph × WrittenNode)}, (∀ x ∈ more, x.1 ∈ flowGlyphs) →
      (∀ x ∈ more, ¬ HasGlyph x.2.text) → ∀ {n : WrittenNode}, ¬ HasGlyph n.text →
      ∀ {before rest : Text},
      n.text ++ joined spacedSign more = before ++ (arrow.sign ++ rest) →
      ∃ passed m ahead, more = passed ++ (arrow, m) :: ahead ∧
        before = (n.text ++ joined spacedSign passed) ++ [' '] ∧
        rest = ' ' :: (m.text ++ joined spacedSign ahead) := by
  have hflow := mem_flowGlyphs_of_mem_flowArrows arrow harrow
  have hspace : ' ' ∉ arrow.sign := by
    intro hm
    exact absurd ((strokes_of_mem_flowGlyphs arrow hflow).2 _ hm) (by decide)
  intro more
  induction more with
  | nil =>
    intro _ _ n hn before rest h
    rw [joined_nil, List.append_nil] at h
    exact absurd ⟨arrow, hflow, before, rest, by simp [h]⟩ hn
  | cons x more ih =>
    obtain ⟨g, m⟩ := x
    intro hmem hplain n hn before rest h
    obtain ⟨hg, hmem⟩ := List.forall_mem_cons.mp hmem
    obtain ⟨hm, hplain⟩ := List.forall_mem_cons.mp hplain
    have hline : n.text ++ ' ' :: (g.sign ++ ' ' :: (m.text ++ joined spacedSign more)) =
        before ++ (arrow.sign ++ rest) := by
      simpa [joined, spacedSign] using h
    -- the two spaces cut the line; the arrow lies in one of the three parts
    rcases append_cons_eq_append hspace hline with ⟨t, htext, -⟩ | ⟨t, rfl, hrest⟩
    · exact absurd ⟨arrow, hflow, before, t, by simp [htext]⟩ hn
    · rcases append_cons_eq_append hspace hrest with ⟨u, hsign, hafter⟩ | ⟨u, rfl, hnext⟩
      · obtain rfl := eq_of_infix_of_mem_flowArrows arrow harrow g hg ⟨t, u, by simp [hsign]⟩
        obtain ⟨rfl, rfl⟩ : t = [] ∧ u = [] := by
          have hlength := congrArg List.length hsign
          simp only [List.length_append] at hlength
          constructor <;> apply List.eq_nil_of_length_eq_zero <;> omega
        exact ⟨[], m, more, rfl, by simp, by simpa using hafter⟩
      · obtain ⟨passed, k, ahead, rfl, rfl, hafter⟩ := ih hmem hplain hm hnext
        exact ⟨(g, m) :: passed, k, ahead, rfl, by simp [joined, spacedSign], hafter⟩

/-- The glyphs that stand at the place of one, before a space. -/
theorem of_sign_eq {g g' : FlowGlyph} (hg : g ∈ flowGlyphs) (hg' : g' ∈ flowGlyphs) {rest t : Text}
    (h : g'.sign ++ ' ' :: t = g.sign ++ rest) :
    (g = g' ∧ rest = ' ' :: t) ∨ ∃ c u, rest = c :: u ∧ c ∈ strokes := by
  have hinj : ∀ g ∈ flowGlyphs, ∀ g' ∈ flowGlyphs, g.sign = g'.sign → g = g' := by decide
  have hspace : ' ' ∉ g.sign := by
    intro hm
    exact absurd ((strokes_of_mem_flowGlyphs g hg).2 _ hm) (by decide)
  obtain ⟨more, hmore⟩ := prefix_of_prefix_append_cons hspace ⟨rest, h.symm⟩
  rw [← hmore, List.append_assoc] at h
  obtain rfl := List.append_cancel_left h
  cases more with
  | nil => exact .inl ⟨hinj g hg g' hg' (by simpa using hmore), rfl⟩
  | cons c more =>
    exact .inr ⟨c, _, rfl, (strokes_of_mem_flowGlyphs g' hg').2 c (by simp [← hmore])⟩

/-- No token starts with a stroke. -/
theorem lastToken?_stroke {c : Char} (hc : c ∈ strokes) (rest : Text) :
    lastToken? (trimStart (c :: rest)) = none := by
  obtain ⟨hword, hblank, -⟩ := spec_of_mem_strokes c hc
  rw [trimStart_eq_self (t := c :: rest) (by simpa using hblank)]
  simp [lastToken?, tokens, hword]

-- What stands before and after the glyphs.

theorem trimStart_joined {g : FlowGlyph} (hg : g ∈ flowGlyphs) (n : WrittenNode)
    (more : List (FlowGlyph × WrittenNode)) :
    trimStart (joined spacedSign ((g, n) :: more)) =
      g.sign ++ ' ' :: (n.text ++ joined spacedSign more) := by
  have hspace : [' '].all isBlank = true := by decide
  simpa [joined, spacedSign] using trimStart_sign hg hspace (' ' :: (n.text ++ joined spacedSign more))

theorem trimStart_space_text (n : WrittenNode) (rest : Text) :
    trimStart (' ' :: (n.text ++ rest)) = n.text ++ rest := by
  obtain ⟨d, t, htext, hd⟩ := n.exists_text_cons
  have hspace : isBlank ' ' = true := by decide
  simp [trimStart, hspace, htext, isBlank_eq_false_of_isWord hd]

theorem afterBlanks_space (n : WrittenNode) (rest : Text) :
    Edge.afterBlanks (' ' :: (n.text ++ rest)) = [n.text ++ rest] := by
  obtain ⟨d, t, htext, hd⟩ := n.exists_text_cons
  have hspace : isBlank ' ' = true := by decide
  simp [Edge.afterBlanks, hspace, htext, isBlank_eq_false_of_isWord hd]

/-- No bar and no line feed stands in a chain. -/
theorem not_mem_joined {c : Char} (hc : c ∈ ['|', '\n']) {more : List (FlowGlyph × WrittenNode)}
    (hmem : ∀ x ∈ more, x.1 ∈ flowGlyphs) : c ∉ joined spacedSign more := by
  have hspec : ∀ c ∈ ['|', '\n'], c ≠ ' ' ∧ c ∉ strokes := forall_mem_of_all (by decide)
  obtain ⟨hspace, hstroke⟩ := hspec c hc
  induction more with
  | nil => simp
  | cons x more ih =>
    obtain ⟨hx, hmore⟩ := List.forall_mem_cons.mp hmem
    have hsign : c ∉ x.1.sign := fun hm => hstroke ((strokes_of_mem_flowGlyphs x.1 hx).2 c hm)
    simp [joined, spacedSign, hspace, hsign, x.2.not_mem_text hc, ih hmore]

/-! ## §3 Readings -/

namespace Chain

variable (c : Chain)

theorem isSeparator : ∀ x ∈ c.more, IsSeparator (spacedSign x.1) :=
  fun x hx => isSeparator_spacedSign (c.mem x hx)

theorem not_hasGlyph {n : WrittenNode} (h : n ∈ c.first :: c.more.map Prod.snd) : ¬ HasGlyph n.text :=
  not_hasGlyph_text (c.plain n h)

/-- Where a glyph follows a token of the chain. -/
theorem of_glyph {left rest : Text} (h : (left, rest) ∈ tokens c.text) {g : FlowGlyph}
    (hg : g ∈ flowGlyphs) {rest' : Text} (hglyph : trimStart rest = g.sign ++ rest') :
    ∃ before g' n after, c.more = before ++ (g', n) :: after ∧ OneToken c.first before ∧
      left = c.first.text ++ joined spacedSign before ∧
      trimStart rest = g'.sign ++ ' ' :: (n.text ++ joined spacedSign after) := by
  obtain ⟨before, g', n, after, hmore, hone, hleft, rfl⟩ := of_glyph_joined c.isSeparator h hg hglyph
  have hg' : g' ∈ flowGlyphs := c.mem (g', n) (by simp [hmore])
  exact ⟨before, g', n, after, hmore, hone, hleft, trimStart_joined hg' n after⟩

/-- What follows a glyph of the chain is its right end, if anything is. -/
theorem oneToken_of_end {before after : List (FlowGlyph × WrittenNode)} {g : FlowGlyph}
    {n : WrittenNode} (hmore : c.more = before ++ (g, n) :: after) {right : Text}
    (h : lastToken? (trimStart (' ' :: (n.text ++ joined spacedSign after))) = some right) :
    OneToken n after ∧ right = n.text ++ joined spacedSign after := by
  have hsep : ∀ x ∈ after, IsSeparator (spacedSign x.1) :=
    fun x hx => c.isSeparator x (by simp [hmore, hx])
  rw [trimStart_space_text] at h
  exact oneToken_of_lastToken? hsep h

theorem reads_of_bare? {e : Edge} (h : Edge.bare? c.text = some e) :
    ∃ before after, c.Reads before after e := by
  obtain ⟨⟨left, rest⟩, htoken, h⟩ := List.exists_of_findSome?_eq_some h
  obtain ⟨⟨g, rest'⟩, hglyph, h⟩ := List.exists_of_findSome?_eq_some h
  obtain ⟨right, hright, rfl⟩ := Option.map_eq_some_iff.mp h
  obtain ⟨hg, htrim⟩ := of_mem_glyphs hglyph
  obtain ⟨before, g', n, after, hmore, hone, rfl, hstart⟩ := c.of_glyph htoken hg htrim
  have hg' : g' ∈ flowGlyphs := c.mem (g', n) (by simp [hmore])
  rcases of_sign_eq hg hg' (hstart.symm.trans htrim) with ⟨rfl, rfl⟩ | ⟨d, u, rfl, hd⟩
  · obtain ⟨hend, rfl⟩ := c.oneToken_of_end hmore hright
    rw [flowRelation_sign hg]
    exact ⟨before, after, .bare hmore hone hend⟩
  · rw [lastToken?_stroke hd] at hright
    exact absurd hright (by simp)

/-- A label that ends where blanks begin is all that stands before them. -/
theorem label_eq {n : WrittenNode} {more : List (FlowGlyph × WrittenNode)} {label pad : Text}
    (hpad : pad.all isBlank = true) (hne : pad ≠ [])
    (h : label ++ pad = (n.text ++ joined spacedSign more) ++ [' ']) :
    label = n.text ++ joined spacedSign more := by
  obtain ⟨init, b, rfl⟩ : ∃ init b, pad = init ++ [b] :=
    ⟨_, _, (List.dropLast_concat_getLast hne).symm⟩
  rw [← List.append_assoc] at h
  obtain ⟨hlabel, -⟩ := List.append_inj' h rfl
  rcases List.eq_nil_or_concat init with rfl | ⟨t, y, rfl⟩
  · simpa using hlabel
  · -- a blank would end a node
    obtain ⟨u, d, hline, hd⟩ := exists_joined_concat spacedSign n more
    have hblank : isBlank y = true := List.all_eq_true.mp hpad y (by simp)
    rw [hline, List.concat_eq_append, ← List.append_assoc] at hlabel
    obtain ⟨-, hlast⟩ := List.append_inj' hlabel rfl
    obtain rfl : y = d := by simpa using hlast
    have hfalse : isBlank y = false :=
      hd.elim isBlank_eq_false_of_isWord fun hd => (spec_of_mem_marks (.inr hd)).2.1
    rw [hfalse] at hblank
    exact absurd hblank (by decide)

/-- A label after a glyph of the chain, and the arrow that ends it. -/
theorem of_label {before ahead : List (FlowGlyph × WrittenNode)} {g : FlowGlyph} {m : WrittenNode}
    (hmore : c.more = before ++ (g, m) :: ahead) {left : Text} {s : Text × Text} {e : Edge}
    (hs : s ∈ Edge.spacedLabels (m.text ++ joined spacedSign ahead)) (h : arrowEdge? left s = some e) :
    ∃ between arrow n after, ahead = between ++ (arrow, n) :: after ∧ arrow ∈ flowArrows ∧
      OneToken n after ∧ e = ⟨left, n.text ++ joined spacedSign after, arrow.relation,
        m.text ++ joined spacedSign between⟩ := by
  obtain ⟨hsplit, b, hb, hblank⟩ := of_mem_spacedLabels hs
  obtain ⟨arrow, harrow, rest, htrim, right, hright, rfl⟩ := of_arrowEdge? h
  have hpad : (s.2.takeWhile isBlank).all isBlank = true := List.all_takeWhile
  have hne : s.2.takeWhile isBlank ≠ [] := by
    obtain ⟨t, ht⟩ := List.head?_eq_some_iff.mp hb
    simp [ht, hblank]
  have hcut : m.text ++ joined spacedSign ahead =
      (s.1 ++ s.2.takeWhile isBlank) ++ (arrow.sign ++ rest) := by
    rw [← htrim, trimStart, List.append_assoc, List.takeWhile_append_dropWhile, hsplit]
  have hplain : ∀ x ∈ ahead, ¬ HasGlyph x.2.text := fun x hx =>
    c.not_hasGlyph (List.mem_cons_of_mem _ (List.mem_map_of_mem (by simp [hmore, hx])))
  obtain ⟨between, n, after, rfl, hbefore, rfl⟩ := of_arrow_joined harrow
    (fun x hx => c.mem x (by simp [hmore, hx])) hplain (c.not_hasGlyph (by simp [hmore])) hcut
  have hmore' : c.more = (before ++ (g, m) :: between) ++ (arrow, n) :: after := by simp [hmore]
  obtain ⟨hend, rfl⟩ := c.oneToken_of_end hmore' hright
  exact ⟨between, arrow, n, after, rfl, harrow, hend, by rw [label_eq hpad hne hbefore]⟩

theorem reads_of_spaced? {e : Edge} (h : Edge.spaced? c.text = some e) :
    ∃ before after, c.Reads before after e := by
  have hdashOnly : ∀ g ∈ flowGlyphs, g.sign = "--".toList → g = dash := by decide
  obtain ⟨left, rest, htoken, dashed, hdashed, start, hstart, s, hs, hedge⟩ := of_spaced? h
  obtain ⟨before, g, m, ahead, hmore, hone, rfl, hafter⟩ :=
    c.of_glyph htoken dash_mem_flowGlyphs (after?_eq_some_iff.mp hdashed)
  have hg : g ∈ flowGlyphs := c.mem (g, m) (by simp [hmore])
  rw [hafter] at hdashed
  rcases afterBlanks_sign hg hdashed with ⟨hsign, rfl⟩ | hnil
  · obtain rfl := hdashOnly g hg hsign
    rw [afterBlanks_space, List.mem_singleton] at hstart
    obtain ⟨between, arrow, n, after, rfl, harrow, hend, rfl⟩ := c.of_label hmore (hstart ▸ hs) hedge
    exact ⟨before, after, .spaced hmore harrow hone hend⟩
  · simp [hnil] at hstart

theorem not_mem_text {ch : Char} (hch : ch ∈ ['|', '\n']) : ch ∉ c.text := by
  simp [text, c.first.not_mem_text hch, not_mem_joined hch c.mem]

/-- Every edge that is read from a chain is one of its readings. -/
theorem reads_of_ofLine? {e : Edge} (h : Edge.ofLine? c.text = some e) :
    ∃ before after, c.Reads before after e := by
  rw [Edge.ofLine?, piped?_eq_none (c.not_mem_text (by decide)), Option.none_or] at h
  rcases Option.or_eq_some_iff.mp h with h | ⟨-, h⟩
  · exact c.reads_of_spaced? h
  · exact c.reads_of_bare? h

/-- Nodes up to an arrow and a last node are a label, among others. -/
theorem exists_arrowEdge (m last : WrittenNode) {between : List (FlowGlyph × WrittenNode)}
    (hmem : ∀ x ∈ between, x.1 ∈ flowGlyphs) {g : FlowGlyph} (hg : g ∈ flowArrows) (left : Text) :
    ∃ e, (Edge.spacedLabels (m.text ++ joined spacedSign (between ++ [(g, last)]))).findSome?
      (arrowEdge? left) = some e := by
  have hspace : [' '].all isBlank = true := by decide
  have hfeed : '\n' ∈ ['|', '\n'] := by decide
  have hhead : (joined spacedSign [(g, last)]).head? = some ' ' := rfl
  have hlast : joined spacedSign [(g, last)] = [' '] ++ (g.sign ++ ([' '] ++ last.text)) := by
    simp [joined, spacedSign]
  have hne : m.text ++ joined spacedSign between ≠ [] := by
    obtain ⟨d, t, htext, -⟩ := m.exists_text_cons
    simp [htext]
  have hline : '\n' ∉ m.text ++ joined spacedSign between := by
    simp [m.not_mem_text hfeed, not_mem_joined hfeed hmem]
  obtain ⟨shorter, longer, hlabels, -⟩ := spacedLabels_append hhead (by decide) hne hline
  refine Option.isSome_iff_exists.mp (List.findSome?_isSome_iff.mpr
    ⟨(m.text ++ joined spacedSign between, joined spacedSign [(g, last)]), ?_, ?_⟩)
  · rw [joined_append, ← List.append_assoc, hlabels]
    simp
  · rw [hlast, arrowEdge?_written last hg hspace hspace]
    rfl

/-- A chain that starts with a dash and ends with an arrow is a spaced edge
from its first node to its last one, unless nodes stretch after an arrow. -/
theorem ofLine?_labelled {m last : WrittenNode} {between : List (FlowGlyph × WrittenNode)}
    {g : FlowGlyph} (hmore : c.more = (dash, m) :: (between ++ [(g, last)])) (hg : g ∈ flowArrows)
    (hends : ¬ c.StretchesRight) :
    Edge.ofLine? c.text =
      some ⟨c.first.text, last.text, g.relation, m.text ++ joined spacedSign between⟩ := by
  have hmem : ∀ x ∈ between, x.1 ∈ flowGlyphs := fun x hx => c.mem x (by simp [hmore, hx])
  have hdash : c.more = [] ++ (dash, m) :: (between ++ [(g, last)]) := hmore
  -- some label is found, and none that is found ends before the last arrow
  obtain ⟨e, he⟩ := exists_arrowEdge m last hmem hg c.first.text
  obtain ⟨s, hs, hedge⟩ := List.exists_of_findSome?_eq_some he
  obtain ⟨between', arrow, n, after, hahead, harrow, hone, rfl⟩ := c.of_label hdash hs hedge
  obtain rfl : after = [] := by
    refine Classical.byContradiction fun hafter => hends ?_
    exact ⟨(dash, m) :: between', arrow, n, after, by simp [hmore, hahead], harrow, hone, hafter⟩
  obtain ⟨rfl, hpair⟩ := List.append_inj' hahead rfl
  obtain ⟨rfl, rfl⟩ : g = arrow ∧ last = n := by simpa using hpair
  -- the first node is the first token that is tried
  obtain ⟨_, htokens⟩ := c.first.tokens_text (endsToken_joined c.isSeparator)
  have hdashed : after? "--".toList (trimStart (joined spacedSign c.more)) =
      some (' ' :: (m.text ++ joined spacedSign (between ++ [(g, last)]))) := by
    rw [hmore, trimStart_joined dash_mem_flowGlyphs]
    exact after?_append _ _
  rw [Edge.ofLine?, piped?_eq_none (c.not_mem_text (by decide)), Option.none_or, spaced?_eq, text,
    htokens, List.findSome?_cons]
  simp only [hdashed, afterBlanks_space, List.flatMap_singleton, he, Option.some_or, joined_nil,
    List.append_nil]

/-! ## §4 Reading -/

/-- Unless an end is stretched, only a spaced edge can be read from a chain
of three nodes or more: it joins the first node to the last one. -/
theorem of_ofLine? (hlength : 2 ≤ c.more.length) (hends : ¬ c.Stretches) {e : Edge}
    (h : Edge.ofLine? c.text = some e) :
    ∃ m between g last, c.more = (dash, m) :: (between ++ [(g, last)]) ∧ g ∈ flowArrows ∧
      e = ⟨c.first.text, last.text, g.relation, m.text ++ joined spacedSign between⟩ := by
  obtain ⟨before, after, hreads⟩ := c.reads_of_ofLine? h
  obtain ⟨rfl, rfl⟩ : before = [] ∧ after = [] := by
    have hnot : ¬ (before ≠ [] ∨ after ≠ []) :=
      fun hne => hends (.inr ⟨before, after, e, hreads, hne⟩)
    simpa using hnot
  cases hreads with
  | bare hmore =>
    rw [hmore] at hlength
    simp at hlength
  | spaced hmore hg => exact ⟨_, _, _, _, hmore, hg, by simp⟩

/-- Nodes whose shapes are not there do not stretch. -/
theorem eq_nil_of_oneToken {n : WrittenNode} {more : List (FlowGlyph × WrittenNode)}
    (h : OneToken n more) (hshape : n.shaped = none ∨ (lastNode n more).shaped = none) : more = [] := by
  refine h.resolve_right ?_
  rintro ⟨s, hs, hopen, hclose⟩
  obtain ⟨hopening, hclosing, -, -⟩ := marks_of_mem_shapes s hs
  rcases hshape with hshape | hshape
  · rw [n.shapeText_of_none hshape] at hopen
    exact hopening (List.prefix_nil.mp hopen)
  · rw [(lastNode n more).shapeText_of_none hshape] at hclose
    exact hclosing (List.suffix_nil.mp hclose)

/-- The ends of a reading are tokens, and the right one ends the chain. -/
theorem Reads.ends {c : Chain} {before after : List (FlowGlyph × WrittenNode)} {e : Edge}
    (h : c.Reads before after e) : OneToken c.first before ∧
      ∃ n, OneToken n after ∧ lastNode n after = lastNode c.first c.more := by
  cases h with
  | bare hmore hleft hright => exact ⟨hleft, _, hright, by rw [hmore, lastNode_append]; rfl⟩
  | spaced hmore _ hleft hright =>
    refine ⟨hleft, _, hright, ?_⟩
    rw [hmore, lastNode_append, lastNode, lastNode_append]
    rfl

/-- A chain with no shapes at its ends is not stretched. -/
theorem not_stretches (hne : c.more ≠ []) (hfirst : c.first.shaped = none)
    (hlast : (lastNode c.first c.more).shaped = none) : ¬ c.Stretches := by
  rintro (hone | ⟨before, after, e, hreads, hends⟩)
  · exact hne (eq_nil_of_oneToken hone (.inl hfirst))
  · obtain ⟨hleft, n, hright, hn⟩ := hreads.ends
    rcases hends with hbefore | hafter
    · exact hbefore (eq_nil_of_oneToken hleft (.inl hfirst))
    · exact hafter (eq_nil_of_oneToken hright (.inr (hn ▸ hlast)))

/-- A chain is read as one statement. -/
theorem readLines_text (hne : c.more ≠ []) (hdirective : startsWithAny directives c.text = false)
    (orientation : Option Text) :
    readLines [c.text] orientation = (readStatement {} c.text).finish (some .flowchart) orientation ∧
      c.text.isEmpty = false ∧ isGrouping c.text = false := by
  obtain ⟨x, more, hmore⟩ := List.exists_cons_of_ne_nil hne
  have hspace : ' ' ∈ c.text := by simp [text, hmore, joined, spacedSign]
  have hmeaningful : isMeaningful c.text = true := by
    obtain ⟨d, t, htext, hd⟩ := c.first.exists_text_cons
    rw [text, htext]
    exact isMeaningful_cons hd _
  have hsemicolons : dropSemicolons c.text = c.text := by
    obtain ⟨init, d, htext, hd⟩ := exists_joined_concat spacedSign c.first c.more
    have hblank : isBlank d = false :=
      hd.elim isBlank_eq_false_of_isWord fun hd => (spec_of_mem_marks (.inr hd)).2.1
    have hsemicolon : d ≠ ';' := by
      rintro rfl
      exact absurd hd (by decide)
    rw [text, htext]
    exact dropSemicolons_concat hsemicolon hblank init
  refine ⟨?_, List.isEmpty_eq_false_iff.mpr (List.ne_nil_of_mem hspace),
    isGrouping_eq_false_of_mem hspace (by decide)⟩
  simp [readLines, statements, hmeaningful, hdirective, hsemicolons]

end Chain

/-- What becomes of a chain of three or more nodes. If its first glyph is a
dash and its last one an arrow, then it is an edge from its first node to
its last one, and all between them is the label, unless the nodes after an
earlier arrow can be taken for one. Every other chain is set aside, unless
it can be read with a token that stretches over several nodes. -/
theorem readLines_chain (c : Chain) (hlength : 2 ≤ c.more.length)
    (hdirective : startsWithAny directives c.text = false) (orientation : Option Text) :
    (∀ m between g last, c.more = (dash, m) :: (between ++ [(g, last)]) → g ∈ flowArrows →
      ¬ c.StretchesRight →
      readLines [c.text] orientation =
        (linkNodes {} c.first last g.relation (clean (m.text ++ joined spacedSign between))).finish
          (some .flowchart) orientation) ∧
    ((¬ ∃ m between g last, c.more = (dash, m) :: (between ++ [(g, last)]) ∧ g ∈ flowArrows) →
      ¬ c.Stretches →
      readLines [c.text] orientation = ⟨[], [], some .flowchart, orientation, [c.text]⟩) := by
  have hne : c.more ≠ [] := by
    intro hnil
    simp [hnil] at hlength
  obtain ⟨hread, hempty, hgrouping⟩ := c.readLines_text hne hdirective orientation
  rw [hread, readStatement, hempty, hgrouping]
  constructor
  · intro m between g last hmore hg hends
    rw [c.ofLine?_labelled hmore hg hends]
    simp only [Bool.or_self, Bool.false_eq_true, if_false, addEdge_written]
  · intro hno hends
    have hedge : Edge.ofLine? c.text = none := by
      refine Option.eq_none_iff_forall_ne_some.mpr fun e he => hno ?_
      obtain ⟨m, between, g, last, hmore, hg, -⟩ := c.of_ofLine? hlength hends he
      exact ⟨m, between, g, last, hmore, hg⟩
    have htoken : lastToken? c.text = none := by
      refine Option.eq_none_iff_forall_ne_some.mpr fun token htoken => hends (.inl ?_)
      exact (oneToken_of_lastToken? c.isSeparator htoken).1
    rw [hedge, htoken]
    rfl

/-- Both outcomes: a chain that is set aside, though a shape stands in its
middle, and one that is read as an edge with a label, though its last two
nodes could be taken for one. -/
theorem readLines_chain_outcomes :
    readLines ["A --> B[x] -- C".toList] none =
        ⟨[], [], some .flowchart, none, ["A --> B[x] -- C".toList]⟩ ∧
      readLines ["A -- B[x] --> C[y]".toList] none =
        ⟨[⟨"A".toList, [], [], none⟩, ⟨"C".toList, "y".toList, [], none⟩],
          [⟨"A".toList, "C".toList, .association, "B[x]".toList⟩], some .flowchart, none, []⟩ := by
  let boxed (text : Text) (h : ∀ c ∈ text, c ∉ openers ++ closers ++ ['|', '\n']) : ShapedText :=
    ⟨⟨"[".toList, "]".toList⟩, text, by decide, h⟩
  let a : WrittenNode := .ofName "A".toList (by decide)
  let b : WrittenNode := .ofShape "B".toList (boxed "x".toList (forall_mem_of_all (by decide))) (by decide)
  let arrow : FlowGlyph := ⟨"-->".toList, .association⟩
  constructor
  · let c : WrittenNode := .ofName "C".toList (by decide)
    let chain : Chain := ⟨a, [(arrow, b), (dash, c)], by decide, by decide⟩
    refine (readLines_chain chain (by decide) (by decide) none).2 ?_
      (chain.not_stretches (by simp [chain]) rfl rfl)
    rintro ⟨m, between, g, last, hmore, -⟩
    have hfirst : arrow = dash := congrArg Prod.fst (List.cons.inj hmore).1
    exact absurd hfirst (by decide)
  · let c : WrittenNode := .ofShape "C".toList (boxed "y".toList (forall_mem_of_all (by decide))) (by decide)
    let chain : Chain := ⟨a, [(dash, b), (arrow, c)], by decide, by decide⟩
    have hends : ¬ chain.StretchesRight := by
      rintro ⟨before, g, n, after, hmore, hg, -, hafter⟩
      rcases before with _ | ⟨x, _ | ⟨y, before⟩⟩
      · obtain ⟨rfl, -⟩ := Prod.mk.inj (List.cons.inj hmore).1
        exact absurd hg (by decide)
      · exact hafter (List.cons.inj (List.cons.inj hmore).2).2.symm
      · simp [chain] at hmore
    have hread := (readLines_chain chain (by decide) (by decide) none).1 b [] arrow c rfl (by decide) hends
    have htext : "A -- B[x] --> C[y]".toList = chain.text := by decide +kernel
    rw [htext, hread]
    decide +kernel

/-- The chain is set aside and nothing else comes of it, or none of its
nodes is missing. -/
def Chain.Kept (c : Chain) : Prop :=
  readLines [c.text] none = ⟨[], [], some .flowchart, none, [c.text]⟩ ∨
    ∀ n ∈ c.first :: c.more.map Prod.snd, n.id ∈ (readLines [c.text] none).nodes.map Node.id

/-- Chains are not always kept: nodes get lost in a label, and where an end
stretches over them. -/
theorem readLines_chain_lost :
    (∃ c : Chain, c.text = "A -- B --> C".toList ∧ 2 ≤ c.more.length ∧
      startsWithAny directives c.text = false ∧ ¬ c.Kept) ∧
    ∃ c : Chain, c.text = "A[x] --> B[y] --> C".toList ∧ 2 ≤ c.more.length ∧
      startsWithAny directives c.text = false ∧ ¬ c.Kept := by
  let a : WrittenNode := .ofName "A".toList (by decide)
  let b : WrittenNode := .ofName "B".toList (by decide)
  let c : WrittenNode := .ofName "C".toList (by decide)
  let boxA : WrittenNode := .ofShape "A".toList ⟨⟨"[".toList, "]".toList⟩, "x".toList, by decide,
    forall_mem_of_all (by decide)⟩ (by decide)
  let boxB : WrittenNode := .ofShape "B".toList ⟨⟨"[".toList, "]".toList⟩, "y".toList, by decide,
    forall_mem_of_all (by decide)⟩ (by decide)
  let arrow : FlowGlyph := ⟨"-->".toList, .association⟩
  refine ⟨⟨⟨a, [(dash, b), (arrow, c)], by decide, by decide⟩, ?_⟩,
    ⟨⟨boxA, [(arrow, boxB), (arrow, c)], by decide, by decide⟩, ?_⟩⟩
  · unfold Chain.Kept
    decide +kernel
  · unfold Chain.Kept
    decide +kernel

end DiagramGraph.Mermaid
