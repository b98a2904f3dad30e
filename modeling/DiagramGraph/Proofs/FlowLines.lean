/-
DiagramGraph.Proofs.FlowLines — the printed lines of a flowchart, read
back one at a time.

  §1 Names   — before a space and at the end of a line a name is a token
               in one way only, and it has no label.
  §2 Boxes   — `id["label"]` is a token with that label. Its shape can end
               at any bracket of the label, so it is no edge as long as
               no glyph follows one of them (`LeavesBox`).
  §3 Edges   — `A glyph B` and `A glyph|label| B` are the edges they were
               printed for.

All ways in which the forms of an edge can fit are looked at, so nothing
here depends on which of them is tried first, apart from the order of
the glyphs.
-/
import DiagramGraph.Mermaid.Flowchart
import DiagramGraph.Mermaid.Writer
import DiagramGraph.Proofs.TokenParts

namespace DiagramGraph.Mermaid

open Text Label

/-! ## §1 Names -/

/-- No shape stands where nothing opens one. -/
theorem starts_eq_nil {rest : Text} (h : ∀ c ∈ rest.head?, c ∉ openers) :
    shapes.flatMap (Shape.starts rest) = [] := by
  cases rest with
  | nil => rfl
  | cons c rest =>
    have hmark : ∀ mark ∈ openers, (mark == c) = false := by
      intro mark hm
      rw [beq_eq_false_iff_ne]
      rintro rfl
      exact h mark rfl hm
    have hbox := hmark '[' (by decide)
    have hround := hmark '(' (by decide)
    have hbrace := hmark '\x7b' (by decide)
    simp [shapes, Shape.starts, after?, List.isPrefixOf, hbox, hround, hbrace]

/-- Where a token cannot go on: at the end of the text, or before a
character that neither belongs to a name nor opens a shape or a style. -/
def EndsToken (rest : Text) : Prop :=
  ∀ c ∈ rest.head?, isWord c = false ∧ c ∉ openers ∧ c ≠ ':'

theorem endsToken_nil : EndsToken [] := by simp [EndsToken]

/-- The characters that glyphs are made of. -/
def strokes : Text := "-.=>".toList

theorem endsToken_stroke {c : Char} (hc : c ∈ strokes) (rest : Text) : EndsToken (c :: rest) := by
  have hall : ∀ x ∈ strokes, isWord x = false ∧ x ∉ openers ∧ x ≠ ':' :=
    forall_mem_of_all (by decide)
  intro x hx
  obtain rfl : c = x := by simpa using hx
  exact hall c hc

theorem endsToken_blank {c : Char} (hc : isBlank c = true) (rest : Text) : EndsToken (c :: rest) := by
  have hall : ∀ x ∈ ':' :: openers, isBlank x = false := forall_mem_of_all (by decide)
  have hnot : c ∉ ':' :: openers := by
    intro hm
    rw [hall c hm] at hc
    exact absurd hc (by decide)
  intro x hx
  obtain rfl : c = x := by simpa using hx
  exact ⟨isWord_eq_false_of_isBlank hc, fun hm => hnot (by simp [hm]), fun he => hnot (by simp [he])⟩

theorem EndsToken.starts {rest : Text} (h : EndsToken rest) :
    shapes.flatMap (Shape.starts rest) = [] := starts_eq_nil fun c hc => (h c hc).2.1

/-- No style stands where a token cannot go on. -/
theorem EndsToken.takeStyle {rest : Text} (h : EndsToken rest) : takeStyle rest = ([], rest) := by
  cases rest with
  | nil => rfl
  | cons c rest => exact takeStyle_cons (h c rfl).2.2 rest

/-- A name that cannot go on is a token in one way. -/
theorem tokens_name_append {id rest : Text} (h : IsName id) (hrest : EndsToken rest) :
    tokens (id ++ rest) = [(id, rest)] := by
  have hhead : ∀ c ∈ rest.head?, isWord c = false := fun c hc => (hrest c hc).1
  simp only [tokens, h.takeWhile_append hhead, h.dropWhile_append hhead, hrest.starts]
  simp [h.ne_nil, hrest.takeStyle]

theorem tokens_name_space {id : Text} (h : IsName id) (rest : Text) :
    tokens (id ++ ' ' :: rest) = [(id, ' ' :: rest)] :=
  tokens_name_append h (endsToken_blank (by decide) rest)

theorem tokens_name {id : Text} (h : IsName id) : tokens id = [(id, [])] := by
  simpa using tokens_name_append h endsToken_nil

theorem lastToken?_name {id : Text} (h : IsName id) : lastToken? id = some id := by
  rw [lastToken?, tokens_name h]
  rfl

theorem tokenParts_name {id : Text} (h : IsName id) : tokenParts id = (id, []) :=
  (isToken_name h).tokenParts_eq

/-! ## §2 Boxes -/

/-- A label in quotes. -/
def quotedText (label : Text) : Text := '"' :: (label ++ ['"'])

/-- The shape that a labelled box is printed with. -/
def boxShape (label : Text) : Text := '[' :: (quotedText label ++ [']'])

/-- The token that a labelled box is printed as. -/
def boxToken (id label : Text) : Text := id ++ boxShape label

theorem head?_boxShape (label : Text) : ∀ c ∈ (boxShape label).head?, isWord c = false := by
  intro c hc
  obtain rfl : '[' = c := by simpa [boxShape] using hc
  decide

/-- A flowchart glyph stands in the text. -/
def HasGlyph (t : Text) : Prop := ∃ g ∈ flowGlyphs, g.sign <:+: t

instance (t : Text) : Decidable (HasGlyph t) :=
  inferInstanceAs (Decidable (∃ g ∈ flowGlyphs, g.sign <:+: t))

/-- A bracket of the text is followed by a glyph, perhaps after a style
and blanks: in a box, the text would end the box and begin an edge. -/
def LeavesBox (t : Text) : Prop :=
  ∃ before after, t = before ++ ']' :: after ∧ ∃ g ∈ flowGlyphs, g.sign <+: trimStart (takeStyle after).2

theorem leavesBox_cons_iff {c : Char} {t : Text} : LeavesBox (c :: t) ↔
    c = ']' ∧ (∃ g ∈ flowGlyphs, g.sign <+: trimStart (takeStyle t).2) ∨ LeavesBox t := by
  constructor
  · rintro ⟨before, after, ht, hglyph⟩
    cases before with
    | nil =>
      obtain ⟨rfl, rfl⟩ := List.cons.inj ht
      exact .inl ⟨rfl, hglyph⟩
    | cons d before => exact .inr ⟨before, after, (List.cons.inj ht).2, hglyph⟩
  · rintro (⟨rfl, hglyph⟩ | ⟨before, after, rfl, hglyph⟩)
    · exact ⟨[], t, rfl, hglyph⟩
    · exact ⟨c :: before, after, rfl, hglyph⟩

instance decidableLeavesBox : (t : Text) → Decidable (LeavesBox t)
  | [] => .isFalse (by simp [LeavesBox])
  | _ :: t =>
    have := decidableLeavesBox t
    decidable_of_iff _ leavesBox_cons_iff.symm

/-- A text without brackets or without glyphs stays in its box. -/
theorem not_leavesBox {t : Text} (h : ¬ (']' ∈ t ∧ HasGlyph t)) : ¬ LeavesBox t := by
  rintro ⟨before, after, rfl, g, hg, hprefix⟩
  have hstyle : (takeStyle after).2 <:+ after := ⟨_, takeStyle_append after⟩
  have hsuffix : trimStart (takeStyle after).2 <:+ after := (suffix_trimStart _).trans hstyle
  have hinfix : g.sign <:+: before ++ ']' :: after :=
    hprefix.isInfix.trans (hsuffix.trans ⟨before ++ [']'], by simp⟩).isInfix
  exact h ⟨by simp, g, hg, hinfix⟩

/-- A style is taken off before a character that is no part of one. -/
theorem snd_takeStyle_append {c : Char} (hc : c ∉ ":::".toList) (hword : isWord c = false)
    (t rest : Text) : (takeStyle (t ++ c :: rest)).2 = (takeStyle t).2 ++ c :: rest := by
  unfold takeStyle
  cases h : after? ":::".toList t with
  | none =>
    have hnone : after? ":::".toList (t ++ c :: rest) = none := by
      refine if_neg fun hp => ?_
      have hprefix : ":::".toList <+: t :=
        prefix_of_prefix_append_cons hc (List.isPrefixOf_iff_prefix.mp hp)
      rw [after?, if_pos (List.isPrefixOf_iff_prefix.mpr hprefix)] at h
      exact absurd h (by simp)
    rw [hnone]
  | some r =>
    have hsome : after? ":::".toList (t ++ c :: rest) = some (r ++ c :: rest) := by
      rw [after?_eq_some_iff.mp h, List.append_assoc, after?_append]
    rw [hsome]
    dsimp only
    rw [takeWhile_append_cons hword, dropWhile_append_cons hword]
    split <;> rfl

/-- A character of a text is its last one, or stands before that. -/
theorem eq_nil_or_of_concat_eq {x y : Char} {a b c : Text} (h : a ++ [y] = b ++ x :: c) :
    (c = [] ∧ x = y) ∨ ∃ d, a = b ++ x :: d ∧ c = d ++ [y] := by
  rcases List.eq_nil_or_concat c with rfl | ⟨d, z, rfl⟩
  · obtain ⟨-, he⟩ := List.append_inj' h rfl
    exact .inl ⟨rfl, by simpa using he.symm⟩
  · rw [List.concat_eq_append] at h ⊢
    rw [← List.cons_append, ← List.append_assoc] at h
    obtain ⟨ha, he⟩ := List.append_inj' h rfl
    obtain rfl : y = z := by simpa using he
    exact .inr ⟨d, ha, rfl⟩

/-- A sign has no character that a name, a quote or a bracket could give it. -/
theorem sign_of_mem_flowGlyphs : ∀ g ∈ flowGlyphs,
    '[' ∉ g.sign ∧ '"' ∉ g.sign ∧ ']' ∉ g.sign ∧ g.sign ≠ [] ∧
      g.sign.any isWord = false := by
  decide

section Box

variable {id label : Text}

/-- Of the shapes, only the box can open where a box was printed. -/
theorem starts_boxShape (label : Text) : shapes.flatMap (Shape.starts (boxShape label)) =
    (closingsOf [']'] (quotedText label ++ [']'])).map (fun s => ('[' :: (s.1 ++ [']']), s.2)) := by
  have hbox : Shape.starts (boxShape label) ⟨['['], [']']⟩ =
      (closingsOf [']'] (quotedText label ++ [']'])).map
        (fun s => ('[' :: (s.1 ++ [']']), s.2)) := rfl
  rw [← hbox]
  simp [shapes, Shape.starts, after?, List.isPrefixOf, boxShape, quotedText]

/-- Where the token of a box can end: before the shape, at the end of the
line, or after a bracket of the label and the style that follows it. -/
theorem rest_of_mem_tokens (hid : IsName id) {token rest : Text}
    (h : (token, rest) ∈ tokens (boxToken id label)) :
    rest = boxShape label ∨ rest = [] ∨
      ∃ before after, label = before ++ ']' :: after ∧
        rest = (takeStyle after).2 ++ ['"', ']'] := by
  simp only [boxToken, tokens, hid.takeWhile_append (head?_boxShape label),
    hid.dropWhile_append (head?_boxShape label), starts_boxShape, List.isEmpty_iff, hid.ne_nil,
    if_false, List.mem_map, List.mem_append, List.mem_singleton] at h
  obtain ⟨⟨shape, r⟩, hr, he⟩ := h
  obtain ⟨-, rfl⟩ := Prod.mk.inj he
  rcases hr with ⟨⟨inner, r'⟩, hmem, heq⟩ | hr
  · obtain ⟨-, rfl⟩ := Prod.mk.inj heq
    have happend : quotedText label ++ [']'] = inner ++ ']' :: r' := by
      simpa using append_of_mem_closingsOf hmem
    rcases eq_nil_or_of_concat_eq happend with ⟨rfl, -⟩ | ⟨d, hquoted, rfl⟩
    · exact .inr (.inl rfl)
    · -- the bracket stands between the quotes
      obtain ⟨before, hinner⟩ : ∃ before, label ++ ['"'] = before ++ ']' :: d := by
        cases inner with
        | nil => exact absurd (List.cons.inj hquoted).1 (by decide)
        | cons c before => exact ⟨before, (List.cons.inj hquoted).2⟩
      obtain ⟨after, hlabel, rfl⟩ :=
        (eq_nil_or_of_concat_eq hinner).resolve_left fun h => absurd h.2 (by decide)
      refine .inr (.inr ⟨before, after, hlabel, ?_⟩)
      rw [List.append_assoc]
      exact snd_takeStyle_append (by decide) (by decide) after [']']
  · obtain ⟨-, rfl⟩ := Prod.mk.inj hr
    exact .inl rfl

/-- No glyph follows the token of a box, wherever the token ends. -/
theorem not_prefix_of_mem_tokens (hid : IsName id) (hl : ¬ LeavesBox label)
    {token rest : Text} (h : (token, rest) ∈ tokens (boxToken id label)) :
    ∀ g ∈ flowGlyphs, ¬ g.sign <+: trimStart rest := by
  intro g hg hprefix
  obtain ⟨hopen, hquote, -, hne, -⟩ := sign_of_mem_flowGlyphs g hg
  rcases rest_of_mem_tokens hid h with rfl | rfl | ⟨before, after, hlabel, rfl⟩
  · have hstart : trimStart (boxShape label) = boxShape label := rfl
    rw [hstart] at hprefix
    exact hne (List.prefix_nil.mp (prefix_of_prefix_append_cons (u := []) hopen hprefix))
  · exact hne (List.prefix_nil.mp hprefix)
  · have hstart : trimStart ((takeStyle after).2 ++ ['"', ']']) =
        trimStart (takeStyle after).2 ++ ['"', ']'] :=
      dropWhile_append_cons (by decide) [']'] _
    rw [hstart] at hprefix
    exact hl ⟨before, after, hlabel, g, hg, prefix_of_prefix_append_cons hquote hprefix⟩

theorem isToken_boxToken (hid : IsName id) (label : Text) :
    IsToken (boxToken id label) id (boxShape label) [] where
  text := by simp [boxToken]
  isName := hid
  isShaped := .inr ⟨⟨"[".toList, "]".toList⟩, by decide, quotedText label, rfl⟩
  isStyle := .inl rfl

/-- The whole line of a box is a token. -/
theorem isSome_lastToken?_boxToken (hid : IsName id) (hl : '\n' ∉ label) :
    (lastToken? (boxToken id label)).isSome = true := by
  have hline : '\n' ∉ boxToken id label := by
    simpa [boxToken, boxShape, quotedText, hl] using hid.oneLine.1
  exact (isToken_boxToken hid label).isSome_lastToken? hline

theorem inside?_boxShape (label : Text) :
    shapes.findSome? (Shape.inside? (boxShape label)) = some (quotedText label) := by
  have hbox : Shape.inside? (boxShape label) ⟨"[".toList, "]".toList⟩ = some (quotedText label) :=
    (inside?_eq_some_iff (by decide)).mpr rfl
  have hearlier : (shapes.take 3).findSome? (Shape.inside? (boxShape label)) = none := rfl
  rw [← List.take_append_drop 3 shapes, List.findSome?_append, hearlier]
  exact (List.findSome?_cons_of_isSome (by rw [hbox]; rfl)).trans hbox

theorem tokenParts_boxToken (hid : IsName id) :
    tokenParts (boxToken id label) = (id, clean (quotedText label)) := by
  rw [(isToken_boxToken hid label).tokenParts_eq, inside?_boxShape]
  rfl

end Box

theorem glyphs_eq_nil {gs : List FlowGlyph} {rest : Text}
    (h : ∀ g ∈ gs, ¬ g.sign <+: trimStart rest) : Edge.glyphs gs rest = [] := by
  rw [Edge.glyphs, List.filterMap_eq_nil_iff]
  intro g hg
  rw [Option.map_eq_none_iff]
  exact if_neg fun hp => h g hg (List.isPrefixOf_iff_prefix.mp hp)

/-- A line none of whose tokens is followed by a glyph is no edge of any form. -/
theorem ofLine?_eq_none {line : Text}
    (h : ∀ s ∈ tokens line, ∀ g ∈ flowGlyphs, ¬ g.sign <+: trimStart s.2) :
    Edge.ofLine? line = none := by
  have hpiped : Edge.piped? line = none := by
    rw [Edge.piped?, List.findSome?_eq_none_iff]
    intro s hs
    simp only [glyphs_eq_nil (h s hs), List.findSome?_nil]
  have hspaced : Edge.spaced? line = none := by
    rw [Edge.spaced?, List.findSome?_eq_none_iff]
    intro s hs
    have hdash : after? "--".toList (trimStart s.2) = none :=
      if_neg fun hp => h s hs ⟨"--".toList, .link⟩ (by decide) (List.isPrefixOf_iff_prefix.mp hp)
    simp only [hdash]
  have hbare : Edge.bare? line = none := by
    rw [Edge.bare?, List.findSome?_eq_none_iff]
    intro s hs
    simp only [glyphs_eq_nil (h s hs), List.findSome?_nil]
  rw [Edge.ofLine?, hpiped, hspaced, hbare]
  rfl

theorem ofLine?_boxToken {id label : Text} (hid : IsName id) (hl : ¬ LeavesBox label) : Edge.ofLine? (boxToken id label) = none :=
  ofLine?_eq_none fun _ hs => not_prefix_of_mem_tokens hid hl hs

theorem ofLine?_name {id : Text} (h : IsName id) : Edge.ofLine? id = none := by
  refine ofLine?_eq_none fun s hs g hg hp => ?_
  rw [tokens_name h, List.mem_singleton] at hs
  subst hs
  exact (sign_of_mem_flowGlyphs g hg).2.2.2.1 (List.prefix_nil.mp hp)

/-! ## §3 Edges -/

/-- The relation that a flowchart keeps of a link: its glyphs tell four
relations apart, and every other one is drawn as an association. -/
def kept : Option Relation → Relation
  | some .dependency => .dependency
  | some .composition => .composition
  | some .link => .link
  | _ => .association

/-- The glyphs that can stand where one was printed: that one first, and
after it only what is cut off too early. -/
theorem glyphs_flowSign (r : Option Relation) (more : Text) :
    ∃ others, Edge.glyphs flowGlyphs (' ' :: (flowSign r ++ more)) =
        (⟨flowSign r, kept r⟩, more) :: others ∧
      ∀ s ∈ others, s.2 = '>' :: more ∨ s.2 = '-' :: more := by
  rcases r with _ | r
  · exact ⟨[(⟨"--".toList, .link⟩, '>' :: more)], rfl, by simp⟩
  · cases r with
    | dependency => exact ⟨[], rfl, by simp⟩
    | composition => exact ⟨[], rfl, by simp⟩
    | link => exact ⟨[(⟨"--".toList, .link⟩, '-' :: more)], rfl, by simp⟩
    | inheritance => exact ⟨[(⟨"--".toList, .link⟩, '>' :: more)], rfl, by simp⟩
    | realization => exact ⟨[(⟨"--".toList, .link⟩, '>' :: more)], rfl, by simp⟩
    | aggregation => exact ⟨[(⟨"--".toList, .link⟩, '>' :: more)], rfl, by simp⟩
    | association => exact ⟨[(⟨"--".toList, .link⟩, '>' :: more)], rfl, by simp⟩

/-- The printed sign is read as the relation that is kept. -/
theorem flowRelation_flowSign (r : Option Relation) : flowRelation (flowSign r) = kept r := by
  rcases r with _ | r
  · decide
  · cases r <;> decide

section Line

variable {source target : Text} (r : Option Relation)

/-- A printed glyph leaves no blank for a spaced label. -/
theorem spaced?_flowSign (hs : IsName source) (more : Text) :
    Edge.spaced? (source ++ ' ' :: (flowSign r ++ more)) = none := by
  have hdash : ∀ rest, after? "--".toList (trimStart (' ' :: (flowSign r ++ more))) = some rest →
      Edge.afterBlanks rest = [] := by
    intro rest hrest
    rcases r with _ | r
    · cases hrest; rfl
    · cases r <;> first | (cases hrest; rfl) | cases hrest
  rw [Edge.spaced?, tokens_name_space hs, List.findSome?_singleton]
  dsimp only
  split
  · rfl
  · next rest hrest => rw [hdash rest hrest]; rfl

theorem pipedLabel?_eq_none {t : Text} (h : ∀ c ∈ (trimStart t).head?, c ≠ '|') :
    Edge.pipedLabel? t = none := by
  unfold Edge.pipedLabel?
  split
  · next inner he => exact absurd rfl (h '|' (by simp [he]))
  · rfl

theorem ofLine?_bare (hs : IsName source) (ht : IsName target) :
    Edge.ofLine? (source ++ ' ' :: (flowSign r ++ ' ' :: target)) =
      some ⟨source, target, kept r, []⟩ := by
  obtain ⟨others, hglyphs, hothers⟩ := glyphs_flowSign r (' ' :: target)
  have htarget : trimStart (' ' :: target) = target :=
    trimStart_eq_self (t := target) fun c hc => ht.isBlank c (List.mem_of_mem_head? hc)
  have hpiped : Edge.piped? (source ++ ' ' :: (flowSign r ++ ' ' :: target)) = none := by
    rw [Edge.piped?, tokens_name_space hs, List.findSome?_singleton]
    simp only [hglyphs, List.findSome?_eq_none_iff]
    intro s hmem
    have hlabel : Edge.pipedLabel? s.2 = none := by
      rcases List.mem_cons.mp hmem with rfl | hmem
      · refine pipedLabel?_eq_none fun c hc he => ?_
        rw [htarget] at hc
        exact ht.not_mem (by decide) (he ▸ List.mem_of_mem_head? hc)
      · rcases hothers s hmem with he | he <;> rw [he] <;> rfl
    simp only [hlabel]
  have hbare : Edge.bare? (source ++ ' ' :: (flowSign r ++ ' ' :: target)) =
      some ⟨source, target, kept r, []⟩ := by
    rw [Edge.bare?, tokens_name_space hs, List.findSome?_singleton]
    simp only [hglyphs, List.findSome?_cons, htarget, lastToken?_name ht, Option.map_some,
      flowRelation_flowSign]
  rw [Edge.ofLine?, hpiped, spaced?_flowSign r hs, hbare]
  rfl

theorem ofLine?_piped (hs : IsName source) (ht : IsName target) {label : Text} (hl : '|' ∉ label) :
    Edge.ofLine? (source ++ ' ' :: (flowSign r ++ '|' :: (label ++ '|' :: ' ' :: target))) =
      some ⟨source, target, kept r, label⟩ := by
  obtain ⟨others, hglyphs, -⟩ := glyphs_flowSign r ('|' :: (label ++ '|' :: ' ' :: target))
  have htarget : trimStart (' ' :: target) = target :=
    trimStart_eq_self (t := target) fun c hc => ht.isBlank c (List.mem_of_mem_head? hc)
  have hlabel : Edge.pipedLabel? ('|' :: (label ++ '|' :: ' ' :: target)) =
      some (label, ' ' :: target) := cutAt_append hl (' ' :: target)
  rw [Edge.ofLine?, Edge.piped?, tokens_name_space hs, List.findSome?_singleton]
  simp only [hglyphs, List.findSome?_cons, hlabel, htarget, lastToken?_name ht, Option.map_some,
    flowRelation_flowSign]
  rfl

end Line
end DiagramGraph.Mermaid
