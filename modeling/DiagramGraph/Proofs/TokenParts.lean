/-
DiagramGraph.Proofs.TokenParts — a node token is taken apart as it is
recognised.

  §1 Marks       — the characters of the marks around a shape. No
                   character both opens and closes, so the two marks of a
                   shape never overlap (`inside?_eq_some_iff`).
  §2 Tokens      — `IsToken`: a name, perhaps a shape, perhaps a style.
                   Those are the texts that are recognised
                   (`isSome_lastToken?_iff`).
  §3 Their parts — trimming leaves a token alone, its style is dropped and
                   nothing else, and its label is the cleaned text inside
                   the first shape of the table that fits
                   (`isSome_lastToken?_iff_tokenParts`).

Recognising scans for a closing mark from the left and goes on to a later
one where the text does not end; taking apart looks at both ends only.
Marks that do not belong together, as in `A[[x]` and `A([x)`, and colons
inside a shape are where the two could part: the first of these tokens
is a box with the text `[x` to both.
-/
import DiagramGraph.Mermaid.NodeToken
import DiagramGraph.Proofs.LabelTheorems

namespace DiagramGraph.Mermaid

open Text Label

/-! ## §1 Marks -/

/-- The characters that open a shape. -/
def openers : Text := "[(\x7b".toList

/-- The characters that close a shape. -/
def closers : Text := "])\x7d".toList

/-- The marks of a shape are made of its two kinds of characters. -/
theorem marks_of_mem_shapes (s : Shape) (hs : s ∈ shapes) : s.opening ≠ [] ∧ s.closing ≠ [] ∧
    (∀ c ∈ s.opening, c ∈ openers) ∧ ∀ c ∈ s.closing, c ∈ closers := by
  have hall : ∀ s ∈ shapes, s.opening ≠ [] ∧ s.closing ≠ [] ∧
      s.opening.all (fun c => decide (c ∈ openers)) = true ∧
      s.closing.all (fun c => decide (c ∈ closers)) = true := by decide
  obtain ⟨hopening, hclosing, hopen, hclose⟩ := hall s hs
  exact ⟨hopening, hclosing, forall_mem_of_all hopen, forall_mem_of_all hclose⟩

/-- No character both opens and closes. -/
theorem not_mem_closers {c : Char} (h : c ∈ openers) : c ∉ closers := by
  have hall : ∀ c ∈ openers, c ∉ closers := forall_mem_of_all (by decide)
  exact hall c h

/-- Neither kind stands in a name, among blanks or in a style. -/
theorem spec_of_mem_marks {c : Char} (h : c ∈ openers ∨ c ∈ closers) :
    isWord c = false ∧ isBlank c = false ∧ c ∉ ":::".toList := by
  have hall : ∀ c ∈ openers ++ closers,
      isWord c = false ∧ isBlank c = false ∧ c ∉ ":::".toList := forall_mem_of_all (by decide)
  exact hall c (List.mem_append.mpr h)

/-- Both marks of a shape start with a character of their kind. -/
theorem exists_marks_cons {s : Shape} (hs : s ∈ shapes) :
    (∃ c t, s.opening = c :: t ∧ c ∈ openers) ∧ ∃ c t, s.closing = c :: t ∧ c ∈ closers := by
  have hcons {mark kind : Text} (hne : mark ≠ []) (hmark : ∀ c ∈ mark, c ∈ kind) :
      ∃ c t, mark = c :: t ∧ c ∈ kind := by
    obtain ⟨c, t, rfl⟩ := List.exists_cons_of_ne_nil hne
    exact ⟨c, t, rfl, hmark c (by simp)⟩
  obtain ⟨hopening, hclosing, hopen, hclose⟩ := marks_of_mem_shapes s hs
  exact ⟨hcons hopening hopen, hcons hclosing hclose⟩

/-- The marks of the shape stand at both ends of the text. -/
def Shape.Fits (t : Text) (s : Shape) : Prop := s.opening <+: t ∧ s.closing <:+ t

theorem inside?_eq_none_iff {t : Text} {s : Shape} : s.inside? t = none ↔ ¬ s.Fits t := by
  simp [Shape.inside?, Shape.Fits]

/-- Marks at both ends do not overlap: what they share would both open
and close. -/
theorem Shape.Fits.exists_inner {t : Text} {s : Shape} (h : s.Fits t) (hs : s ∈ shapes) :
    ∃ inner, t = s.opening ++ (inner ++ s.closing) := by
  obtain ⟨⟨tail, htail⟩, ⟨front, hfront⟩⟩ := h
  obtain ⟨-, -, hopen, hclose⟩ := marks_of_mem_shapes s hs
  rcases List.append_eq_append_iff.mp (htail.trans hfront.symm) with
    ⟨inner, -, hinner⟩ | ⟨shared, hopening, hclosing⟩
  · exact ⟨inner, by rw [← htail, hinner]⟩
  · cases shared with
    | nil => exact ⟨[], by rw [← htail, hclosing]; rfl⟩
    | cons c shared =>
      have hc := hopen c (by simp [hopening])
      exact absurd (hclose c (by simp [hclosing])) (not_mem_closers hc)

/-- The text inside a shape is what stands between its marks. -/
theorem inside?_eq_some_iff {t inner : Text} {s : Shape} (hs : s ∈ shapes) :
    s.inside? t = some inner ↔ t = s.opening ++ (inner ++ s.closing) := by
  have hmarked (inner : Text) : s.inside? (s.opening ++ (inner ++ s.closing)) = some inner := by
    have hopen : s.opening.isPrefixOf (s.opening ++ (inner ++ s.closing)) = true :=
      List.isPrefixOf_iff_prefix.mpr (List.prefix_append _ _)
    have hclose : s.closing.isSuffixOf (s.opening ++ (inner ++ s.closing)) = true :=
      List.isSuffixOf_iff_suffix.mpr ⟨s.opening ++ inner, by rw [List.append_assoc]⟩
    rw [Shape.inside?, hopen, hclose]
    simp
  constructor
  · intro h
    have hfits : s.Fits t := by
      by_contra hnot
      rw [inside?_eq_none_iff.mpr hnot] at h
      cases h
    obtain ⟨inner', rfl⟩ := hfits.exists_inner hs
    rw [Option.some.inj ((hmarked inner').symm.trans h)]
  · rintro rfl
    exact hmarked inner

/-! ## §2 Tokens -/

/-- A text that is in the marks of some shape. -/
def IsShaped (t : Text) : Prop := ∃ s ∈ shapes, ∃ inner, t = s.opening ++ (inner ++ s.closing)

/-- A style `:::name`. -/
def IsStyle (t : Text) : Prop := ∃ name, IsName name ∧ t = ":::".toList ++ name

/-- The text is a name, perhaps in front of a shape, perhaps with a style
behind. -/
structure IsToken (t id shape style : Text) : Prop where
  text : t = id ++ (shape ++ style)
  isName : IsName id
  isShaped : shape = [] ∨ IsShaped shape
  isStyle : style = [] ∨ IsStyle style

theorem isToken_name {id : Text} (h : IsName id) : IsToken id id [] [] :=
  ⟨by simp, h, .inl rfl, .inl rfl⟩

/-- What is taken off as a style is one. -/
theorem isStyle_takeStyle (t : Text) : (takeStyle t).1 = [] ∨ IsStyle (takeStyle t).1 := by
  unfold takeStyle
  split
  · split
    · exact .inl rfl
    · next hne => exact .inr ⟨_, isName_takeWhile (by simpa using hne), rfl⟩
  · exact .inl rfl

theorem exists_of_mem_starts {t : Text} {s : Shape} {shape rest : Text}
    (h : (shape, rest) ∈ s.starts t) : ∃ inner, t = s.opening ++ (inner ++ (s.closing ++ rest)) := by
  unfold Shape.starts at h
  cases hopen : after? s.opening t with
  | none => simp [hopen] at h
  | some inside =>
    simp only [hopen, List.mem_map] at h
    obtain ⟨⟨inner, r⟩, hmem, he⟩ := h
    obtain ⟨-, rfl⟩ := Prod.mk.inj he
    exact ⟨inner, by rw [after?_eq_some_iff.mp hopen, append_of_mem_closingsOf hmem, List.append_assoc]⟩

theorem isShaped_of_mem_starts {t : Text} {s : Shape} (hs : s ∈ shapes) {shape rest : Text}
    (h : (shape, rest) ∈ s.starts t) : IsShaped shape := by
  obtain ⟨inner, hinner⟩ := exists_of_mem_starts h
  have hshape : shape ++ rest = s.opening ++ (inner ++ s.closing) ++ rest := by
    rw [← append_of_mem_starts h, hinner]
    simp
  exact ⟨s, hs, inner, List.append_cancel_right hshape⟩

/-- Whatever a text starts with as a token is one. -/
theorem isToken_of_mem_tokens {t token rest : Text} (h : (token, rest) ∈ tokens t) :
    ∃ id shape style, IsToken token id shape style := by
  simp only [tokens] at h
  split at h
  · simp at h
  · next hne =>
    obtain ⟨⟨shape, r⟩, hmem, he⟩ := List.mem_map.mp h
    obtain ⟨rfl, rfl⟩ := Prod.mk.inj he
    refine ⟨_, shape, (takeStyle r).1, List.append_assoc _ _ _, isName_takeWhile (by simpa using hne), ?_,
      isStyle_takeStyle r⟩
    rcases List.mem_append.mp hmem with hmem | hmem
    · obtain ⟨s, hs, hstarts⟩ := List.mem_flatMap.mp hmem
      exact .inr (isShaped_of_mem_starts hs hstarts)
    · exact .inl (Prod.mk.inj (List.mem_singleton.mp hmem)).1

/-- The text of a shape in one line can end at its closing mark. -/
theorem mem_closingsOf {c : Char} (hc : c ≠ '\n') (closing rest : Text) :
    ∀ {inner : Text}, '\n' ∉ inner →
      (inner, rest) ∈ closingsOf (c :: closing) (inner ++ (c :: closing ++ rest))
  | [], _ => by
      have hafter : after? (c :: closing) (c :: (closing ++ rest)) = some rest :=
        after?_append (c :: closing) rest
      rw [List.nil_append, List.cons_append, closingsOf, if_neg hc, hafter]
      simp
  | d :: inner, hline => by
      obtain ⟨hd, hinner⟩ := not_or.mp (mt List.mem_cons.mpr hline)
      have hmem := mem_closingsOf hc closing rest hinner
      rw [List.cons_append, closingsOf, if_neg (Ne.symm hd)]
      exact List.mem_append_right _ (List.mem_map.mpr ⟨_, hmem, rfl⟩)

theorem IsShaped.mem_starts {shape : Text} (h : IsShaped shape) (hline : '\n' ∉ shape) (rest : Text) :
    (shape, rest) ∈ shapes.flatMap (Shape.starts (shape ++ rest)) := by
  obtain ⟨s, hs, inner, rfl⟩ := h
  obtain ⟨-, c, closing, hclosing, hc⟩ := exists_marks_cons hs
  have hfeed : c ≠ '\n' := by
    rintro rfl
    exact absurd hc (by decide)
  have hinner : '\n' ∉ inner := fun hm => hline (by simp [hm])
  have hmem := mem_closingsOf hfeed closing rest hinner
  refine List.mem_flatMap.mpr ⟨s, hs, ?_⟩
  rw [Shape.starts, List.append_assoc, after?_append, hclosing, List.append_assoc]
  exact List.mem_map.mpr ⟨_, hmem, by simp⟩

namespace IsToken

variable {t id shape style : Text}

/-- What follows the name is no part of it. -/
theorem head?_rest (h : IsToken t id shape style) : ∀ c ∈ (shape ++ style).head?, isWord c = false := by
  intro c hc
  rcases h.isShaped with rfl | ⟨s, hs, inner, rfl⟩
  · rcases h.isStyle with rfl | ⟨name, -, rfl⟩
    · simp at hc
    · obtain rfl : ':' = c := by simpa using hc
      decide
  · obtain ⟨⟨d, u, hopening, hd⟩, -⟩ := exists_marks_cons hs
    obtain rfl : d = c := by simpa [hopening] using hc
    exact (spec_of_mem_marks (.inl hd)).1

/-- The name of a token is all that it starts with of word characters. -/
theorem takeWhile_eq (h : IsToken t id shape style) : t.takeWhile isWord = id := by
  rw [h.text, h.isName.takeWhile_append h.head?_rest]

theorem dropWhile_eq (h : IsToken t id shape style) : t.dropWhile isWord = shape ++ style := by
  rw [h.text, h.isName.dropWhile_append h.head?_rest]

theorem takeStyle_style (h : IsToken t id shape style) : takeStyle style = (style, []) := by
  rcases h.isStyle with rfl | ⟨name, hname, rfl⟩
  · rfl
  · have hstyle : takeStyle (":::".toList ++ (name ++ [])) = (":::".toList ++ name, []) :=
      takeStyle_colons hname.ne_nil (by simpa using hname.takeWhile_self)
        (by simpa using hname.dropWhile_self)
    simpa using hstyle

/-- A token in one line is recognised. -/
theorem isSome_lastToken? (h : IsToken t id shape style) (hline : '\n' ∉ t) :
    (lastToken? t).isSome = true := by
  have hmem : (t, []) ∈ tokens t := by
    have hshape : (shape, style) ∈ shapes.flatMap (Shape.starts (shape ++ style)) ++
        [([], shape ++ style)] := by
      rcases h.isShaped with rfl | hshaped
      · simp
      · refine List.mem_append_left _ (hshaped.mem_starts (fun hm => hline ?_) style)
        simp [h.text, hm]
    simp only [tokens, h.takeWhile_eq, h.dropWhile_eq, List.isEmpty_iff, h.isName.ne_nil, if_false]
    refine List.mem_map.mpr ⟨_, hshape, ?_⟩
    rw [h.takeStyle_style, List.append_assoc, ← h.text]
  rw [lastToken?, Option.isSome_map, List.find?_isSome]
  exact ⟨_, hmem, rfl⟩

end IsToken

/-- Of the texts in one line exactly the tokens are recognised. -/
theorem isSome_lastToken?_iff {t : Text} (hline : '\n' ∉ t) :
    (lastToken? t).isSome = true ↔ ∃ id shape style, IsToken t id shape style := by
  constructor
  · intro h
    rw [lastToken?, Option.isSome_map, List.find?_isSome] at h
    obtain ⟨⟨token, rest⟩, hmem, hend⟩ := h
    have htext := append_of_mem_tokens hmem
    obtain rfl : rest = [] := by
      refine ((Bool.or_eq_true _ _).mp hend).elim List.isEmpty_iff.mp fun hfeed => ?_
      obtain rfl : rest = ['\n'] := of_decide_eq_true hfeed
      exact absurd (by simp [htext]) hline
    rw [htext, List.append_nil]
    exact isToken_of_mem_tokens hmem
  · rintro ⟨id, shape, style, h⟩
    exact h.isSome_lastToken? hline

/-! ## §3 Their parts -/

/-- A text that ends with no word character has no style at its end. -/
theorem dropStyle_eq_self {t : Text} (h : ∀ c ∈ t.getLast?, isWord c = false) : dropStyle t = t := by
  have htake : t.reverse.takeWhile isWord = [] := by
    rw [← List.head?_reverse] at h
    cases hr : t.reverse with
    | nil => rfl
    | cons c u => simp [h c (by simp [hr])]
  unfold dropStyle
  dsimp only
  split
  · simp [htake]
  · rfl

theorem dropStyle_name {id : Text} (h : IsName id) : dropStyle id = id := by
  have hdrop : id.reverse.dropWhile isWord = [] :=
    List.dropWhile_eq_nil_iff.mpr fun c hc => h.isWord c (List.mem_reverse.mp hc)
  unfold dropStyle
  simp only [hdrop]
  rfl

namespace IsToken

variable {t id shape style : Text}

/-- A token starts with a word character. -/
theorem exists_cons (h : IsToken t id shape style) : ∃ c u, t = c :: u ∧ isWord c = true := by
  obtain ⟨c, u, hid, hc⟩ := h.isName.exists_cons
  exact ⟨c, u ++ (shape ++ style), by simp [h.text, hid], hc⟩

/-- It ends with a word character, or with a closing mark. -/
theorem exists_concat (h : IsToken t id shape style) :
    ∃ init c, t = init ++ [c] ∧ (isWord c = true ∨ c ∈ closers) := by
  have hlast {u v : Text} (hv : v ≠ []) (ht : t = u ++ v) :
      t = (u ++ v.dropLast) ++ [v.getLast hv] := by
    rw [ht, List.append_assoc, List.dropLast_concat_getLast]
  rcases h.isStyle with rfl | ⟨name, hname, rfl⟩
  · rcases h.isShaped with rfl | ⟨s, hs, inner, rfl⟩
    · have ht : t = [] ++ id := by simpa using h.text
      exact ⟨_, _, hlast h.isName.ne_nil ht, .inl (h.isName.isWord _ (List.getLast_mem _))⟩
    · obtain ⟨-, hne, -, hclose⟩ := marks_of_mem_shapes s hs
      have ht : t = (id ++ (s.opening ++ inner)) ++ s.closing := by simp [h.text]
      exact ⟨_, _, hlast hne ht, .inr (hclose _ (List.getLast_mem _))⟩
  · have ht : t = (id ++ (shape ++ ":::".toList)) ++ name := by simp [h.text]
    exact ⟨_, _, hlast hname.ne_nil ht, .inl (hname.isWord _ (List.getLast_mem _))⟩

/-- So it has no blank at either end. -/
theorem trimmed (h : IsToken t id shape style) : Trimmed t := by
  refine trim_eq_self_iff.mpr ⟨fun c hc => ?_, fun c hc => ?_⟩
  · obtain ⟨d, u, ht, hd⟩ := h.exists_cons
    obtain rfl : d = c := by simpa [ht] using hc
    exact isBlank_eq_false_of_isWord hd
  · obtain ⟨init, d, ht, hd⟩ := h.exists_concat
    obtain rfl : d = c := by simpa [ht] using hc
    exact hd.elim isBlank_eq_false_of_isWord fun hd => (spec_of_mem_marks (.inr hd)).2.1

/-- What is left when the style is dropped from a token. -/
theorem dropStyle_eq (h : IsToken t id shape style) : dropStyle t = id ++ shape := by
  rcases h.isStyle with rfl | ⟨name, hname, rfl⟩
  · have ht : t = id ++ shape := by simpa using h.text
    rw [ht]
    rcases h.isShaped with rfl | ⟨s, hs, inner, rfl⟩
    · rw [List.append_nil]
      exact dropStyle_name h.isName
    · obtain ⟨-, hne, -, hclose⟩ := marks_of_mem_shapes s hs
      refine dropStyle_eq_self fun c hc => ?_
      have hlast : c ∈ s.closing.getLast? := by
        simpa [List.getLast?_append, List.getLast?_eq_some_getLast hne] using hc
      exact (spec_of_mem_marks (.inr (hclose c (List.mem_of_mem_getLast? hlast)))).1
  · have hturned : t.reverse = name.reverse ++ (":::".toList ++ (id ++ shape).reverse) := by
      simp [h.text]
    have hword : ∀ c ∈ name.reverse, isWord c = true :=
      fun c hc => hname.isWord c (List.mem_reverse.mp hc)
    have hcolon : isWord ':' = false := by decide
    have htake : t.reverse.takeWhile isWord = name.reverse := by
      rw [hturned, List.takeWhile_append_of_pos hword]
      simp [hcolon]
    have hdrop : t.reverse.dropWhile isWord = ":::".toList ++ (id ++ shape).reverse := by
      rw [hturned, List.dropWhile_append_of_pos hword]
      simp [hcolon]
    simp only [dropStyle, htake, hdrop, after?_append]
    simp [hname.ne_nil]

/-- A token is taken apart into its name and the text of its shape. -/
theorem tokenParts_eq (h : IsToken t id shape style) :
    tokenParts t = (id, ((shapes.findSome? (Shape.inside? shape)).map clean).getD []) := by
  have hhead : ∀ c ∈ shape.head?, isWord c = false := by
    intro c hc
    refine h.head?_rest c ?_
    rw [List.head?_append, Option.mem_def.mp hc]
    rfl
  have htrim : trim t = t := h.trimmed
  simp only [tokenParts, htrim, h.dropStyle_eq, h.isName.takeWhile_append hhead,
    h.isName.dropWhile_append hhead, List.isEmpty_iff, h.isName.ne_nil, if_false]
  cases shapes.findSome? (Shape.inside? shape) <;> rfl

end IsToken

/-- The shape is the first of the table whose marks stand at both ends of
the text, and `inner` is what they enclose. -/
def FirstFit (t : Text) (s : Shape) (inner : Text) : Prop :=
  t = s.opening ++ (inner ++ s.closing) ∧
    ∃ earlier later, shapes = earlier ++ s :: later ∧ ∀ e ∈ earlier, ¬ e.Fits t

theorem findSome?_inside?_eq_some {t inner : Text}
    (h : shapes.findSome? (Shape.inside? t) = some inner) : ∃ s, FirstFit t s inner := by
  obtain ⟨earlier, s, later, htable, hinner, hearlier⟩ := List.findSome?_eq_some_iff.mp h
  refine ⟨s, (inside?_eq_some_iff (by simp [htable])).mp hinner, earlier, later, htable, ?_⟩
  exact fun e he => inside?_eq_none_iff.mp (hearlier e he)

/-- Some shape of the table fits a text in the marks of a shape. -/
theorem IsShaped.exists_firstFit {shape : Text} (h : IsShaped shape) :
    ∃ s inner, shapes.findSome? (Shape.inside? shape) = some inner ∧ FirstFit shape s inner := by
  obtain ⟨s, hs, inner, hinner⟩ := h
  have hsome : (shapes.findSome? (Shape.inside? shape)).isSome = true :=
    List.findSome?_isSome_iff.mpr ⟨s, hs, by rw [(inside?_eq_some_iff hs).mpr hinner]; rfl⟩
  obtain ⟨inner', hfind⟩ := Option.isSome_iff_exists.mp hsome
  obtain ⟨s', hfit⟩ := findSome?_inside?_eq_some hfind
  exact ⟨s', inner', hfind, hfit⟩

/-- A text in one line is recognised as a node token exactly if it is
taken apart without a rest: into all the word characters that it starts
with, a shape or nothing, and a style or nothing. Without a shape there
is no label; otherwise the label is the cleaned text inside the first
shape of the table that fits. -/
theorem isSome_lastToken?_iff_tokenParts {t : Text} (hline : '\n' ∉ t) :
    (lastToken? t).isSome = true ↔
      ∃ shape style, t = t.takeWhile isWord ++ (shape ++ style) ∧ t.takeWhile isWord ≠ [] ∧
        (style = [] ∨ IsStyle style) ∧ (tokenParts t).1 = t.takeWhile isWord ∧
        (shape = [] ∧ (tokenParts t).2 = [] ∨
          ∃ s inner, FirstFit shape s inner ∧ (tokenParts t).2 = clean inner) := by
  rw [isSome_lastToken?_iff hline]
  constructor
  · rintro ⟨id, shape, style, h⟩
    rw [h.takeWhile_eq, h.tokenParts_eq]
    refine ⟨shape, style, h.text, h.isName.ne_nil, h.isStyle, rfl, ?_⟩
    rcases h.isShaped with rfl | hshaped
    · exact .inl ⟨rfl, rfl⟩
    · obtain ⟨s, inner, hfind, hfit⟩ := hshaped.exists_firstFit
      exact .inr ⟨s, inner, hfit, by rw [hfind]; rfl⟩
  · rintro ⟨shape, style, htext, hne, hstyle, -, hlabel⟩
    refine ⟨_, shape, style, htext, isName_takeWhile hne, ?_, hstyle⟩
    rcases hlabel with ⟨hnil, -⟩ | ⟨s, inner, ⟨hshape, earlier, later, htable, -⟩, -⟩
    · exact .inl hnil
    · exact .inr ⟨s, by simp [htable], inner, hshape⟩

/-- Marks that do not belong together, and a style inside the shape. -/
def mixedToken : Text := "A([x]:::b):::c".toList

/-- It is a token: a box whose text keeps the other marks and the colons. -/
theorem isSome_lastToken?_iff_tokenParts_mixed :
    '\n' ∉ mixedToken ∧ (lastToken? mixedToken).isSome = true ∧
      tokenParts mixedToken = ("A".toList, "[x]:::b".toList) ∧
      ∃ shape style s inner, mixedToken = "A".toList ++ (shape ++ style) ∧
        (style = [] ∨ IsStyle style) ∧ FirstFit shape s inner ∧ clean inner = "[x]:::b".toList := by
  have hline : '\n' ∉ mixedToken := by decide
  have hsome : (lastToken? mixedToken).isSome = true := by decide
  have hparts : tokenParts mixedToken = ("A".toList, "[x]:::b".toList) := by decide
  have hname : mixedToken.takeWhile isWord = "A".toList := by decide
  obtain ⟨shape, style, htext, -, hstyle, -, hlabel⟩ :=
    (isSome_lastToken?_iff_tokenParts hline).mp hsome
  rw [hname] at htext
  rw [hparts] at hlabel
  obtain ⟨s, inner, hfit, hclean⟩ := hlabel.resolve_left fun h => absurd h.2 (by decide)
  exact ⟨hline, hsome, hparts, shape, style, s, inner, htext, hstyle, hfit, hclean.symm⟩

end DiagramGraph.Mermaid
