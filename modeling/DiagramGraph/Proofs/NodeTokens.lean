/-
DiagramGraph.Proofs.NodeTokens — nodes as a line of a flowchart writes
them, and where the tokens of such a line can end.

  §1 Written nodes  — `WrittenNode`: an identifier, perhaps a text in a
                      shape, perhaps a style. The text holds no mark of a
                      shape, no bar and no line feed.
  §2 First tokens   — a line that starts with a written node has that
                      node as the first of its tokens (`tokens_text`), and
                      a written node is taken apart into its identifier
                      and its cleaned text (`tokenParts_text`).
  §3 Other tokens   — where several nodes stand in a line, a token can end
                      at a later node that closes a shape that the first
                      one opens (`of_mem_tokens_joined`). Other tokens end
                      before a mark of a shape, where no statement goes on.

The order in which tokens are tried matters for §2 only: the nearest
closing mark comes first, and that is the one that was written.
-/
import DiagramGraph.Proofs.FlowLines

namespace DiagramGraph.Mermaid

open Text Label

/-! ## §1 Written nodes -/

/-- A text in a shape. -/
structure ShapedText where
  shape : Shape
  text : Text
  mem : shape ∈ shapes
  plain : ∀ c ∈ text, c ∉ openers ++ closers ++ ['|', '\n']

/-- The text with the marks around it. -/
def ShapedText.chars (s : ShapedText) : Text := s.shape.opening ++ (s.text ++ s.shape.closing)

/-- A node as a line writes it. -/
structure WrittenNode where
  id : Text
  shaped : Option ShapedText
  style : Option Text
  isName : IsName id
  isName_style : ∀ name ∈ style, IsName name

namespace WrittenNode

/-- The shape after the identifier, empty if there is none. -/
def shapeText (n : WrittenNode) : Text := (n.shaped.map ShapedText.chars).getD []

/-- The style after the shape, empty if there is none. -/
def styleText (n : WrittenNode) : Text := (n.style.map (":::".toList ++ ·)).getD []

/-- The node as it is written. -/
def text (n : WrittenNode) : Text := n.id ++ (n.shapeText ++ n.styleText)

/-- The label that the node shows, empty if it has no shape. -/
def label (n : WrittenNode) : Text := (n.shaped.map fun s => clean s.text).getD []

/-- A name on its own. -/
def ofName (id : Text) (h : IsName id) : WrittenNode := ⟨id, none, none, h, by simp⟩

/-- A name with a text in a shape. -/
def ofShape (id : Text) (s : ShapedText) (h : IsName id) : WrittenNode := ⟨id, some s, none, h, by simp⟩

end WrittenNode

namespace ShapedText

variable (s : ShapedText)

theorem not_mem_text {c : Char} (hc : c ∈ openers ++ closers ++ ['|', '\n']) : c ∉ s.text :=
  fun hm => s.plain c hm hc

theorem opener_not_mem_text {c : Char} (hc : c ∈ openers) : c ∉ s.text :=
  s.not_mem_text (by simp [hc])

theorem closer_not_mem_text {c : Char} (hc : c ∈ closers) : c ∉ s.text :=
  s.not_mem_text (by simp [hc])

end ShapedText

/-! ## §2 First tokens -/

/-- The nearest closing mark comes first. -/
theorem closingsOf_append {c : Char} (hc : c ≠ '\n') (closing rest : Text) :
    ∀ {text : Text}, c ∉ text → '\n' ∉ text →
      ∃ others, closingsOf (c :: closing) (text ++ (c :: closing ++ rest)) = (text, rest) :: others
  | [], _, _ => by
      have hafter : after? (c :: closing) (c :: (closing ++ rest)) = some rest :=
        after?_append (c :: closing) rest
      exact ⟨_, by rw [List.nil_append, List.cons_append, closingsOf, if_neg hc, hafter]; rfl⟩
  | d :: text, hmark, hline => by
      obtain ⟨hcd, hmark⟩ := not_or.mp (mt List.mem_cons.mpr hmark)
      obtain ⟨hd, hline⟩ := not_or.mp (mt List.mem_cons.mpr hline)
      obtain ⟨others, hothers⟩ := closingsOf_append hc closing rest hmark hline
      have hafter : after? (c :: closing) (d :: (text ++ (c :: closing ++ rest))) = none := by
        refine if_neg fun hp => hcd ?_
        exact (List.cons_prefix_cons.mp (List.isPrefixOf_iff_prefix.mp hp)).1
      refine ⟨others.map fun s => (d :: s.1, s.2), ?_⟩
      rw [List.cons_append, closingsOf, if_neg (Ne.symm hd), hafter, hothers]
      rfl

/-- A shape of the table does not start with an earlier one. -/
theorem pairwise_opening : shapes.Pairwise fun earlier s => ¬ earlier.opening <+: s.opening := by
  decide

/-- So no earlier shape opens where one was written. -/
theorem ShapedText.not_prefix_of_mem (s : ShapedText) {before after : List Shape}
    (htable : shapes = before ++ s.shape :: after) {earlier : Shape} (hmem : earlier ∈ before)
    (rest : Text) : ¬ earlier.opening <+: s.chars ++ rest := by
  have hpairs := htable ▸ pairwise_opening
  have horder := (List.pairwise_append.mp hpairs).2.2 earlier hmem s.shape (by simp)
  have hearlier : earlier ∈ shapes := by simp [htable, hmem]
  intro hp
  have hopening : s.shape.opening <+: s.chars ++ rest := by
    rw [ShapedText.chars, List.append_assoc]
    exact List.prefix_append _ _
  obtain ⟨more, hmore⟩ := (List.prefix_or_prefix_of_prefix hp hopening).resolve_left horder
  obtain ⟨-, -, hopen, -⟩ := marks_of_mem_shapes earlier hearlier
  cases more with
  | nil => exact horder ⟨[], by simpa using hmore.symm⟩
  | cons c more =>
    have hc : c ∈ openers := hopen c (by simp [← hmore])
    obtain ⟨-, d, t, hclosing, hd⟩ := exists_marks_cons s.mem
    obtain ⟨tail, htail⟩ := hp
    rw [← hmore, ShapedText.chars, List.append_assoc, List.append_assoc] at htail
    have hrest := List.append_cancel_left htail
    rw [hclosing] at hrest
    cases htext : s.text with
    | nil =>
      obtain ⟨rfl, -⟩ : c = d ∧ _ := by simpa [htext] using hrest
      exact not_mem_closers hc hd
    | cons x text =>
      obtain ⟨rfl, -⟩ : c = x ∧ _ := by simpa [htext] using hrest
      exact s.opener_not_mem_text hc (by simp [htext])

/-- A written shape is the first way to read a shape there. -/
theorem starts_chars (s : ShapedText) (rest : Text) :
    ∃ others, shapes.flatMap (Shape.starts (s.chars ++ rest)) = (s.chars, rest) :: others := by
  obtain ⟨before, after, htable⟩ := List.append_of_mem s.mem
  have hearlier : before.flatMap (Shape.starts (s.chars ++ rest)) = [] := by
    refine List.flatMap_eq_nil_iff.mpr fun earlier hmem => ?_
    have hnone : after? earlier.opening (s.chars ++ rest) = none :=
      if_neg fun hp => s.not_prefix_of_mem htable hmem rest (List.isPrefixOf_iff_prefix.mp hp)
    rw [Shape.starts, hnone]
  obtain ⟨-, c, closing, hclosing, hc⟩ := exists_marks_cons s.mem
  have hfeed : c ≠ '\n' := by
    rintro rfl
    exact absurd hc (by decide)
  obtain ⟨others, hothers⟩ := closingsOf_append hfeed closing rest
    (s.closer_not_mem_text hc) (s.not_mem_text (c := '\n') (by decide))
  have hopen : after? s.shape.opening (s.chars ++ rest) =
      some (s.text ++ (c :: closing ++ rest)) := by
    rw [ShapedText.chars, List.append_assoc, after?_append, hclosing, List.append_assoc]
  have hhere : Shape.starts (s.chars ++ rest) s.shape = (s.chars, rest) ::
      others.map fun x => (s.shape.opening ++ x.1 ++ s.shape.closing, x.2) := by
    rw [Shape.starts, hopen, hclosing]
    simp only [hothers, List.map_cons, ShapedText.chars, hclosing, List.append_assoc]
  rw [htable, List.flatMap_append, hearlier, List.nil_append, List.flatMap_cons, hhere]
  exact ⟨_, rfl⟩

/-- A written shape is the one that its text is taken from. -/
theorem ShapedText.inside?_chars (s : ShapedText) :
    shapes.findSome? (Shape.inside? s.chars) = some s.text := by
  obtain ⟨before, after, htable⟩ := List.append_of_mem s.mem
  have hearlier : before.findSome? (Shape.inside? s.chars) = none := by
    refine List.findSome?_eq_none_iff.mpr fun earlier hmem => ?_
    have hnot := s.not_prefix_of_mem htable hmem []
    rw [List.append_nil] at hnot
    refine if_neg fun h => hnot ?_
    exact List.isPrefixOf_iff_prefix.mp (Bool.and_eq_true_iff.mp h).1
  have hhere : Shape.inside? s.chars s.shape = some s.text := (inside?_eq_some_iff s.mem).mpr rfl
  rw [htable, List.findSome?_append, hearlier, List.findSome?_cons, hhere]
  rfl

namespace WrittenNode

variable (n : WrittenNode)

theorem shapeText_of_none (h : n.shaped = none) : n.shapeText = [] := by simp [shapeText, h]

theorem shapeText_of_some {s : ShapedText} (h : n.shaped = some s) : n.shapeText = s.chars := by
  simp [shapeText, h]

theorem not_mem_styleText {c : Char} (hword : isWord c = false) (hcolon : c ∉ ":::".toList) :
    c ∉ n.styleText := by
  unfold styleText
  cases hs : n.style with
  | none => simp
  | some name =>
    have hname := (n.isName_style name hs).not_mem hword
    simpa [hname] using hcolon

/-- The style is taken off where the node ends. -/
theorem takeStyle_styleText {rest : Text} (hrest : EndsToken rest) :
    takeStyle (n.styleText ++ rest) = (n.styleText, rest) := by
  unfold styleText
  cases hstyle : n.style with
  | none => exact hrest.takeStyle
  | some name =>
    have hname := n.isName_style name hstyle
    have hhead : ∀ c ∈ rest.head?, isWord c = false := fun c hc => (hrest c hc).1
    rw [Option.map_some, Option.getD_some, List.append_assoc]
    exact takeStyle_colons hname.ne_nil (hname.takeWhile_append hhead) (hname.dropWhile_append hhead)

/-- Before a style and where a node ends, no shape opens. -/
theorem starts_styleText {rest : Text} (hrest : EndsToken rest) :
    shapes.flatMap (Shape.starts (n.styleText ++ rest)) = [] := by
  unfold styleText
  cases n.style with
  | none => exact hrest.starts
  | some name => rfl

/-- What follows the identifier is no part of it. -/
theorem head?_shapeText {rest : Text} (hrest : EndsToken rest) :
    ∀ c ∈ (n.shapeText ++ (n.styleText ++ rest)).head?, isWord c = false := by
  intro c hc
  cases hshaped : n.shaped with
  | some s =>
    obtain ⟨⟨d, t, hopening, hd⟩, -⟩ := exists_marks_cons s.mem
    obtain rfl : d = c := by simpa [n.shapeText_of_some hshaped, ShapedText.chars, hopening] using hc
    exact (spec_of_mem_marks (.inl hd)).1
  | none =>
    rw [n.shapeText_of_none hshaped, List.nil_append] at hc
    unfold styleText at hc
    cases hstyle : n.style with
    | none => exact (hrest c (by simpa [hstyle] using hc)).1
    | some name =>
      obtain rfl : ':' = c := by simpa [hstyle] using hc
      decide

theorem text_append (rest : Text) :
    n.text ++ rest = n.id ++ (n.shapeText ++ (n.styleText ++ rest)) := by
  simp [text]

/-- A line that starts with a written node has it as its first token. -/
theorem tokens_text {rest : Text} (hrest : EndsToken rest) :
    ∃ others, tokens (n.text ++ rest) = (n.text, rest) :: others := by
  have hhead := n.head?_shapeText hrest
  have hstyle := n.takeStyle_styleText hrest
  simp only [n.text_append, tokens, n.isName.takeWhile_append hhead, n.isName.dropWhile_append hhead,
    List.isEmpty_iff, n.isName.ne_nil, if_false]
  cases hshaped : n.shaped with
  | none =>
    rw [n.shapeText_of_none hshaped, List.nil_append, n.starts_styleText hrest]
    exact ⟨[], by simp [hstyle, text, n.shapeText_of_none hshaped]⟩
  | some s =>
    obtain ⟨others, hothers⟩ := starts_chars s (n.styleText ++ rest)
    have htext : n.id ++ s.chars ++ n.styleText = n.text := by
      simp [text, n.shapeText_of_some hshaped]
    rw [n.shapeText_of_some hshaped, hothers, List.cons_append, List.map_cons, hstyle]
    exact ⟨_, by rw [htext]⟩

theorem lastToken?_text : lastToken? n.text = some n.text := by
  obtain ⟨others, hothers⟩ := n.tokens_text endsToken_nil
  rw [List.append_nil] at hothers
  rw [lastToken?, hothers]
  rfl

/-- A written node starts with a word character. -/
theorem exists_text_cons : ∃ c t, n.text = c :: t ∧ isWord c = true := by
  obtain ⟨c, t, ht, hc⟩ := n.isName.exists_cons
  exact ⟨c, t ++ (n.shapeText ++ n.styleText), by simp [text, ht], hc⟩

theorem isToken : IsToken n.text n.id n.shapeText n.styleText where
  text := rfl
  isName := n.isName
  isShaped := by
    cases hshaped : n.shaped with
    | none => exact .inl (n.shapeText_of_none hshaped)
    | some s => exact .inr ⟨s.shape, s.mem, s.text, n.shapeText_of_some hshaped⟩
  isStyle := by
    unfold styleText
    cases hstyle : n.style with
    | none => exact .inl rfl
    | some name => exact .inr ⟨name, n.isName_style name hstyle, rfl⟩

/-- It ends with a word character, or with a closing mark. -/
theorem exists_text_concat : ∃ init c, n.text = init ++ [c] ∧ (isWord c = true ∨ c ∈ closers) :=
  n.isToken.exists_concat

/-- So it has no blank at either end. -/
theorem trimmed_text : Trimmed n.text := n.isToken.trimmed

/-- A written node is taken apart into its identifier and the text of its shape. -/
theorem tokenParts_text : tokenParts n.text = (n.id, n.label) := by
  rw [n.isToken.tokenParts_eq, label]
  cases hshaped : n.shaped with
  | none =>
    rw [n.shapeText_of_none hshaped]
    rfl
  | some s =>
    rw [n.shapeText_of_some hshaped, s.inside?_chars]
    rfl

end WrittenNode

/-! ## §3 Other tokens -/

/-- The length of a mark does not exceed that of a shape. -/
theorem length_of_mem_shapes : ∀ s ∈ shapes,
    0 < s.opening.length ∧ s.opening.length ≤ 2 ∧ 0 < s.closing.length ∧ s.closing.length ≤ 2 := by
  decide

theorem ShapedText.two_le_length (s : ShapedText) : 2 ≤ s.chars.length := by
  have hlength := length_of_mem_shapes s.shape s.mem
  simp only [chars, List.length_append]
  omega

namespace WrittenNode

variable (n : WrittenNode)

/-- A shape that is there is as long as any mark. -/
theorem two_le_length_shapeText (h : n.shapeText ≠ []) : 2 ≤ n.shapeText.length := by
  cases hshaped : n.shaped with
  | none => exact absurd (n.shapeText_of_none hshaped) h
  | some s =>
    rw [n.shapeText_of_some hshaped]
    exact s.two_le_length

/-- A closing mark in a written node ends its shape, or is followed by
other closing marks that do. -/
theorem of_closer {c : Char} (hc : c ∈ closers) {before after : Text}
    (h : n.text = before ++ c :: after) :
    ∃ start closed, before = n.id ++ start ∧ n.shapeText = start ++ c :: closed ∧
      (∀ d ∈ closed, d ∈ closers) ∧ after = closed ++ n.styleText := by
  obtain ⟨hword, -, hcolon⟩ := spec_of_mem_marks (.inr hc)
  obtain ⟨start, hbefore, hrest⟩ := append_eq_of_not_mem_left (n.isName.not_mem hword) h
  obtain ⟨closed, hshape, hafter⟩ := append_eq_of_not_mem_right (n.not_mem_styleText hword hcolon) hrest
  refine ⟨start, closed, hbefore, hshape, ?_, hafter⟩
  cases hshaped : n.shaped with
  | none => simp [n.shapeText_of_none hshaped] at hshape
  | some s =>
    obtain ⟨-, -, hopen, hclose⟩ := marks_of_mem_shapes s.shape s.mem
    rw [n.shapeText_of_some hshaped, ShapedText.chars] at hshape
    obtain ⟨t, -, hinner⟩ := append_eq_of_not_mem_left
      (fun hm => not_mem_closers (hopen c hm) hc) hshape
    obtain ⟨u, -, hclosing⟩ := append_eq_of_not_mem_left (s.closer_not_mem_text hc) hinner
    intro d hd
    exact hclose d (by simp [hclosing, hd])

end WrittenNode

/-- What can stand between two nodes: blanks and glyphs, and not nothing. -/
def IsSeparator (t : Text) : Prop := t ≠ [] ∧ ∀ c ∈ t, isBlank c = true ∨ c ∈ strokes

theorem IsSeparator.closer_not_mem {t : Text} (h : IsSeparator t) {c : Char} (hc : c ∈ closers) :
    c ∉ t := by
  intro hm
  rcases h.2 c hm with hblank | hstroke
  · rw [(spec_of_mem_marks (.inr hc)).2.1] at hblank
    exact absurd hblank (by decide)
  · have hall : ∀ c ∈ closers, c ∉ strokes := forall_mem_of_all (by decide)
    exact hall c hc hstroke

theorem IsSeparator.endsToken {t : Text} (h : IsSeparator t) (rest : Text) : EndsToken (t ++ rest) := by
  obtain ⟨c, u, rfl⟩ := List.exists_cons_of_ne_nil h.1
  rcases h.2 c (by simp) with hblank | hstroke
  · exact endsToken_blank hblank (u ++ rest)
  · exact endsToken_stroke hstroke (u ++ rest)

section Joined

variable {α : Type} {sep : α → Text} {n : WrittenNode} {more : List (α × WrittenNode)}

/-- Nodes in a line, each with what separates it from the one before. -/
def joined (sep : α → Text) : List (α × WrittenNode) → Text
  | [] => []
  | (x, m) :: more => sep x ++ (m.text ++ joined sep more)

@[simp] theorem joined_nil : joined sep [] = [] := rfl

theorem joined_append (a b : List (α × WrittenNode)) :
    joined sep (a ++ b) = joined sep a ++ joined sep b := by
  induction a with
  | nil => rfl
  | cons x a ih => simp [joined, ih]

/-- The node that a line with `n` at its start ends with. -/
def lastNode (n : WrittenNode) : List (α × WrittenNode) → WrittenNode
  | [] => n
  | (_, m) :: more => lastNode m more

theorem lastNode_append (a b : List (α × WrittenNode)) :
    lastNode n (a ++ b) = lastNode (lastNode n a) b := by
  induction a generalizing n with
  | nil => rfl
  | cons x a ih => exact ih

/-- A line of nodes ends as its last node does. -/
theorem exists_joined_concat (sep : α → Text) : ∀ (n : WrittenNode) (more : List (α × WrittenNode)),
    ∃ init c, n.text ++ joined sep more = init ++ [c] ∧ (isWord c = true ∨ c ∈ closers)
  | n, [] => by simpa using n.exists_text_concat
  | n, (x, m) :: more => by
      obtain ⟨init, c, hline, hc⟩ := exists_joined_concat sep m more
      exact ⟨n.text ++ (sep x ++ init), c, by simp [joined, hline], hc⟩

theorem endsToken_joined (hsep : ∀ x ∈ more, IsSeparator (sep x.1)) : EndsToken (joined sep more) := by
  cases more with
  | nil => exact endsToken_nil
  | cons x more => exact (hsep x (by simp)).endsToken _

/-- A closing mark in a line of nodes belongs to the shape of one of them. -/
theorem of_closer_joined {c : Char} (hc : c ∈ closers) : ∀ {more : List (α × WrittenNode)},
    (∀ x ∈ more, IsSeparator (sep x.1)) → ∀ {n : WrittenNode} {before after : Text},
    n.text ++ joined sep more = before ++ c :: after →
    ∃ passed ahead t start closed, more = passed ++ ahead ∧ before = t ++ start ∧
      (lastNode n passed).shapeText = start ++ c :: closed ∧ (∀ d ∈ closed, d ∈ closers) ∧
      after = closed ++ ((lastNode n passed).styleText ++ joined sep ahead) := by
  intro more
  induction more with
  | nil =>
    intro _ n before after h
    rw [joined_nil, List.append_nil] at h
    obtain ⟨start, closed, hbefore, hshape, hclosed, hafter⟩ := n.of_closer hc h
    exact ⟨[], [], n.id, start, closed, rfl, hbefore, hshape, hclosed, by simpa [lastNode] using hafter⟩
  | cons x more ih =>
    intro hsep n before after h
    obtain ⟨hx, hmore⟩ := List.forall_mem_cons.mp hsep
    rcases append_eq_append_cons h with ⟨u, htext, rfl⟩ | ⟨u, rfl, hrest⟩
    · obtain ⟨start, closed, hbefore, hshape, hclosed, rfl⟩ := n.of_closer hc htext
      exact ⟨[], x :: more, n.id, start, closed, rfl, hbefore, hshape, hclosed, by simp [lastNode]⟩
    · obtain ⟨v, rfl, hnode⟩ := append_eq_of_not_mem_left (hx.closer_not_mem hc) hrest
      obtain ⟨passed, ahead, t, start, closed, rfl, rfl, hshape, hclosed, hafter⟩ := ih hmore hnode
      exact ⟨x :: passed, ahead, n.text ++ (sep x.1 ++ t), start, closed, rfl, by simp, hshape,
        hclosed, hafter⟩

/-- The nodes of a line can be taken for one: there is only one, or the
last one closes a shape that the first one opens. -/
def OneToken (n : WrittenNode) (more : List (α × WrittenNode)) : Prop :=
  more = [] ∨ ∃ s ∈ shapes, s.opening <+: n.shapeText ∧ s.closing <:+ (lastNode n more).shapeText

/-- Where a shape that the first node opens can end. -/
theorem of_shape_joined (hsep : ∀ x ∈ more, IsSeparator (sep x.1)) (hne : n.shapeText ≠ [])
    {s : Shape} (hs : s ∈ shapes) {inner r : Text}
    (h : n.shapeText ++ (n.styleText ++ joined sep more) = s.opening ++ (inner ++ (s.closing ++ r))) :
    (∃ c t, (takeStyle r).2 = c :: t ∧ c ∈ closers) ∨
      ∃ passed ahead, more = passed ++ ahead ∧ OneToken n passed ∧ (takeStyle r).2 = joined sep ahead := by
  obtain ⟨-, hclosingNe, -, hclose⟩ := marks_of_mem_shapes s hs
  obtain ⟨-, hopenLe, -, hcloseLe⟩ := length_of_mem_shapes s hs
  obtain ⟨t, c, hclosing⟩ : ∃ t c, s.closing = t ++ [c] :=
    ⟨_, _, (List.dropLast_concat_getLast hclosingNe).symm⟩
  have hc : c ∈ closers := hclose c (by simp [hclosing])
  have hline : n.text ++ joined sep more = (n.id ++ (s.opening ++ (inner ++ t))) ++ c :: r := by
    rw [n.text_append, h, hclosing]
    simp
  obtain ⟨passed, ahead, u, start, closed, rfl, hbefore, hlast, hclosed, rfl⟩ :=
    of_closer_joined hc hsep hline
  cases closed with
  | cons d closed =>
    have hd := hclosed d (by simp)
    rw [List.cons_append, takeStyle_cons (by rintro rfl; exact absurd hd (by decide))]
    exact .inl ⟨d, _, rfl, hd⟩
  | nil =>
    have hahead : EndsToken (joined sep ahead) :=
      endsToken_joined fun x hx => hsep x (List.mem_append_right passed hx)
    rw [List.nil_append, (lastNode n passed).takeStyle_styleText hahead]
    refine .inr ⟨passed, ahead, rfl, .inr ⟨s, hs, ?_, ?_⟩, rfl⟩
    · refine List.prefix_of_prefix_length_le ⟨_, h.symm⟩ (List.prefix_append _ _) ?_
      exact hopenLe.trans (n.two_le_length_shapeText hne)
    · -- both end with the character at which the shape was closed
      have hshape : (lastNode n passed).shapeText <:+
          (n.id ++ (s.opening ++ (inner ++ t))) ++ [c] := ⟨u, by rw [hlast, hbefore, List.append_assoc]⟩
      have hmark : s.closing <:+ (n.id ++ (s.opening ++ (inner ++ t))) ++ [c] :=
        ⟨n.id ++ (s.opening ++ inner), by simp [hclosing]⟩
      refine List.suffix_of_suffix_length_le hmark hshape ?_
      exact hcloseLe.trans ((lastNode n passed).two_le_length_shapeText (by simp [hlast]))

/-- Where a token of a line of nodes can end: at one of the nodes, if the
nodes up to it can be taken for one, or before a mark of a shape. -/
theorem of_mem_tokens_joined (hsep : ∀ x ∈ more, IsSeparator (sep x.1)) {token rest : Text}
    (h : (token, rest) ∈ tokens (n.text ++ joined sep more)) :
    (∃ c t, rest = c :: t ∧ (c ∈ openers ∨ c ∈ closers)) ∨
      ∃ passed ahead, more = passed ++ ahead ∧ OneToken n passed ∧
        token = n.text ++ joined sep passed ∧ rest = joined sep ahead := by
  have hends := endsToken_joined hsep
  have hhead := n.head?_shapeText hends
  -- the token is told by the rest
  suffices hrest : (∃ c t, rest = c :: t ∧ (c ∈ openers ∨ c ∈ closers)) ∨
      ∃ passed ahead, more = passed ++ ahead ∧ OneToken n passed ∧ rest = joined sep ahead by
    refine hrest.imp_right ?_
    rintro ⟨passed, ahead, rfl, hone, rfl⟩
    have hline := append_of_mem_tokens h
    rw [joined_append, ← List.append_assoc] at hline
    exact ⟨passed, ahead, rfl, hone, (List.append_cancel_right hline).symm, rfl⟩
  simp only [n.text_append, tokens, n.isName.takeWhile_append hhead, n.isName.dropWhile_append hhead,
    List.isEmpty_iff, n.isName.ne_nil, if_false, List.mem_map, List.mem_append,
    List.mem_singleton] at h
  obtain ⟨⟨shape, r⟩, hshape, he⟩ := h
  obtain ⟨-, rfl⟩ := Prod.mk.inj he
  cases hshaped : n.shaped with
  | none =>
    rw [n.shapeText_of_none hshaped, List.nil_append, n.starts_styleText hends] at hshape
    obtain ⟨-, rfl⟩ := Prod.mk.inj (hshape.resolve_left (by simp))
    exact .inr ⟨[], more, rfl, .inl rfl, by rw [n.takeStyle_styleText hends]⟩
  | some s =>
    obtain ⟨⟨c, t, hopening, hc⟩, -⟩ := exists_marks_cons s.mem
    have htext : n.shapeText = c :: (t ++ (s.text ++ s.shape.closing)) := by
      rw [n.shapeText_of_some hshaped, ShapedText.chars, hopening, List.cons_append]
    rcases hshape with hshape | hnone
    · obtain ⟨other, hother, hstarts⟩ := List.mem_flatMap.mp hshape
      obtain ⟨inner, hinner⟩ := exists_of_mem_starts hstarts
      refine (of_shape_joined hsep (by simp [htext]) hother hinner).imp_left ?_
      rintro ⟨d, u, hu, hd⟩
      exact ⟨d, u, hu, .inr hd⟩
    · obtain ⟨-, rfl⟩ := Prod.mk.inj hnone
      rw [htext, List.cons_append,
        takeStyle_cons fun he => (spec_of_mem_marks (.inl hc)).2.2 (by simp [he])]
      exact .inl ⟨c, _, rfl, .inl hc⟩

/-- A line of nodes that is one token. -/
theorem oneToken_of_lastToken? (hsep : ∀ x ∈ more, IsSeparator (sep x.1)) {token : Text}
    (h : lastToken? (n.text ++ joined sep more) = some token) :
    OneToken n more ∧ token = n.text ++ joined sep more := by
  rw [lastToken?, Option.map_eq_some_iff] at h
  obtain ⟨⟨token, rest⟩, hfind, rfl⟩ := h
  have hend := List.find?_some hfind
  rcases of_mem_tokens_joined hsep (List.mem_of_find?_eq_some hfind) with
    ⟨c, t, rfl, hc⟩ | ⟨passed, ahead, rfl, hone, rfl, rfl⟩
  · have hfeed : '\n' ∉ openers ∧ '\n' ∉ closers := by decide
    obtain ⟨rfl, -⟩ : c = '\n' ∧ t = [] := by simpa [atEnd] using hend
    exact absurd hc (not_or.mpr hfeed)
  · cases ahead with
    | nil => exact ⟨by simpa using hone, by simp⟩
    | cons x ahead =>
      obtain ⟨c, u, htext, hword⟩ := x.2.exists_text_cons
      have hmem : c ∈ joined sep (x :: ahead) := by simp [joined, htext]
      obtain hnil | hfeed : joined sep (x :: ahead) = [] ∨ joined sep (x :: ahead) = ['\n'] := by
        simpa [atEnd] using hend
      · simp [hnil] at hmem
      · obtain rfl : c = '\n' := by simpa [hfeed] using hmem
        exact absurd hword (by decide)

end Joined

end DiagramGraph.Mermaid
