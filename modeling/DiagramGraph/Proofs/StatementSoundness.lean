/-
DiagramGraph.Proofs.StatementSoundness — what a reader can take from one
line, whatever the line is.

  §1 Pieces         — scanners return pieces of their input, so a line
                      without line ends gives none.
  §2 Declarations   — a declared class has a name, and the members of a
                      body on the line are trimmed and not empty.
  §3 Relationships  — both ends have names, the label is trimmed.
  §4 Tokens         — every node token of a flowchart starts with a word
                      character, so taking it apart gives a name.
  §5 Edges          — both ends of an edge are tokens, and its relation
                      is that of a glyph.

Nothing is assumed of the line but that it is one line. The converse,
that printed lines are read as what they were printed for, is in
`Proofs.ClassLines` and `Proofs.FlowLines`.
-/
import DiagramGraph.Mermaid.ClassDiagram
import DiagramGraph.Mermaid.Flowchart
import DiagramGraph.Proofs.LabelTheorems

namespace DiagramGraph.Mermaid

open Text Label

/-! ## §1 Pieces -/

/-- A line or a member as a diagram keeps it. -/
structure Entry (t : Text) : Prop where
  ne_nil : t ≠ []
  trimmed : Trimmed t
  oneLine : OneLine t

theorem suffix_takeStyle (t : Text) : (takeStyle t).2 <:+ t := ⟨(takeStyle t).1, takeStyle_append t⟩

/-! ## §2 Declarations -/

theorem suffix_skipGeneric (t : Text) : skipGeneric t <:+ t := by
  unfold skipGeneric
  split
  · next inner =>
    split
    · next a rest h => exact (suffix_of_cutAt h).trans (List.suffix_cons '~' inner)
    · exact List.suffix_rfl
  · exact List.suffix_rfl

theorem suffix_of_quotedText? {t label rest : Text} (h : quotedText? t = some (label, rest)) :
    rest <:+ t := by
  unfold quotedText? at h
  split at h
  · next inner => exact (suffix_of_cutAt h).trans (List.suffix_cons '"' inner)
  · simp at h

theorem suffix_of_bracketLabel? {t label rest : Text} (h : bracketLabel? t = some (label, rest)) :
    rest <:+ t := by
  unfold bracketLabel? at h
  split at h
  · next inner hopen =>
    split at h
    · next l more hquoted =>
      split at h
      · next r hclose =>
        simp only [Option.some.injEq, Prod.mk.injEq] at h
        obtain ⟨rfl, rfl⟩ := h
        have hmore : r <:+ more := (List.suffix_cons ']' r).trans (hclose ▸ suffix_trimStart more)
        have hinner : more <:+ inner := (suffix_of_quotedText? hquoted).trans (suffix_trimStart inner)
        have ht : inner <:+ t := (List.suffix_cons '[' inner).trans (hopen ▸ suffix_trimStart t)
        exact (hmore.trans hinner).trans ht
      · simp at h
    · simp at h
  · simp at h

theorem suffix_declaredLabel (t : Text) : (declaredLabel t).2 <:+ t := by
  unfold declaredLabel
  split
  · next found hfound => exact suffix_of_bracketLabel? hfound
  · cases hspaced : spacedLabel? t with
    | none => exact List.suffix_rfl
    | some found =>
      unfold spacedLabel? at hspaced
      split at hspaced
      · split at hspaced
        · exact (suffix_of_quotedText? hspaced).trans (suffix_trimStart _)
        · simp at hspaced
      · simp at hspaced

/-- A declaration gives a name, and its body is looked for at the end of the line. -/
theorem of_declaration? {line : Text} {decl : Declaration} (h : declaration? line = some decl) :
    IsName decl.name ∧ decl.rest <:+ line := by
  unfold declaration? at h
  split at h
  · simp at h
  · next more hmore =>
    dsimp only at h
    split at h
    · simp at h
    · next hname =>
      obtain rfl := Option.some.inj h
      simp only [Bool.or_eq_true, not_or, List.isEmpty_iff] at hname
      refine ⟨isName_takeWhile hname.2, ?_⟩
      have hlabel := suffix_declaredLabel (skipGeneric ((trimStart more).dropWhile isWord))
      have hgeneric := suffix_skipGeneric ((trimStart more).dropWhile isWord)
      have hnamed : (trimStart more).dropWhile isWord <:+ more :=
        (List.dropWhile_suffix isWord).trans (suffix_trimStart more)
      exact (suffix_takeStyle _).trans
        (hlabel.trans (hgeneric.trans (hnamed.trans (suffix_of_after? hmore))))

/-- The members between commas are trimmed and not empty. -/
theorem entry_of_mem_inlineMembers {t m : Text} (ht : OneLine t) (h : m ∈ inlineMembers t) :
    Entry m := by
  obtain ⟨hm, hne⟩ := List.mem_filter.mp h
  obtain ⟨piece, hpiece, rfl⟩ := List.mem_map.mp hm
  have hsubset := mem_and_eq_false_of_mem_splitOnP (· == ',') t piece hpiece
  refine ⟨by simpa using hne, trimmed_trim piece, ht.of_subset fun c hc => ?_⟩
  exact (hsubset c (mem_of_mem_trim hc)).1

/-- So are the members of a body that ends on its line. -/
theorem entry_of_body {decl : Declaration} (hrest : OneLine decl.rest) {members : List Text}
    (h : decl.body = .closed members) : ∀ m ∈ members, Entry m := by
  unfold Declaration.body at h
  split at h
  · simp at h
  · next before inner hopen =>
    split at h
    · next text after hclose =>
      obtain rfl := Body.closed.inj h
      intro m hm
      refine entry_of_mem_inlineMembers (hrest.of_subset fun c hc => ?_) hm
      rw [cutAt_eq_some hopen, cutAt_eq_some hclose]
      simp [hc]
    · simp at h

/-! ## §3 Relationships -/

/-- What stands right of a glyph comes from there, and its label is trimmed. -/
theorem target_spec (t : Text) :
    (∀ c ∈ (target t).1, c ∈ t) ∧ (∀ c ∈ (target t).2, c ∈ t) ∧ Trimmed (target t).2 := by
  unfold target
  cases hl : labelled? t with
  | none =>
    refine ⟨fun c hc => ?_, by simp, rfl⟩
    exact (suffix_trimStart t).subset ((List.takeWhile_prefix _).subset hc)
  | some found =>
    unfold labelled? at hl
    split at hl
    · next rest hcolon =>
      dsimp only at hl
      split at hl
      · simp at hl
      · obtain rfl := Option.some.inj hl
        have hrest : rest <:+ t := by
          have hblank := List.dropWhile_suffix (l := t.dropWhile isWord) isBlank
          rw [hcolon] at hblank
          exact (List.suffix_cons ':' rest).trans (hblank.trans (List.dropWhile_suffix isWord))
        refine ⟨fun c hc => (List.takeWhile_prefix _).subset hc, fun c hc => ?_, trimmed_trim _⟩
        exact hrest.subset ((List.dropWhile_suffix isBlank).subset (mem_of_mem_trim hc))
    · simp at hl

/-- A relationship joins two names, and its label is trimmed. -/
theorem of_relationship? {line : Text} (hline : OneLine line) {l : Link}
    (h : relationship? line = some l) :
    IsName l.source ∧ IsName l.target ∧ Trimmed l.label ∧ OneLine l.label := by
  obtain ⟨g, -, hg⟩ := List.exists_of_findSome?_eq_some h
  unfold atGlyph? at hg
  split at hg
  · simp at hg
  · next before rest hcut =>
    have happend := cut_eq_some hcut
    obtain ⟨hright, hlabel, htrim⟩ := target_spec (trim rest)
    dsimp only at hg
    split at hg
    · next hids =>
      obtain ⟨hl, hr⟩ := Bool.and_eq_true_iff.mp hids
      have hleft : IsName (trim before) := by
        refine isName_of_isIdentifier hl fun hm => hline.1 ?_
        rw [happend]
        simp [mem_of_mem_trim hm]
      have hsubset : ∀ c ∈ trim rest, c ∈ line := by
        intro c hc
        rw [happend]
        simp [mem_of_mem_trim hc]
      have hright : IsName (target (trim rest)).1 :=
        isName_of_isIdentifier hr fun hm => hline.1 (hsubset _ (hright _ hm))
      have honeLine : OneLine (target (trim rest)).2 :=
        hline.of_subset fun c hc => hsubset c (hlabel c hc)
      obtain rfl := Option.some.inj hg
      unfold ClassGlyph.ends
      split
      · exact ⟨hright, hleft, htrim, honeLine⟩
      · exact ⟨hleft, hright, htrim, honeLine⟩
    · simp at hg

/-! ## §4 Tokens -/

/-- The text starts with a word character. -/
def StartsWithWord (t : Text) : Prop := ∃ c rest, t = c :: rest ∧ isWord c = true

theorem startsWithWord_of_mem_tokens {t token rest : Text} (h : (token, rest) ∈ tokens t) :
    StartsWithWord token := by
  unfold tokens at h
  dsimp only at h
  split at h
  · simp at h
  · next hid =>
    obtain ⟨s, -, he⟩ := List.mem_map.mp h
    obtain ⟨c, u, hcons, hc⟩ := (isName_takeWhile (by simpa using hid)).exists_cons
    rw [hcons] at he
    exact ⟨c, _, ((Prod.mk.inj he).1).symm, hc⟩

theorem startsWithWord_of_lastToken? {t token : Text} (h : lastToken? t = some token) :
    StartsWithWord token ∧ StartsWithWord t := by
  obtain ⟨s, hs, rfl⟩ := Option.map_eq_some_iff.mp h
  have hmem := List.mem_of_find?_eq_some hs
  obtain ⟨c, rest, hcons, hc⟩ := startsWithWord_of_mem_tokens hmem
  refine ⟨⟨c, rest, hcons, hc⟩, c, rest ++ s.2, ?_, hc⟩
  rw [append_of_mem_tokens hmem, hcons]
  rfl

theorem StartsWithWord.trim {t : Text} (h : StartsWithWord t) : StartsWithWord (trim t) := by
  obtain ⟨c, rest, rfl, hc⟩ := h
  have hblank := isBlank_eq_false_of_isWord hc
  refine ⟨c, trimEnd rest, ?_, hc⟩
  rw [Text.trim, trimStart_eq_self (by simp [hblank]), trimEnd_cons hblank]

/-- A style is preceded by colons, so the first word character is no part of it. -/
theorem StartsWithWord.dropStyle {t : Text} (h : StartsWithWord t) : StartsWithWord (dropStyle t) := by
  obtain ⟨c, u, ht, hc⟩ := h
  unfold Mermaid.dropStyle
  dsimp only
  split
  · next rest hrest =>
    split
    · exact ⟨c, u, ht, hc⟩
    · have hturned : t.reverse = t.reverse.takeWhile isWord ++ (":::".toList ++ rest) := by
        rw [← after?_eq_some_iff.mp hrest, List.takeWhile_append_dropWhile]
      have hsplit : t = rest.reverse ++ (":::".toList ++ (t.reverse.takeWhile isWord).reverse) := by
        have hturned' := congrArg List.reverse hturned
        simpa using hturned'
      cases hr : rest.reverse with
      | nil =>
        rw [hr, ht] at hsplit
        have hcolon : c = ':' := (List.cons.inj hsplit).1
        rw [hcolon] at hc
        exact absurd hc (by decide)
      | cons x v =>
        rw [hr, ht] at hsplit
        have hx : c = x := (List.cons.inj hsplit).1
        exact ⟨x, v, rfl, hx ▸ hc⟩
  · exact ⟨c, u, ht, hc⟩

/-- A token is taken apart into a name and a squeezed label. -/
theorem tokenParts_spec {token : Text} (h : StartsWithWord token) :
    IsName (tokenParts token).1 ∧ Squeezed (tokenParts token).2 := by
  obtain ⟨c, rest, ht, hc⟩ := h.trim.dropStyle
  have hne : (Mermaid.dropStyle (Text.trim token)).takeWhile isWord ≠ [] := by
    rw [ht, List.takeWhile_cons_of_pos hc]
    simp
  unfold tokenParts
  dsimp only
  rw [if_neg (by simpa using hne)]
  split
  · exact ⟨isName_takeWhile hne, squeezed_clean _⟩
  · exact ⟨isName_takeWhile hne, rfl⟩

/-! ## §5 Edges -/

/-- The relations that flowcharts tell apart. -/
def flowRelations : List Relation := [.dependency, .composition, .association, .link]

/-- No sign has another relation. -/
theorem flowRelation_mem (sign : Text) : flowRelation sign ∈ flowRelations := by
  have hglyphs : ∀ g ∈ flowGlyphs, g.relation ∈ flowRelations := by decide
  unfold flowRelation
  split
  · next g hfind => exact hglyphs g (List.mem_of_find?_eq_some hfind)
  · decide

/-- What every form of an edge gives. -/
structure SoundEdge (e : Edge) : Prop where
  left : StartsWithWord e.left
  right : StartsWithWord e.right
  relation : e.relation ∈ flowRelations

theorem soundEdge_of_piped? {line : Text} {e : Edge} (h : Edge.piped? line = some e) :
    SoundEdge e := by
  obtain ⟨⟨left, rest⟩, hleft, h⟩ := List.exists_of_findSome?_eq_some h
  obtain ⟨⟨g, more⟩, -, h⟩ := List.exists_of_findSome?_eq_some h
  dsimp only at h
  split at h
  · simp at h
  · obtain ⟨right, hright, rfl⟩ := Option.map_eq_some_iff.mp h
    exact ⟨startsWithWord_of_mem_tokens hleft, (startsWithWord_of_lastToken? hright).1,
      flowRelation_mem g.sign⟩

theorem soundEdge_of_spaced? {line : Text} {e : Edge} (h : Edge.spaced? line = some e) :
    SoundEdge e := by
  obtain ⟨⟨left, rest⟩, hleft, h⟩ := List.exists_of_findSome?_eq_some h
  dsimp only at h
  split at h
  · simp at h
  · obtain ⟨⟨label, after⟩, -, h⟩ := List.exists_of_findSome?_eq_some h
    obtain ⟨⟨g, more⟩, -, h⟩ := List.exists_of_findSome?_eq_some h
    obtain ⟨right, hright, rfl⟩ := Option.map_eq_some_iff.mp h
    exact ⟨startsWithWord_of_mem_tokens hleft, (startsWithWord_of_lastToken? hright).1,
      flowRelation_mem g.sign⟩

theorem soundEdge_of_bare? {line : Text} {e : Edge} (h : Edge.bare? line = some e) :
    SoundEdge e := by
  obtain ⟨⟨left, rest⟩, hleft, h⟩ := List.exists_of_findSome?_eq_some h
  obtain ⟨⟨g, more⟩, -, h⟩ := List.exists_of_findSome?_eq_some h
  obtain ⟨right, hright, rfl⟩ := Option.map_eq_some_iff.mp h
  exact ⟨startsWithWord_of_mem_tokens hleft, (startsWithWord_of_lastToken? hright).1,
    flowRelation_mem g.sign⟩

theorem soundEdge_of_ofLine? {line : Text} {e : Edge} (h : Edge.ofLine? line = some e) :
    SoundEdge e := by
  rcases Option.or_eq_some_iff.mp h with h | ⟨-, h⟩
  · exact soundEdge_of_piped? h
  rcases Option.or_eq_some_iff.mp h with h | ⟨-, h⟩
  · exact soundEdge_of_spaced? h
  · exact soundEdge_of_bare? h

end DiagramGraph.Mermaid
