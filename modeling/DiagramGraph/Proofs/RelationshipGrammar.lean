/-
DiagramGraph.Proofs.RelationshipGrammar — the lines that relate two
classes, as a grammar.

The main statement is `relationship?_grammar`. A name, a glyph and a name,
with any blanks between them, state the link of that glyph, and so they do
with a colon and a label after them, whatever the label holds. Conversely
every line that states a link has a glyph of the catalog in it, a single
name before it and the other name after it (`Relates`).

The glyphs are looked for in the order of the catalog and not in the order
of the line, so an earlier glyph may be found in the label, or overlap the
one that is meant. What decides is the first mark of the line, the first
character that belongs to no name and is no blank.

  §1 Marks     — a glyph is a mark with what follows it, except `o--`,
                 which has a letter before its mark.
  §2 Glyphs    — a glyph with a single name before it has its mark at the
                 first mark of the line; so the glyphs tried before the
                 one that is meant are found only if a letter `o` beside
                 it makes one of them out of it (`Apart`).
  §3 Targets   — what stands right of a glyph.
  §4 Grammar   — both directions.
-/
import DiagramGraph.Proofs.ClassLines

namespace DiagramGraph.Mermaid

open Text

/-! ## §1 Marks -/

/-- A character that belongs to no name and is no blank. -/
def isMark (c : Char) : Bool := !isWord c && !isBlank c

/-- A text of names and blanks. -/
def Markless (t : Text) : Prop := ∀ c ∈ t, isMark c = false

theorem markless_append {a b : Text} : Markless (a ++ b) ↔ Markless a ∧ Markless b :=
  List.forall_mem_append

theorem markless_of_all {t : Text} (h : t.all isBlank = true) : Markless t := by
  intro c hc
  simp [isMark, List.all_eq_true.mp h c hc]

theorem markless_of_isName {t : Text} (h : IsName t) : Markless t := by
  intro c hc
  simp [isMark, h.isWord c hc]

/-- Markless text and what follows it from the first mark on are found again. -/
theorem append_inj_of_mark {a b u v : Text} (h : a ++ u = b ++ v) (ha : Markless a) (hb : Markless b)
    (hu : ∀ c ∈ u.head?, isMark c = true) (hv : ∀ c ∈ v.head?, isMark c = true) : a = b ∧ u = v := by
  refine append_inj_of_head (p := fun c => !isMark c) h ?_ ?_ ?_ ?_
  · simpa [Markless] using ha
  · simpa [Markless] using hb
  · simpa using hu
  · simpa using hv

namespace ClassGlyph

/-- The letters at the start of the glyph. -/
def lead (g : ClassGlyph) : Text := g.sign.takeWhile isWord

/-- The glyph from its first mark on. -/
def core (g : ClassGlyph) : Text := g.sign.dropWhile isWord

theorem lead_append_core (g : ClassGlyph) : g.lead ++ g.core = g.sign :=
  List.takeWhile_append_dropWhile

theorem markless_lead (g : ClassGlyph) : Markless g.lead := by
  intro c hc
  simp [isMark, List.all_eq_true.mp List.all_takeWhile c hc]

end ClassGlyph

/-- Only the glyph `o--` has a letter before its first mark. -/
theorem lead_of_mem_classGlyphs : ∀ g ∈ classGlyphs,
    g.lead = if g.sign = "o--".toList then ['o'] else [] := by decide

theorem core_of_mem_classGlyphs : ∀ g ∈ classGlyphs,
    g.core ≠ [] ∧ g.core.head?.all isMark = true := by decide

theorem head?_core_append {g : ClassGlyph} (hg : g ∈ classGlyphs) (rest : Text) :
    ∀ c ∈ (g.core ++ rest).head?, isMark c = true := by
  obtain ⟨hne, hmark⟩ := core_of_mem_classGlyphs g hg
  cases hcore : g.core with
  | nil => exact absurd hcore hne
  | cons c t => simpa [hcore] using hmark

/-- Two glyphs after markless text in one line have their marks at the
same place. -/
theorem lead_core_of_append_eq {g g' : ClassGlyph} (hg : g ∈ classGlyphs) (hg' : g' ∈ classGlyphs)
    {x x' rest rest' : Text} (hx : Markless x) (hx' : Markless x')
    (h : x ++ (g.sign ++ rest) = x' ++ (g'.sign ++ rest')) :
    x ++ g.lead = x' ++ g'.lead ∧ g.core ++ rest = g'.core ++ rest' := by
  have hsplit : (x ++ g.lead) ++ (g.core ++ rest) = (x' ++ g'.lead) ++ (g'.core ++ rest') := by
    simpa [← ClassGlyph.lead_append_core] using h
  exact append_inj_of_mark hsplit (markless_append.mpr ⟨hx, g.markless_lead⟩)
    (markless_append.mpr ⟨hx', g'.markless_lead⟩) (head?_core_append hg rest)
    (head?_core_append hg' rest')

/-- A glyph after markless text is its first occurrence. -/
theorem cut_markless_append {g : ClassGlyph} (hg : g ∈ classGlyphs) (rest : Text) : ∀ {x : Text},
    Markless x → cut g.sign (x ++ (g.sign ++ rest)) = some (x, rest)
  | [], _ => cut_append_self g.sign rest
  | c :: x, hx => by
      have hfirst : ¬ g.sign.isPrefixOf (c :: (x ++ (g.sign ++ rest))) = true := by
        intro hp
        obtain ⟨more, hmore⟩ := List.isPrefixOf_iff_prefix.mp hp
        have hnil : Markless [] := by simp [Markless]
        have hlead : [] ++ g.lead = (c :: x) ++ g.lead :=
          (lead_core_of_append_eq hg hg hnil hx hmore).1
        have hlength := congrArg List.length hlead
        simp only [List.length_append, List.length_cons, List.length_nil] at hlength
        omega
      rw [List.cons_append, cut, if_neg hfirst,
        cut_markless_append hg rest fun d hd => hx d (List.mem_cons_of_mem c hd)]
      rfl

/-! ## §2 Glyphs -/

namespace ClassGlyph

/-- The link that the glyph states between the names left and right of it:
the source is right of a glyph that points left, and else left of it. -/
def link (g : ClassGlyph) (left right label : Text) : Link where
  source := if g.pointsLeft then right else left
  target := if g.pointsLeft then left else right
  relation := g.relation
  label := label

/-- The reader swaps the ends of a glyph that points left. -/
theorem link_eq_ends (g : ClassGlyph) (left right label : Text) :
    g.link left right label = ⟨(g.ends left right).1, (g.ends left right).2, g.relation, label⟩ := by
  unfold link ends
  split <;> rfl

end ClassGlyph

/-- A line read at a glyph has a single name before it. -/
theorem exists_of_atGlyph? {line : Text} {g : ClassGlyph} {l : Link} (h : atGlyph? line g = some l) :
    ∃ before rest, line = before ++ (g.sign ++ rest) ∧ IsName (trim before) ∧
      isIdentifier (target (trim rest)).1 = true ∧
      l = g.link (trim before) (target (trim rest)).1 (target (trim rest)).2 := by
  unfold atGlyph? at h
  split at h
  · simp at h
  · next before rest hcut =>
    dsimp only at h
    split at h
    · next hids =>
      obtain ⟨hleft, hright⟩ := Bool.and_eq_true_iff.mp hids
      refine ⟨before, rest, by simpa using cut_eq_some hcut, isName_of_isIdentifier_trim hleft, hright, ?_⟩
      rw [g.link_eq_ends]
      exact (Option.some.inj h).symm
    · simp at h

theorem markless_of_isName_trim {t : Text} (h : IsName (trim t)) : Markless t := by
  obtain ⟨before, after, ht, hbefore, hafter⟩ := exists_pads_trim t
  rw [ht]
  exact markless_append.mpr ⟨markless_of_all hbefore,
    markless_append.mpr ⟨markless_of_isName h, markless_of_all hafter⟩⟩

/-- How an earlier glyph of the catalog can stand at the mark of a later
one: `o--` at the dashes of `-->` and `--`, and `--o` where an `o` follows
the dashes of `o--` and `--`. -/
def Overlaps (earlier later : ClassGlyph) : Prop :=
  (earlier.core <+: later.core → earlier.sign = "o--".toList ∧
    (later.sign = "-->".toList ∨ later.sign = "--".toList)) ∧
  (later.core <+: earlier.core →
    (earlier.core.drop later.core.length).head?.all isMark = true ∨
      (earlier.core.drop later.core.length).head? = some 'o' ∧ earlier.lead = [] ∧
        (later.sign = "--".toList ∨ later.sign = "o--".toList))

instance (g g' : ClassGlyph) : Decidable (Overlaps g g') := inferInstanceAs (Decidable (_ ∧ _))

theorem pairwise_overlaps : classGlyphs.Pairwise Overlaps := by decide

/-- An identifier starts with a word character. -/
theorem isWord_of_isIdentifier {c : Char} {t : Text} (hc : isBlank c = false)
    (h : isIdentifier (c :: t) = true) : isWord c = true := by
  have hcons : ∃ u, dropFinalNewline (c :: t) = c :: u := by
    unfold dropFinalNewline
    split
    · next hlast =>
      cases t with
      | nil =>
        obtain rfl : c = '\n' := by simpa using hlast
        exact absurd hc (by decide)
      | cons d t => exact ⟨(d :: t).dropLast, rfl⟩
    · exact ⟨t, rfl⟩
  obtain ⟨u, hu⟩ := hcons
  rw [isIdentifier, hu] at h
  simp only [List.all_cons, Bool.and_eq_true] at h
  exact h.2.1

/-- Where a mark stands right after a glyph there is no target. -/
theorem isIdentifier_target_mark {c : Char} (hc : isMark c = true) (t : Text) :
    isIdentifier (target (trim (c :: t))).1 = false := by
  obtain ⟨hword, hblank⟩ : isWord c = false ∧ isBlank c = false := by
    simpa [isMark] using hc
  have htrim : trim (c :: t) = c :: trimEnd t := by
    rw [trim, trimStart_eq_self (by simp [hblank]), trimEnd_cons hblank]
  have hlabelled : labelled? (c :: trimEnd t) = none := by
    unfold labelled?
    split
    · simp [hword]
    · rfl
  have hfirst : firstWord (c :: trimEnd t) =
      c :: (trimEnd t).takeWhile (fun c => !isBlank c) := by
    rw [firstWord, trimStart_eq_self (by simp [hblank])]
    simp [hblank]
  rw [htrim, target, hlabelled, Option.getD_none, hfirst]
  refine Bool.eq_false_iff.mpr fun h => ?_
  rw [isWord_of_isIdentifier hblank h] at hword
  exact absurd hword (by decide)

/-- No letter `o` beside the glyph makes another one of it, where `name`
and `pad` stand before the glyph and `rest` after it. -/
def Apart (g : ClassGlyph) (name pad rest : Text) : Prop :=
  (g.sign = "--".toList →
    (pad ≠ [] ∨ name.getLast? ≠ some 'o') ∧ rest.head? ≠ some 'o') ∧
  (g.sign = "o--".toList → pad ≠ [] ∨ rest.head? ≠ some 'o')

instance (g : ClassGlyph) (name pad rest : Text) : Decidable (Apart g name pad rest) :=
  inferInstanceAs (Decidable (_ ∧ _))

section Line

variable {g : ClassGlyph} {name pad rest : Text}

/-- `o--` does not stand at the dashes of another glyph, unless the name
before it ends in an `o`. -/
theorem isIdentifier_target_of_lead {earlier : ClassGlyph} (hearlier : earlier.sign = "o--".toList)
    (hg : g.sign = "-->".toList ∨ g.sign = "--".toList) (hpad : pad.all isBlank = true)
    (hapart : Apart g name pad rest) {before more : Text}
    (hlead : name ++ pad = before ++ ['o']) (hcore : g.core ++ rest = earlier.core ++ more) :
    isIdentifier (target (trim more)).1 = false := by
  have hdashes : earlier.core = "--".toList := by rw [ClassGlyph.core, hearlier]; decide
  rcases hg with hg | hg
  · -- what follows the dashes is the head of an arrow
    have harrow : g.core = "-->".toList := by rw [ClassGlyph.core, hg]; decide
    obtain rfl : '>' :: rest = more := by simpa [hdashes, harrow] using hcore
    exact isIdentifier_target_mark (by decide) rest
  · have hlast := congrArg List.getLast? hlead
    rw [List.getLast?_concat] at hlast
    have hnil : pad = [] := by
      rcases List.eq_nil_or_concat pad with hnil | ⟨init, c, hconcat⟩
      · exact hnil
      · rw [List.concat_eq_append] at hconcat
        rw [hconcat, ← List.append_assoc, List.getLast?_concat] at hlast
        have hc := List.all_eq_true.mp hpad c (by simp [hconcat])
        rw [Option.some.inj hlast] at hc
        exact absurd hc (by decide)
    rw [hnil, List.append_nil] at hlast
    exact absurd hlast ((hapart.1 hg).1.resolve_left (fun h => h hnil))

/-- Nor does `--o` stand at the dashes of another glyph, unless an `o`
follows them. -/
theorem head?_of_core {earlier : ClassGlyph} (hover : Overlaps earlier g)
    (hbegins : ¬ earlier.core <+: g.core) (hrest : ∀ c ∈ rest.head?, isMark c = false) {more : Text}
    (hcore : g.core ++ rest = earlier.core ++ more) :
    rest.head? = some 'o' ∧ earlier.lead = [] ∧
      (g.sign = "--".toList ∨ g.sign = "o--".toList) := by
  have hback : g.core <+: earlier.core :=
    (List.prefix_or_prefix_of_prefix ⟨rest, hcore⟩ (List.prefix_append _ more)).resolve_right hbegins
  obtain ⟨mark, hmark⟩ := hback
  have hspec := hover.2 ⟨mark, hmark⟩
  rw [← hmark, List.append_assoc] at hcore
  have hmore : rest = mark ++ more := List.append_cancel_left hcore
  cases mark with
  | nil => exact absurd ⟨[], by simpa using hmark.symm⟩ hbegins
  | cons c mark =>
    rw [← hmark, List.drop_left] at hspec
    rcases hspec with hc | ⟨hc, hother⟩
    · have hmarked : isMark c = true := by simpa using hc
      rw [hrest c (by simp [hmore])] at hmarked
      exact absurd hmarked (by decide)
    · obtain rfl : c = 'o' := by simpa using hc
      exact ⟨by simp [hmore], hother⟩

/-- The glyphs that are tried before the one that is meant read nothing. -/
theorem atGlyph?_of_overlaps {earlier : ClassGlyph} (hg : g ∈ classGlyphs)
    (hearlier : earlier ∈ classGlyphs) (hover : Overlaps earlier g) (hname : IsName name)
    (hpad : pad.all isBlank = true) (hrest : ∀ c ∈ rest.head?, isMark c = false)
    (hapart : Apart g name pad rest) :
    atGlyph? (name ++ (pad ++ (g.sign ++ rest))) earlier = none := by
  refine Option.eq_none_iff_forall_ne_some.mpr fun l hl => ?_
  obtain ⟨before, more, hline, hleft, hright, -⟩ := exists_of_atGlyph? hl
  rw [← List.append_assoc] at hline
  obtain ⟨hlead, hcore⟩ := lead_core_of_append_eq hg hearlier
    (markless_append.mpr ⟨markless_of_isName hname, markless_of_all hpad⟩)
    (markless_of_isName_trim hleft) hline
  have hleadOf := lead_of_mem_classGlyphs g hg
  by_cases hbegins : earlier.core <+: g.core
  · obtain ⟨hsign, hlater⟩ := hover.1 hbegins
    have hno : g.lead = [] := by rcases hlater with h | h <;> rw [hleadOf, h] <;> decide
    rw [hno, lead_of_mem_classGlyphs earlier hearlier, if_pos hsign, List.append_nil] at hlead
    rw [isIdentifier_target_of_lead hsign hlater hpad hapart hlead hcore] at hright
    exact absurd hright (by decide)
  · obtain ⟨hhead, hno, hlater⟩ := head?_of_core hover hbegins hrest hcore
    rcases hlater with hlater | hlater
    · exact (hapart.1 hlater).2 hhead
    · -- blanks stand between the name and the letter of the glyph
      rw [hno, List.append_nil, hleadOf, if_pos hlater, List.append_assoc] at hlead
      have hne : pad ≠ [] := (hapart.2 hlater).resolve_right (fun h => h hhead)
      obtain ⟨c, hc⟩ := List.exists_mem_of_ne_nil pad hne
      have hone : IsName ['o'] := by decide
      have htrimmed : trim before = before := by
        rw [← hlead]
        exact hname.trimmed.append hname.ne_nil hone.trimmed hone.ne_nil pad
      have hblank := hleft.isBlank c (by rw [htrimmed, ← hlead]; simp [hc])
      rw [List.all_eq_true.mp hpad c hc] at hblank
      exact absurd hblank (by decide)

/-- A line is read at the glyph that is meant. -/
theorem relationship?_glyph (hg : g ∈ classGlyphs) (hname : IsName name)
    (hpad : pad.all isBlank = true) (hrest : ∀ c ∈ rest.head?, isMark c = false)
    (hapart : Apart g name pad rest) {right label : Text} (hright : IsName right)
    (htarget : target (trim rest) = (right, label)) :
    relationship? (name ++ (pad ++ (g.sign ++ rest))) = some (g.link name right label) := by
  obtain ⟨before, after, hcatalog⟩ := List.append_of_mem hg
  have hnone : before.findSome? (atGlyph? (name ++ (pad ++ (g.sign ++ rest)))) = none := by
    refine List.findSome?_eq_none_iff.mpr fun earlier hearlier => ?_
    have hpairs := hcatalog ▸ pairwise_overlaps
    exact atGlyph?_of_overlaps hg (by simp [hcatalog, hearlier])
      ((List.pairwise_append.mp hpairs).2.2 earlier hearlier g (by simp)) hname hpad hrest hapart
  have hcut : cut g.sign (name ++ (pad ++ (g.sign ++ rest))) = some (name ++ pad, rest) := by
    rw [← List.append_assoc]
    exact cut_markless_append hg rest
      (markless_append.mpr ⟨markless_of_isName hname, markless_of_all hpad⟩)
  have hhere : atGlyph? (name ++ (pad ++ (g.sign ++ rest))) g = some (g.link name right label) := by
    rw [atGlyph?, hcut, g.link_eq_ends]
    simp only [hname.trim_append hpad, htarget, hname.isIdentifier, hright.isIdentifier,
      Bool.and_self, if_true]
  rw [relationship?, hcatalog, List.findSome?_append, hnone, List.findSome?_cons, hhere]
  rfl

end Line

/-! ## §3 Targets -/

section Target

variable {right pad : Text}

theorem target_trim_name (hright : IsName right) (hpad : pad.all isBlank = true) :
    target (trim (pad ++ right)) = (right, []) := by
  rw [trim_append hpad, hright.trimmed, target_name hright]

/-- A colon and a label may follow the target, with any blanks around the colon. -/
theorem target_trim_colon (hright : IsName right) (hpad : pad.all isBlank = true)
    {w w' label : Text} (hw : w.all isBlank = true) (hw' : w'.all isBlank = true) (hne : label ≠ [])
    (htrim : Trimmed label) (hline : '\n' ∉ label) :
    target (trim (pad ++ (right ++ (w ++ ':' :: (w' ++ label))))) = (right, label) := by
  have htrimmed : trim (right ++ (w ++ ':' :: (w' ++ label))) = right ++ (w ++ ':' :: (w' ++ label)) := by
    have happend := hright.trimmed.append hright.ne_nil htrim hne (w ++ ':' :: w')
    simpa [Trimmed] using happend
  have hhead : ∀ c ∈ (w ++ ':' :: (w' ++ label)).head?, isWord c = false := by
    cases w with
    | nil => simp; decide
    | cons c w =>
      intro x hx
      obtain rfl : c = x := by simpa using hx
      exact isWord_eq_false_of_isBlank (List.all_eq_true.mp hw c (by simp))
  have hcolon : (w ++ ':' :: (w' ++ label)).dropWhile isBlank = ':' :: (w' ++ label) := by
    rw [List.dropWhile_append_of_pos (List.all_eq_true.mp hw), List.dropWhile_cons_of_neg (by decide)]
  have hlabel : (w' ++ label).dropWhile isBlank = label := by
    rw [List.dropWhile_append_of_pos (List.all_eq_true.mp hw')]
    exact trimStart_eq_self (trim_eq_self_iff.mp htrim).1
  have hsome : labelled? (right ++ (w ++ ':' :: (w' ++ label))) = some (right, label) := by
    simp only [labelled?, hright.dropWhile_append hhead, hright.takeWhile_append hhead, hcolon, hlabel]
    rw [if_neg, htrim]
    simpa [hright.ne_nil, hne] using hline
  rw [trim_append hpad, htrimmed, target, hsome]
  rfl

end Target

/-- What follows a target states the label: nothing that touches the
target, and then there is none, or a colon and the label. -/
inductive StatesLabel : Text → Text → Prop
  | none {tail : Text} (htail : ∀ c ∈ tail.head?, isBlank c = true) : StatesLabel tail []
  | colon {w w' w'' label : Text} (hw : w.all isBlank = true) (hw' : w'.all isBlank = true)
    (hw'' : w''.all isBlank = true) (hne : label ≠ []) (htrim : Trimmed label)
    (hline : '\n' ∉ label) : StatesLabel (w ++ ':' :: (w' ++ (label ++ w''))) label

/-- Blanks at the end of the line do not matter. -/
theorem StatesLabel.append {tail label pad : Text} (h : StatesLabel tail label)
    (hpad : pad.all isBlank = true) : StatesLabel (tail ++ pad) label := by
  cases h with
  | none htail =>
    refine .none fun c hc => ?_
    cases tail with
    | nil => exact List.all_eq_true.mp hpad c (List.mem_of_mem_head? hc)
    | cons d tail => exact htail c (by simpa using hc)
  | @colon w w' w'' _ hw hw' hw'' hne htrim hline =>
    have hend : (w'' ++ pad).all isBlank = true := by simp [hw'', hpad]
    have hcolon := StatesLabel.colon hw hw' hend hne htrim hline
    simpa using hcolon

/-- The target of a trimmed text is a name at its start, and the label is
stated by what follows it. -/
theorem target_of_trimmed {t : Text} (ht : Trimmed t) (hid : isIdentifier (target t).1 = true) :
    IsName (target t).1 ∧ ∃ tail, t = (target t).1 ++ tail ∧ StatesLabel tail (target t).2 := by
  unfold target at hid ⊢
  cases hl : labelled? t with
  | none =>
    simp only [hl, Option.getD_none] at hid ⊢
    have hword : firstWord t = t.takeWhile (fun c => !isBlank c) := by
      rw [firstWord, trimStart_eq_self (trim_eq_self_iff.mp ht).1]
    have hline : '\n' ∉ t.takeWhile (fun c => !isBlank c) := by
      intro hm
      exact absurd (List.all_eq_true.mp List.all_takeWhile _ hm) (by decide)
    rw [hword] at hid ⊢
    refine ⟨isName_of_isIdentifier hid hline, t.dropWhile (fun c => !isBlank c),
      List.takeWhile_append_dropWhile.symm, .none fun c hc => ?_⟩
    have hstop := List.head?_dropWhile_not (fun c => !isBlank c) t
    rw [Option.mem_def.mp hc] at hstop
    simpa using hstop
  | some found =>
    simp only [hl, Option.getD_some] at hid ⊢
    unfold labelled? at hl
    split at hl
    · next rest hrest =>
      dsimp only at hl
      split at hl
      · simp at hl
      · next hcond =>
        obtain rfl := Option.some.inj hl
        simp only [Bool.or_eq_true, List.isEmpty_iff, List.contains_iff_mem, not_or] at hcond
        obtain ⟨⟨hname, hlabel⟩, hline⟩ := hcond
        have hsplit : t = t.takeWhile isWord ++ ((t.dropWhile isWord).takeWhile isBlank ++
            ':' :: (rest.takeWhile isBlank ++ rest.dropWhile isBlank)) := by
          rw [List.takeWhile_append_dropWhile, ← hrest, List.takeWhile_append_dropWhile,
            List.takeWhile_append_dropWhile]
        have htrim : Trimmed (rest.dropWhile isBlank) := by
          refine trim_eq_self_iff.mpr ⟨head?_trimStart rest, fun c hc => ?_⟩
          refine (trim_eq_self_iff.mp ht).2 c ?_
          rw [hsplit, ← List.append_assoc, ← List.cons_append, ← List.append_assoc,
            List.getLast?_append, Option.mem_def.mp hc]
          rfl
        rw [htrim]
        refine ⟨isName_takeWhile hname, _, hsplit, ?_⟩
        have hnil : ([] : Text).all isBlank = true := rfl
        have hbefore : ((t.dropWhile isWord).takeWhile isBlank).all isBlank = true := List.all_takeWhile
        have hafter : (rest.takeWhile isBlank).all isBlank = true := List.all_takeWhile
        have hcolon := StatesLabel.colon hbefore hafter hnil hlabel htrim hline
        simpa using hcolon
    · simp at hl

/-! ## §4 Grammar -/

/-- The line relates two names at the glyph: a single name stands before
it, blanks apart, and the other one right after it. -/
inductive Relates (g : ClassGlyph) : Text → Link → Prop
  | intro {before after right tail label : Text} (hleft : IsName (trim before))
    (hright : IsName right) (hafter : trimStart after = right ++ tail)
    (hlabel : StatesLabel tail label) :
    Relates g (before ++ (g.sign ++ after)) (g.link (trim before) right label)

/-- Every line that states a link relates two names at a glyph. -/
theorem relates_of_relationship? {line : Text} {l : Link} (h : relationship? line = some l) :
    ∃ g ∈ classGlyphs, Relates g line l := by
  obtain ⟨g, hg, hat⟩ := List.exists_of_findSome?_eq_some h
  obtain ⟨before, rest, rfl, hleft, hid, rfl⟩ := exists_of_atGlyph? hat
  obtain ⟨hright, tail, htail, hlabel⟩ := target_of_trimmed (trimmed_trim rest) hid
  obtain ⟨pad, hrest, hpad⟩ := exists_trimStart_eq rest
  refine ⟨g, hg, .intro hleft hright ?_ (hlabel.append hpad)⟩
  rw [hrest, ← List.append_assoc, ← htail]

section Names

variable {g : ClassGlyph} {a b w₁ w₂ : Text}

/-- Two names with a glyph between them, and whatever may follow them. -/
theorem relationship?_names (hg : g ∈ classGlyphs) (ha : IsName a) (hb : IsName b)
    (hw₁ : w₁.all isBlank = true) (hw₂ : w₂.all isBlank = true) (hapart : Apart g a w₁ (w₂ ++ b))
    {tail label : Text} (htarget : target (trim (w₂ ++ (b ++ tail))) = (b, label)) :
    relationship? (a ++ (w₁ ++ (g.sign ++ (w₂ ++ (b ++ tail))))) = some (g.link a b label) := by
  have hhead : (w₂ ++ (b ++ tail)).head? = (w₂ ++ b).head? := by
    obtain ⟨c, u, rfl, -⟩ := hb.exists_cons
    simp [List.head?_append]
  have hmarkless : Markless (w₂ ++ b) :=
    markless_append.mpr ⟨markless_of_all hw₂, markless_of_isName hb⟩
  refine relationship?_glyph hg ha hw₁ ?_ ?_ hb htarget
  · intro c hc
    exact hmarkless c (List.mem_of_mem_head? (hhead ▸ hc))
  · simpa only [Apart, hhead] using hapart

end Names

/-- Two names with a glyph between them state its link, with the label
that follows a colon or with none; and every line that states a link
relates two names at a glyph. -/
theorem relationship?_grammar :
    (∀ g ∈ classGlyphs, ∀ a b w₁ w₂ : Text, IsName a → IsName b →
      w₁.all isBlank = true → w₂.all isBlank = true → Apart g a w₁ (w₂ ++ b) →
      relationship? (a ++ (w₁ ++ (g.sign ++ (w₂ ++ b)))) = some (g.link a b []) ∧
      ∀ w₃ w₄ label : Text, w₃.all isBlank = true → w₄.all isBlank = true →
        label ≠ [] → Trimmed label → '\n' ∉ label →
        relationship? (a ++ (w₁ ++ (g.sign ++ (w₂ ++ (b ++ (w₃ ++ ':' :: (w₄ ++ label))))))) =
          some (g.link a b label)) ∧
    ∀ line l, relationship? line = some l → ∃ g ∈ classGlyphs, Relates g line l := by
  refine ⟨fun g hg a b w₁ w₂ ha hb hw₁ hw₂ hapart => ⟨?_, ?_⟩, fun line l => relates_of_relationship?⟩
  · have htarget : target (trim (w₂ ++ (b ++ []))) = (b, []) := by
      rw [List.append_nil]
      exact target_trim_name hb hw₂
    have hline := relationship?_names hg ha hb hw₁ hw₂ hapart htarget
    rwa [List.append_nil] at hline
  · intro w₃ w₄ label hw₃ hw₄ hne htrim hline
    exact relationship?_names hg ha hb hw₁ hw₂ hapart
      (target_trim_colon hb hw₂ hw₃ hw₄ hne htrim hline)

/-- A glyph that points left; and one with a letter `o` on both sides, and
a label with glyphs and a colon in it. -/
theorem relationship?_grammar_letters :
    let down : ClassGlyph := ⟨"<|--".toList, .inheritance, true⟩
    let hollow : ClassGlyph := ⟨"o--".toList, .aggregation, false⟩
    let dog : Link := ⟨"Dog".toList, "Animal".toList, .inheritance, []⟩
    let ox : Link := ⟨"foo".toList, "ox".toList, .aggregation, "a --> b : o--c".toList⟩
    (down ∈ classGlyphs ∧ Apart down "Animal".toList " ".toList " Dog".toList ∧
      relationship? "Animal <|-- Dog".toList = some dog ∧
      ∃ g ∈ classGlyphs, Relates g "Animal <|-- Dog".toList dog) ∧
    (hollow ∈ classGlyphs ∧ Apart hollow "foo".toList "\t".toList "ox".toList ∧
      relationship? "foo\to--ox: a --> b : o--c".toList = some ox ∧
      ∃ g ∈ classGlyphs, Relates g "foo\to--ox: a --> b : o--c".toList ox) := by
  intro down hollow dog ox
  have hdown : down ∈ classGlyphs := by decide
  have hhollow : hollow ∈ classGlyphs := by decide
  have hdog : Apart down "Animal".toList " ".toList " Dog".toList := by decide
  have hox : Apart hollow "foo".toList "\t".toList "ox".toList := by decide
  have hdogLine := (relationship?_grammar.1 down hdown "Animal".toList "Dog".toList " ".toList
    " ".toList (by decide) (by decide) (by decide) (by decide) hdog).1
  have hoxLine := (relationship?_grammar.1 hollow hhollow "foo".toList "ox".toList "\t".toList []
    (by decide) (by decide) (by decide) (by decide) hox).2 [] " ".toList "a --> b : o--c".toList
    (by decide) (by decide) (by decide) (by decide) (by decide)
  exact ⟨⟨hdown, hdog, hdogLine, relationship?_grammar.2 _ _ hdogLine⟩,
    hhollow, hox, hoxLine, relationship?_grammar.2 _ _ hoxLine⟩

end DiagramGraph.Mermaid
