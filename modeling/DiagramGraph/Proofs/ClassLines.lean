/-
DiagramGraph.Proofs.ClassLines — the printed lines of a class diagram,
read back one at a time.

  §1 Declarations   — `declaration?_header`: `class Name["label"]`, with
                      or without an opening brace after it, declares the
                      class with that label.
  §2 Relationships  — `relationship?_joinLine`: a line is read at its sign,
                      whatever the label holds. A glyph of the label can
                      come earlier in the catalog and is found first, but
                      then more than one identifier stands to its left.
                      The target and the label of `B : label` are found
                      again (`target_trim_colonLabel`).
  §3 Priorities     — a relationship is not taken for a declaration.
-/
import DiagramGraph.Mermaid.Writer
import DiagramGraph.Mermaid.ClassDiagram
import DiagramGraph.Proofs.DeclarationGrammar
import DiagramGraph.Proofs.TextTheorems

namespace DiagramGraph.Mermaid

open Text

/-! ## §1 Declarations -/

/-- What the printer puts after a header: nothing, or an open body. -/
inductive HeaderTail : Text → Prop
  | nil : HeaderTail []
  | brace : HeaderTail " \x7b".toList

/-- A printed header declares its class. -/
theorem declaration?_header {id : Text} (hid : IsName id) {label : Option Text}
    (h : ∀ t ∈ label, '"' ∉ t) {tail : Text} (htail : HeaderTail tail) :
    declaration? ("class ".toList ++ id ++ bracketed label ++ tail) =
      some ⟨id, label.getD [], tail⟩ := by
  obtain ⟨closing, rfl⟩ : ∃ closing : WrittenTail, closing.chars = tail := by
    cases htail with
    | nil => exact ⟨.none, rfl⟩
    | brace => exact ⟨.opened [' '] [] rfl (by simp), rfl⟩
  obtain ⟨label?, hchars, htext⟩ : ∃ label? : Option WrittenLabel,
      (label?.map WrittenLabel.chars).getD [] = bracketed label ∧
        (label?.map WrittenLabel.text).getD [] = label.getD [] := by
    cases label with
    | none => exact ⟨none, rfl, rfl⟩
    | some t =>
      refine ⟨some (.bracketed [] [] [] t rfl rfl rfl (h t rfl)), ?_, rfl⟩
      simp [WrittenLabel.chars, bracketed]
  let written : WrittenDeclaration :=
    ⟨[' '], id, none, label?, none, closing, rfl, by simp, hid, by simp, by simp⟩
  have hline : "class ".toList ++ id ++ bracketed label ++ closing.chars = written.line := by
    rw [← hchars, List.append_assoc, List.append_assoc]
    rfl
  rw [hline, written.declaration?_line, ← htext]
  rfl

/-! ## §2 Relationships -/

/-- What the printer puts after a target: nothing, or its label. -/
def colonLabel (label : Text) : Text := if label = [] then [] else " : ".toList ++ label

theorem target_name {target : Text} (h : IsName target) : Mermaid.target target = (target, []) := by
  have hnone : labelled? target = none := by
    simp only [labelled?, h.dropWhile_self]
    rfl
  rw [Mermaid.target, hnone, firstWord, trimStart_eq_self fun c hc => h.isBlank c (List.mem_of_mem_head? hc)]
  have hall : target.takeWhile (fun c => !isBlank c) = target :=
    List.takeWhile_eq_self_iff.mpr fun c hc => by simp [h.isBlank c hc]
  simp [hall]

theorem target_colonLabel {target label : Text} (h : IsName target) (htrim : Trimmed label)
    (hline : '\n' ∉ label) : Mermaid.target (target ++ colonLabel label) = (target, label) := by
  unfold colonLabel
  split
  · next hnil => rw [List.append_nil, target_name h, hnil]
  · next hne =>
    have hcolon : isWord ' ' = false ∧ isBlank ' ' = true ∧ isBlank ':' = false := by decide
    have hhead : ∀ c ∈ (" : ".toList ++ label).head?, isWord c = false := by simp [hcolon.1]
    have hblank : (" : ".toList ++ label).dropWhile isBlank = ':' :: ' ' :: label := by
      simp [hcolon]
    have hlabel : (' ' :: label).dropWhile isBlank = label := by
      have hstart := trimStart_eq_self (trim_eq_self_iff.mp htrim).1
      simpa [hcolon, trimStart] using hstart
    have hsome : labelled? (target ++ (" : ".toList ++ label)) = some (target, label) := by
      simp only [labelled?, h.dropWhile_append hhead, h.takeWhile_append hhead, hblank, hlabel]
      rw [if_neg, htrim]
      simpa [h.ne_nil, hne] using hline
    rw [Mermaid.target, hsome]
    rfl

/-- The signs of the catalog hold no space, and something that no name holds. -/
theorem sign_of_mem_classGlyphs : ∀ g ∈ classGlyphs,
    ' ' ∉ g.sign ∧ g.sign.all isWord = false := by
  decide

/-- The sign that a relation is printed with stands in the catalog, and
no sign before it there begins it. -/
theorem classSign_spec (r : Relation) : ∃ before after,
    classGlyphs = before ++ ⟨classSign (some r), r, false⟩ :: after ∧
      ∀ g ∈ before, ¬ g.sign <+: classSign (some r) := by
  cases r
  · exact ⟨classGlyphs.take 1, classGlyphs.drop 2, by decide, by decide⟩
  · exact ⟨classGlyphs.take 3, classGlyphs.drop 4, by decide, by decide⟩
  · exact ⟨classGlyphs.take 5, classGlyphs.drop 6, by decide, by decide⟩
  · exact ⟨classGlyphs.take 7, classGlyphs.drop 8, by decide, by decide⟩
  · exact ⟨classGlyphs.take 9, classGlyphs.drop 10, by decide, by decide⟩
  · exact ⟨classGlyphs.take 11, classGlyphs.drop 12, by decide, by decide⟩
  · exact ⟨classGlyphs.take 12, classGlyphs.drop 13, by decide, by decide⟩

/-- A sign begins with no blank, and with a word character only for an
aggregation. -/
theorem exists_classSign_cons (r : Relation) : ∃ c t, classSign (some r) = c :: t ∧
    isBlank c = false ∧ (r ≠ .aggregation → isWord c = false) := by
  cases r <;> exact ⟨_, _, rfl, by decide, by decide⟩

/-- More than a name stands left of a glyph that is found behind the
printed one. -/
theorem isIdentifier_trim_eq_false {source : Text} (hs : IsName source) {c : Char}
    (hc : isBlank c = false) (rest : Text) :
    isIdentifier (trim (source ++ ' ' :: c :: rest)) = false := by
  apply isIdentifier_eq_false
  obtain ⟨d, u, rfl, hd⟩ := hs.exists_cons
  have hkeep : trimEnd (' ' :: c :: rest) = ' ' :: c :: trimEnd rest := by
    rw [show ' ' :: c :: rest = [' '] ++ c :: rest from rfl, trimEnd_append, trimEnd_cons hc]
    rfl
  rw [trim, trimStart_eq_self (by simp [isBlank_eq_false_of_isWord hd]), trimEnd_append, hkeep]
  simp

/-- A glyph that does not begin the printed sign decides nothing. -/
theorem atGlyph?_eq_none {source : Text} (hs : IsName source) {g : ClassGlyph}
    (hg : g ∈ classGlyphs) {r : Relation} (hpre : ¬ g.sign <+: classSign (some r)) (rest : Text) :
    atGlyph? (source ++ ' ' :: (classSign (some r) ++ ' ' :: rest)) g = none := by
  obtain ⟨hspace, hword⟩ := sign_of_mem_classGlyphs g hg
  rw [atGlyph?, cut_name_append hspace hword _ hs.isWord]
  cases hcut : cut g.sign (classSign (some r) ++ ' ' :: rest) with
  | none => rfl
  | some found =>
    obtain ⟨before, after⟩ := found
    have happend := cut_eq_some hcut
    have hleft : isIdentifier (trim (source ++ ' ' :: before)) = false := by
      cases before with
      | nil =>
        -- the glyph would stand where the printed sign does
        exact absurd (prefix_of_prefix_append_cons hspace ⟨after, by simpa using happend.symm⟩) hpre
      | cons c t =>
        obtain ⟨d, u, hsign, hd, -⟩ := exists_classSign_cons r
        rw [hsign] at happend
        obtain ⟨rfl, -⟩ : d = c ∧ _ := by simpa using happend
        exact isIdentifier_trim_eq_false hs hd t
    simp only [Option.map_some, hleft, Bool.false_and, Bool.false_eq_true, if_false]

theorem trimmed_colonLabel {target label : Text} (h : IsName target) (htrim : Trimmed label) :
    Trimmed (target ++ colonLabel label) := by
  unfold colonLabel
  split
  · rw [List.append_nil]; exact h.trimmed
  · next hne => exact h.trimmed.append h.ne_nil htrim hne _

theorem target_trim_colonLabel {target label : Text} (h : IsName target) (htrim : Trimmed label)
    (hline : '\n' ∉ label) : Mermaid.target (trim (target ++ colonLabel label)) = (target, label) := by
  rw [trimmed_colonLabel h htrim]
  exact target_colonLabel h htrim hline

/-- A name, the sign of a relation, and whatever stands right of it. -/
def joinLine (source : Text) (r : Relation) (rest : Text) : Text :=
  source ++ ' ' :: (classSign (some r) ++ ' ' :: rest)

/-- The printed line of a link between two names. -/
def linkLine (l : Link) : Text :=
  joinLine l.source l.relation (l.target ++ colonLabel l.label)

section JoinLine

variable {source rest : Text} {r : Relation}

theorem atGlyph?_joinLine (hs : IsName source) (ht : IsName (Mermaid.target (trim rest)).1)
    (hg : (⟨classSign (some r), r, false⟩ : ClassGlyph) ∈ classGlyphs) :
    atGlyph? (joinLine source r rest) ⟨classSign (some r), r, false⟩ =
      some ⟨source, (Mermaid.target (trim rest)).1, r, (Mermaid.target (trim rest)).2⟩ := by
  obtain ⟨hspace, hword⟩ := sign_of_mem_classGlyphs _ hg
  have hcut : cut (classSign (some r)) (joinLine source r rest) =
      some (source ++ [' '], ' ' :: rest) := by
    rw [joinLine, cut_name_append hspace hword _ hs.isWord, cut_append_self]
    rfl
  have hleft : trim (source ++ [' ']) = source := hs.trim_append (by decide)
  rw [atGlyph?, hcut]
  simp only [hleft, trim_space_cons, hs.isIdentifier, ht.isIdentifier, Bool.and_self, if_true]
  rfl

/-- A line is read at its sign, whatever the label after the target holds. -/
theorem relationship?_joinLine (hs : IsName source) (ht : IsName (Mermaid.target (trim rest)).1) :
    relationship? (joinLine source r rest) =
      some ⟨source, (Mermaid.target (trim rest)).1, r, (Mermaid.target (trim rest)).2⟩ := by
  obtain ⟨before, after, hcatalog, hbefore⟩ := classSign_spec r
  have hnone : before.findSome? (atGlyph? (joinLine source r rest)) = none := by
    refine List.findSome?_eq_none_iff.mpr fun g hg => ?_
    exact atGlyph?_eq_none hs (by simp [hcatalog, hg]) (hbefore g hg) _
  rw [relationship?, hcatalog, List.findSome?_append, hnone, List.findSome?_cons,
    atGlyph?_joinLine hs ht (by simp [hcatalog])]
  rfl

end JoinLine

/-! ## §3 Priorities -/

section JoinLine

variable {source : Text}

/-- The line of a link declares no class, unless it is `class o-- B`. -/
theorem declaration?_joinLine (hs : IsName source) {r : Relation}
    (hclass : ¬ (r = .aggregation ∧ source = "class".toList)) (rest : Text) :
    declaration? (joinLine source r rest) = none := by
  unfold declaration?
  cases hafter : after? "class".toList (joinLine source r rest) with
  | none => rfl
  | some more =>
    have hline := after?_eq_some_iff.mp hafter
    obtain ⟨u, hu⟩ : "class".toList <+: source :=
      prefix_of_prefix_append_cons (x := ' ') (by decide) ⟨more, hline.symm⟩
    rw [joinLine, ← hu, List.append_assoc] at hline
    have hmore := (List.append_cancel_left hline).symm
    dsimp only
    cases u with
    | nil =>
      -- the source is `class` itself, and its sign begins no name
      obtain ⟨c, t, hsign, hc, hword⟩ := exists_classSign_cons r
      have hne : r ≠ .aggregation := fun he => hclass ⟨he, by simpa using hu.symm⟩
      have htrim : trimStart more = c :: (t ++ ' ' :: rest) := by
        have hstart : ∀ x ∈ (c :: (t ++ ' ' :: rest)).head?, isBlank x = false := by simp [hc]
        rw [hmore, hsign]
        exact trimStart_eq_self hstart
      rw [htrim]
      simp [hword hne]
    | cons c u =>
      have hc : isBlank c = false := hs.isBlank c (by rw [← hu]; simp)
      have htrim : trimStart more = more := trimStart_eq_self (by rw [hmore]; simp [hc])
      rw [htrim]
      simp

/-- The line of a link groups nothing. -/
theorem isGrouping_joinLine (hs : IsName source) (hnamespace : ¬ "namespace".toList <+: source)
    (r : Relation) (rest : Text) : ClassDiagram.isGrouping (joinLine source r rest) = false := by
  have hprefix : "namespace".toList.isPrefixOf (joinLine source r rest) = false := by
    refine Bool.eq_false_iff.mpr fun h => hnamespace ?_
    exact prefix_of_prefix_append_cons (x := ' ') (by decide) (List.isPrefixOf_iff_prefix.mp h)
  obtain ⟨c, u, hcons, hc⟩ := hs.exists_cons
  have hbraces : ∀ b ∈ ['\x7b', '\x7d'], joinLine source r rest ≠ [b] := by
    intro b hb hline
    have hcb : c = b := by
      rw [joinLine, hcons] at hline
      simpa using congrArg List.head? hline
    have hbrace : ['\x7b', '\x7d'].any isWord = false := by decide
    exact List.any_eq_false.mp hbrace b hb (hcb ▸ hc)
  rw [ClassDiagram.isGrouping, hprefix]
  simpa using ⟨hbraces _ (by simp), hbraces _ (by simp)⟩

end JoinLine
end DiagramGraph.Mermaid
