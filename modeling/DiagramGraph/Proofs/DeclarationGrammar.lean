/-
DiagramGraph.Proofs.DeclarationGrammar — the lines that declare a class,
as a grammar.

A declaration is the keyword, blanks and a name. After the name follow,
each of them optional and in this order, a generic part between tildes, a
display label in one of two spellings, a style and a body. The main
statement is `readStatements_declaration`: whatever stands between the
tildes and between the quotes, the reader makes sure of the class, offers
it the cleaned label, and looks for the body in the last part only. A
brace in a generic part or in a label opens and closes nothing.

  §1 Written declarations — `WrittenDeclaration`: the parts of a line,
                            each of them as the grammar has it.
  §2 Parts                — each scanner takes its part and stops. It
                            stops since the first character after the
                            part that is no blank begins one of the parts
                            that may follow (`Opens`).
  §3 Lines                — the parts are found again (`declaration?_line`)
                            and the body is what the tail says
                            (`body_tail`).
  §4 Reading              — the effect of the line, for every draft and
                            every list of statements after it.
-/
import DiagramGraph.Proofs.ClassMachine
import DiagramGraph.Proofs.TextTheorems

namespace DiagramGraph.Mermaid

open Text ClassDiagram

/-! ## §1 Written declarations -/

/-- A display label as a line writes it: in brackets, with any blanks
before and inside them, or after at least one blank. -/
inductive WrittenLabel
  | bracketed (w w' w'' text : Text) (hw : w.all isBlank = true) (hw' : w'.all isBlank = true)
      (hw'' : w''.all isBlank = true) (hquote : '"' ∉ text)
  | spaced (w text : Text) (hw : w.all isBlank = true) (hne : w ≠ []) (hquote : '"' ∉ text)

/-- The text between the quotes. -/
def WrittenLabel.text : WrittenLabel → Text
  | bracketed _ _ _ text _ _ _ _ => text
  | spaced _ text _ _ _ => text

/-- The label as it is written. -/
def WrittenLabel.chars : WrittenLabel → Text
  | bracketed w w' w'' text _ _ _ _ => w ++ '[' :: (w' ++ '"' :: (text ++ '"' :: (w'' ++ [']'])))
  | spaced w text _ _ _ => w ++ '"' :: (text ++ ['"'])

/-- What follows the other parts: nothing, a body that the following
lines fill, or a body that ends on the line. -/
inductive WrittenTail
  | none
  | opened (w text : Text) (hw : w.all isBlank = true) (hclose : '\x7d' ∉ text)
  | closed (w inner after : Text) (hw : w.all isBlank = true) (hclose : '\x7d' ∉ inner)

/-- The tail as it is written. -/
def WrittenTail.chars : WrittenTail → Text
  | none => []
  | opened w text _ _ => w ++ '\x7b' :: text
  | closed w inner after _ _ => w ++ '\x7b' :: (inner ++ '\x7d' :: after)

/-- A class declaration as a line writes it. -/
structure WrittenDeclaration where
  blanks : Text
  name : Text
  generic : Option Text
  label : Option WrittenLabel
  style : Option Text
  tail : WrittenTail
  isBlank_blanks : blanks.all isBlank = true
  blanks_ne_nil : blanks ≠ []
  isName : IsName name
  noTilde : ∀ g ∈ generic, '~' ∉ g
  isName_style : ∀ s ∈ style, IsName s

namespace WrittenDeclaration

/-- The generic part after the name, empty if there is none. -/
def genericText (w : WrittenDeclaration) : Text :=
  (w.generic.map fun g => '~' :: (g ++ ['~'])).getD []

/-- The label after the generic part, empty if there is none. -/
def labelChars (w : WrittenDeclaration) : Text := (w.label.map WrittenLabel.chars).getD []

/-- The style after the label, empty if there is none. -/
def styleText (w : WrittenDeclaration) : Text := (w.style.map (":::".toList ++ ·)).getD []

/-- The whole line. -/
def line (w : WrittenDeclaration) : Text :=
  "class".toList ++ (w.blanks ++ (w.name ++
    (w.genericText ++ (w.labelChars ++ (w.styleText ++ w.tail.chars)))))

/-- The text between the quotes of the label, empty if there is no label. -/
def quoted (w : WrittenDeclaration) : Text := (w.label.map WrittenLabel.text).getD []

end WrittenDeclaration

/-! ## §2 Parts -/

/-- The first character of the text that is no blank, if there is one, is
one of the marks. -/
def Opens (marks t : Text) : Prop := ∀ c ∈ (trimStart t).head?, c ∈ marks

/-- Blanks before a character that is none are passed over. -/
theorem trimStart_blanks_cons {w : Text} (hw : w.all isBlank = true) {c : Char}
    (hc : isBlank c = false) (t : Text) : trimStart (w ++ c :: t) = c :: t := by
  rw [trimStart_append hw]
  exact trimStart_eq_self (by simp [hc])

theorem opens_blanks_cons {marks w : Text} (hw : w.all isBlank = true) {c : Char} (hm : c ∈ marks)
    (hc : isBlank c = false) (t : Text) : Opens marks (w ++ c :: t) := by
  intro x hx
  rw [trimStart_blanks_cons hw hc] at hx
  obtain rfl : c = x := by simpa using hx
  exact hm

theorem Opens.mono {marks more t : Text} (h : Opens marks t) (hsub : marks ⊆ more) : Opens more t :=
  fun c hc => hsub (h c hc)

/-- The text itself begins with a blank or with a mark. -/
theorem Opens.head? {marks t : Text} (h : Opens marks t) {c : Char} (hc : c ∈ t.head?) :
    isBlank c = true ∨ c ∈ marks := by
  cases hb : isBlank c with
  | true => exact .inl rfl
  | false =>
    have hstart : trimStart t = t := trimStart_eq_self fun x hx => by
      obtain rfl : c = x := Option.some.inj (hc.symm.trans hx)
      exact hb
    exact .inr (h c (hstart.symm ▸ hc))

/-- A text does not begin with a character that is no blank and no mark. -/
theorem Opens.head?_ne {marks t : Text} (h : Opens marks t) {c : Char} (hb : isBlank c = false)
    (hm : c ∉ marks) : t.head? ≠ some c := by
  intro hc
  rcases h.head? hc with hblank | hmark
  · rw [hb] at hblank
    exact absurd hblank (by decide)
  · exact hm hmark

/-- A name ends before a blank and before a mark. -/
theorem Opens.isWord {marks t : Text} (h : Opens marks t) (hm : marks.all (fun c => !isWord c) = true) :
    ∀ c ∈ t.head?, isWord c = false := by
  intro c hc
  rcases h.head? hc with hblank | hmark
  · exact isWord_eq_false_of_isBlank hblank
  · simpa using List.all_eq_true.mp hm c hmark

theorem WrittenTail.opens (tail : WrittenTail) : Opens ['\x7b'] tail.chars := by
  cases tail with
  | none => simp [Opens, chars]
  | opened w text hw => exact opens_blanks_cons hw (by simp) (by decide) _
  | closed w inner after hw => exact opens_blanks_cons hw (by simp) (by decide) _

/-- No label is found before a text that opens with other marks. -/
theorem declaredLabel_eq {marks t : Text} (h : Opens marks t) (hm : '[' ∉ marks ∧ '"' ∉ marks) :
    declaredLabel t = ([], t) := by
  have hbracket : bracketLabel? t = none := by
    unfold bracketLabel?
    split
    · next inner hopen => exact absurd (h '[' (by simp [hopen])) hm.1
    · rfl
  have hquoted : quotedText? (trimStart t) = none := by
    unfold quotedText?
    split
    · next inner hopen => exact absurd (h '"' (by simp [hopen])) hm.2
    · rfl
  have hspaced : spacedLabel? t = none := by
    unfold spacedLabel?
    split
    · rw [hquoted, ite_self]
    · rfl
  rw [declaredLabel, hbracket, hspaced]
  rfl

theorem quotedText?_append {text : Text} (h : '"' ∉ text) (rest : Text) :
    quotedText? ('"' :: (text ++ '"' :: rest)) = some (text, rest) :=
  cutAt_append h rest

/-- A written label is taken, and what follows it is left. -/
theorem WrittenLabel.declaredLabel_chars (l : WrittenLabel) (rest : Text) :
    declaredLabel (l.chars ++ rest) = (l.text, rest) := by
  cases l with
  | bracketed w w' w'' text hw hw' hw'' hquote =>
    have hchars : (bracketed w w' w'' text hw hw' hw'' hquote).chars ++ rest =
        w ++ '[' :: (w' ++ '"' :: (text ++ '"' :: (w'' ++ ']' :: rest))) := by
      simp [chars]
    have hbracket : bracketLabel? (w ++ '[' :: (w' ++ '"' :: (text ++ '"' :: (w'' ++ ']' :: rest)))) =
        some (text, rest) := by
      simp only [bracketLabel?, trimStart_blanks_cons hw (by decide : isBlank '[' = false),
        trimStart_blanks_cons hw' (by decide : isBlank '"' = false), quotedText?_append hquote,
        trimStart_blanks_cons hw'' (by decide : isBlank ']' = false)]
    rw [hchars, declaredLabel, hbracket]
    rfl
  | spaced w text hw hne hquote =>
    have hchars : (spaced w text hw hne hquote).chars ++ rest = w ++ '"' :: (text ++ '"' :: rest) := by
      simp [chars]
    have hbracket : bracketLabel? (w ++ '"' :: (text ++ '"' :: rest)) = none := by
      rw [bracketLabel?, trimStart_blanks_cons hw (by decide)]
      rfl
    obtain ⟨c, u, rfl⟩ := List.exists_cons_of_ne_nil hne
    have hc : isBlank c = true := List.all_eq_true.mp hw c (by simp)
    have hspaced : spacedLabel? ((c :: u) ++ '"' :: (text ++ '"' :: rest)) = some (text, rest) := by
      rw [List.cons_append, spacedLabel?, if_pos hc, ← List.cons_append,
        trimStart_blanks_cons hw (by decide), quotedText?_append hquote]
    rw [hchars, declaredLabel, hbracket, hspaced]
    rfl

theorem skipGeneric_eq {t : Text} (h : t.head? ≠ some '~') : skipGeneric t = t := by
  unfold skipGeneric
  split
  · simp at h
  · rfl

namespace WrittenDeclaration

variable (w : WrittenDeclaration)

theorem opens_style : Opens [':', '\x7b'] (w.styleText ++ w.tail.chars) := by
  unfold styleText
  cases w.style with
  | none => exact w.tail.opens.mono (by simp)
  | some s => exact opens_blanks_cons (w := []) (c := ':') rfl (by simp) (by decide) _

theorem opens_label :
    Opens ['[', '"', ':', '\x7b'] (w.labelChars ++ (w.styleText ++ w.tail.chars)) := by
  unfold labelChars
  cases w.label with
  | none => exact w.opens_style.mono (by simp)
  | some l =>
    cases l with
    | bracketed pad _ _ _ hpad =>
      rw [Option.map_some, Option.getD_some, WrittenLabel.chars, List.append_assoc]
      exact opens_blanks_cons hpad (by simp) (by decide) _
    | spaced pad _ hpad =>
      rw [Option.map_some, Option.getD_some, WrittenLabel.chars, List.append_assoc]
      exact opens_blanks_cons hpad (by simp) (by decide) _

/-- The style is taken off, and the tail is left. -/
theorem takeStyle_styleText : takeStyle (w.styleText ++ w.tail.chars) = (w.styleText, w.tail.chars) := by
  unfold styleText
  cases hstyle : w.style with
  | none =>
    have hcolon : w.tail.chars.head? ≠ some ':' := w.tail.opens.head?_ne (by decide) (by decide)
    cases htail : w.tail.chars with
    | nil => rfl
    | cons c t => exact takeStyle_cons (by rintro rfl; simp [htail] at hcolon) t
  | some s =>
    have hname := w.isName_style s hstyle
    have hhead := w.tail.opens.isWord (by decide)
    rw [Option.map_some, Option.getD_some, List.append_assoc]
    exact takeStyle_colons hname.ne_nil (hname.takeWhile_append hhead) (hname.dropWhile_append hhead)

/-- The label is taken, and what follows it is left. -/
theorem declaredLabel_labelChars : declaredLabel (w.labelChars ++ (w.styleText ++ w.tail.chars)) =
    (w.quoted, w.styleText ++ w.tail.chars) := by
  unfold labelChars quoted
  cases w.label with
  | none => exact declaredLabel_eq w.opens_style (by decide)
  | some l => exact l.declaredLabel_chars _

/-- The generic part is passed over, whatever it holds. -/
theorem skipGeneric_genericText :
    skipGeneric (w.genericText ++ (w.labelChars ++ (w.styleText ++ w.tail.chars))) =
      w.labelChars ++ (w.styleText ++ w.tail.chars) := by
  unfold genericText
  cases hgeneric : w.generic with
  | none => exact skipGeneric_eq (w.opens_label.head?_ne (by decide) (by decide))
  | some g =>
    have hchars : ((some g).map fun g => '~' :: (g ++ ['~'])).getD [] ++
        (w.labelChars ++ (w.styleText ++ w.tail.chars)) =
          '~' :: (g ++ '~' :: (w.labelChars ++ (w.styleText ++ w.tail.chars))) := by
      simp
    rw [hchars, skipGeneric, cutAt_append (w.noTilde g hgeneric)]

/-- The name ends where the next part begins. -/
theorem head?_genericText :
    ∀ c ∈ (w.genericText ++ (w.labelChars ++ (w.styleText ++ w.tail.chars))).head?, isWord c = false := by
  unfold genericText
  cases w.generic with
  | none => exact w.opens_label.isWord (by decide)
  | some g =>
    intro c hc
    obtain rfl : '~' = c := by simpa using hc
    decide

/-! ## §3 Lines -/

/-- The parts of a declaration are found again. -/
theorem declaration?_line : declaration? w.line = some ⟨w.name, w.quoted, w.tail.chars⟩ := by
  obtain ⟨c, u, hname, hc⟩ := w.isName.exists_cons
  have hnamed : trimStart (w.blanks ++ (w.name ++
      (w.genericText ++ (w.labelChars ++ (w.styleText ++ w.tail.chars))))) =
      w.name ++ (w.genericText ++ (w.labelChars ++ (w.styleText ++ w.tail.chars))) := by
    rw [hname, List.cons_append]
    exact trimStart_blanks_cons w.isBlank_blanks (isBlank_eq_false_of_isWord hc) _
  have hlength : w.blanks.length ≠ 0 := by simpa using w.blanks_ne_nil
  have htake := w.isName.takeWhile_append w.head?_genericText
  have hdrop := w.isName.dropWhile_append w.head?_genericText
  rw [line, declaration?, after?_append]
  dsimp only
  rw [hnamed, htake, hdrop, w.skipGeneric_genericText, w.declaredLabel_labelChars,
    w.takeStyle_styleText]
  rw [if_neg]
  simpa [w.isName.ne_nil] using hlength

end WrittenDeclaration

/-- The body that a tail opens. -/
theorem body_tail (name label : Text) (tail : WrittenTail) :
    (Declaration.mk name label tail.chars).body =
      match tail with
      | .none => .absent
      | .opened .. => .opened
      | .closed _ inner _ _ _ => .closed (inlineMembers inner) := by
  have hopen {w : Text} (hw : w.all isBlank = true) : '\x7b' ∉ w :=
    fun hm => absurd (List.all_eq_true.mp hw _ hm) (by decide)
  cases tail with
  | none => rfl
  | opened w text hw hclose =>
    rw [Declaration.body, WrittenTail.chars, cutAt_append (hopen hw)]
    dsimp only
    rw [cutAt_eq_none hclose]
  | closed w inner after hw hclose =>
    rw [Declaration.body, WrittenTail.chars, cutAt_append (hopen hw)]
    dsimp only
    rw [cutAt_append hclose]

/-! ## §4 Reading -/

namespace WrittenDeclaration

variable (w : WrittenDeclaration)

theorem isGrouping_line : ¬ isGrouping w.line = true := by
  simp [isGrouping, line, List.isPrefixOf]

/-- A declaration reaches the reader wherever it stands: it is no comment,
no note and no header. -/
theorem survivors_line (before after : List Text) :
    survivors (before ++ w.line :: after) = survivors before ++ w.line :: after.filter survives := by
  have hline : survives w.line = true := by simp [survives, line, List.isPrefixOf]
  refine survivors_append_cons hline (fun hheader => ?_) before after
  obtain ⟨c, u, hblanks⟩ := List.exists_cons_of_ne_nil w.blanks_ne_nil
  have hc : isBlank c = true := List.all_eq_true.mp w.isBlank_blanks c (by simp [hblanks])
  have hsplit : "classDiagram".toList = "class".toList ++ 'D' :: "iagram".toList := rfl
  rw [line, hsplit, List.prefix_append_right_inj, hblanks, List.cons_append] at hheader
  obtain ⟨rfl, -⟩ := List.cons_prefix_cons.mp hheader
  exact absurd hc (by decide)

/-- The machine takes a declaration in one step. -/
theorem step_line (d : Draft) :
    Machine.step ⟨.top, d⟩ w.line = declare d ⟨w.name, w.quoted, w.tail.chars⟩ :=
  run_top_of_declaration? w.isGrouping_line w.declaration?_line d

end WrittenDeclaration

/-- A written declaration is read as one, wherever it stands: it makes
sure of its class and offers the cleaned label, and its tail alone decides
on the body. A body that ends on the line adds its members, one that does
not is filled by the statements up to the one that closes it. -/
theorem readStatements_declaration (w : WrittenDeclaration) (d : Draft) (rest : List Text) :
    (∀ before after, survivors (before ++ w.line :: after) =
      survivors before ++ w.line :: after.filter survives) ∧
    readStatements d (w.line :: rest) =
      let e := d.mention w.name (Label.clean w.quoted)
      match w.tail with
      | .none => readStatements e rest
      | .closed _ inner _ _ _ =>
        readStatements (e.update w.name fun n => { n with
          members := n.members ++ ((inner.splitOn ',').map trim).filter (fun m => !m.isEmpty) }) rest
      | .opened .. =>
        readStatements ((bodyOf rest).foldl (fill w.name) e)
          (rest.drop ((bodyOf rest).length + 1)) := by
  refine ⟨w.survivors_line, ?_⟩
  rw [readStatements_eq_run, Machine.run_cons, w.step_line, declare_eq, body_tail]
  cases w.tail with
  | none => exact (readStatements_eq_run _ rest).symm
  | closed pad inner after => exact (readStatements_eq_run _ rest).symm
  | opened pad text => exact (run_body w.name _ rest).trans (readStatements_eq_run _ _).symm

/-- Braces, brackets and commas in all parts, first with a body that ends
on the line and then with one that does not. -/
theorem readStatements_declaration_braces :
    readStatements {} ["class\tA~\x7b x~ [ \"\x7d, y\" ]:::c\x7b +a, ,b(\x7b) \x7d d \x7d".toList] =
        { nodes := [⟨"A".toList, "\x7d, y".toList, ["+a".toList, "b(\x7b)".toList], none⟩] } ∧
      readStatements {} ["class A~\x7d~ \"\x7b\x7d\" \x7b [\"b\"]".toList, "c".toList, "\x7d".toList,
          "d".toList] =
        { nodes := [⟨"A".toList, "\x7b\x7d".toList, ["c".toList], none⟩], unread := ["d".toList] } := by
  let closed : WrittenDeclaration :=
    ⟨['\t'], "A".toList, some "\x7b x".toList,
      some (.bracketed [' '] [' '] [' '] "\x7d, y".toList rfl rfl rfl (by decide)), some "c".toList,
      .closed [] " +a, ,b(\x7b) ".toList " d \x7d".toList rfl (by decide), rfl, by simp, by decide,
      by decide, by decide⟩
  let opened : WrittenDeclaration :=
    ⟨[' '], "A".toList, some "\x7d".toList, some (.spaced [' '] "\x7b\x7d".toList rfl (by simp) (by decide)),
      none, .opened [' '] " [\"b\"]".toList rfl (by decide), rfl, by simp, by decide, by decide,
      by decide⟩
  exact ⟨(readStatements_declaration closed {} []).2.trans (by decide +kernel),
    (readStatements_declaration opened {} ["c".toList, "\x7d".toList, "d".toList]).2.trans
      (by decide +kernel)⟩

end DiagramGraph.Mermaid
