/-
DiagramGraph.Proofs.InlineBodies — the members of a class on its line and
on lines of their own.

The body of a class can end on the line that declares it, with commas
between the members, or be written one member a line. The two are read by
different rules: the first is cut at its commas, the lines of the second
have to reach the reader and are looked at one by one. The main statement
is `readLines_inlineBody`: outside of bodies, whatever stands before and
after, both give the same diagram, as long as each member is one for both
rules (`InlineMember`).

  §1 Members   — the members between commas are found again.
  §2 Bodies    — the machine is in the same state after either body.
  §3 Diagrams  — so are the diagrams of lines, and of texts that are
                 class diagrams.
-/
import DiagramGraph.Proofs.ClassRoundTrip
import DiagramGraph.Proofs.DeclarationGrammar

namespace DiagramGraph.Mermaid

open Text ClassDiagram

/-! ## §1 Members -/

/-- A member that can stand in a body of either kind. -/
@[mk_iff] structure InlineMember (m : Text) : Prop where
  body : BodyMember m
  noComma : ',' ∉ m
  noBrace : '\x7d' ∉ m

instance (m : Text) : Decidable (InlineMember m) := decidable_of_iff _ (inlineMember_iff m).symm

/-- What stands between the braces of a body on one line. -/
def innerText (members : List Text) : Text := ' ' :: (", ".toList.intercalate members ++ [' '])

theorem brace_not_mem_innerText {members : List Text} (h : ∀ m ∈ members, InlineMember m) :
    '\x7d' ∉ innerText members := by
  intro hm
  have hjoined : '\x7d' ∈ ", ".toList.intercalate members := by simpa [innerText] using hm
  rcases mem_intercalate hjoined with hsep | ⟨m, hmem, hc⟩
  · exact absurd hsep (by decide)
  · exact (h m hmem).noBrace hc

/-- One member before a comma. -/
theorem inlineMembers_cons {m : Text} (h : InlineMember m) (rest : Text) :
    inlineMembers (' ' :: (m ++ ',' :: rest)) = m :: inlineMembers rest := by
  have hcomma : ',' ∉ ' ' :: m := by simpa using h.noComma
  have htrim : trim (' ' :: m) = m := (trim_space_cons m).trans h.body.trimmed
  rw [← List.cons_append, inlineMembers, List.splitOn_append_cons_self_of_not_mem hcomma, List.map_cons,
    htrim, List.filter_cons_of_pos (by simpa using h.body.ne_nil), ← inlineMembers]

/-- The members are found again between the commas. -/
theorem inlineMembers_innerText : ∀ {members : List Text}, (∀ m ∈ members, InlineMember m) →
    inlineMembers (innerText members) = members
  | [], _ => by decide
  | [m], h => by
      have hm := h m (by simp)
      have hcomma : ',' ∉ ' ' :: (m ++ [' ']) := by simpa using hm.noComma
      have htrim : trim (' ' :: (m ++ [' '])) = m := by
        rw [trim_space_cons, trim_append_blanks (by decide), hm.body.trimmed]
      rw [innerText, List.intercalate_singleton, inlineMembers, List.splitOn_eq_singleton hcomma]
      simp [htrim, hm.body.ne_nil]
  | m :: n :: members, h => by
      have hcons : innerText (m :: n :: members) = ' ' :: (m ++ ',' :: innerText (n :: members)) := by
        simp [innerText, List.intercalate_cons_cons]
      rw [hcons, inlineMembers_cons (h m (by simp)),
        inlineMembers_innerText fun k hk => h k (List.mem_cons_of_mem m hk)]

/-! ## §2 Bodies -/

/-- A class with its members on one line. -/
def inlineBody (name : Text) (members : List Text) : Text :=
  "class ".toList ++ (name ++ (" \x7b ".toList ++ (", ".toList.intercalate members ++ " \x7d".toList)))

/-- A class with each member on a line of its own. -/
def bodyLines (name : Text) (members : List Text) : List Text :=
  ("class ".toList ++ (name ++ " \x7b".toList)) :: (members ++ ["\x7d".toList])

section Body

variable {name : Text} {members : List Text}

theorem isName_of_mem_none : ∀ s ∈ (none : Option Text), IsName s := nofun

/-- A class with nothing between its name and the tail, as the grammar
has it. -/
def plainDeclaration (hname : IsName name) (tail : WrittenTail) : WrittenDeclaration :=
  ⟨[' '], name, none, none, none, tail, rfl, List.cons_ne_nil _ _, hname, nofun, isName_of_mem_none⟩

/-- The line of a body that ends on it. -/
def inlineDeclaration (hname : IsName name) (h : ∀ m ∈ members, InlineMember m) : WrittenDeclaration :=
  plainDeclaration hname (.closed [' '] (innerText members) [] rfl (brace_not_mem_innerText h))

/-- The line of a body that does not end on it. -/
def openDeclaration (hname : IsName name) : WrittenDeclaration :=
  plainDeclaration hname (.opened [' '] [] rfl List.not_mem_nil)

theorem line_inlineDeclaration (hname : IsName name) (h : ∀ m ∈ members, InlineMember m) :
    (inlineDeclaration hname h).line = inlineBody name members := by
  show "class ".toList ++ (name ++ (" \x7b ".toList ++
    (", ".toList.intercalate members ++ [' '] ++ "\x7d".toList))) = _
  rw [List.append_assoc]
  rfl

theorem line_openDeclaration (hname : IsName name) :
    (openDeclaration hname).line = "class ".toList ++ (name ++ " \x7b".toList) := rfl

/-- Members on lines of their own fill the class as all at once do. -/
theorem foldl_fill_eq {d : Draft} (hd : name ∈ d.ids) (h : ∀ m ∈ members, InlineMember m) :
    members.foldl (fill name) d =
      d.update name fun n => { n with members := n.members ++ members } := by
  have hline : ∀ e, ∀ m ∈ members, addBodyLine name e m = e.addMember name m := by
    intro e m hm
    rw [addBodyLine, (h m hm).body.stereotype?]
  rw [← foldl_addBodyLine members hd, List.foldl_ext _ _ d hline, foldl_addMember members hd]

/-- After either body the machine is outside, and the class has the same
members more. -/
theorem run_bodyLines_eq (hname : IsName name) (h : ∀ m ∈ members, InlineMember m) (d : Draft) :
    Machine.run ⟨.top, d⟩ (bodyLines name members) =
      Machine.step ⟨.top, d⟩ (inlineBody name members) := by
  have hclosed : Machine.step ⟨.top, d⟩ (inlineBody name members) =
      ⟨.top, (d.mention name).update name fun n => { n with members := n.members ++ members }⟩ := by
    rw [← line_inlineDeclaration hname h, WrittenDeclaration.step_line, declare_eq, body_tail]
    show Machine.mk _ ((d.mention name).update name fun n =>
      { n with members := n.members ++ inlineMembers (innerText members) }) = _
    rw [inlineMembers_innerText h]
  have hopened : Machine.step ⟨.top, d⟩ ("class ".toList ++ (name ++ " \x7b".toList)) =
      ⟨.body name, d.mention name⟩ := by
    rw [← line_openDeclaration hname, WrittenDeclaration.step_line, declare_eq, body_tail]
    rfl
  rw [hclosed, bodyLines, Machine.run_cons, hopened, Machine.run_append,
    run_body_unclosed name _ members fun m hm => (h m hm).body.closesBody,
    foldl_fill_eq (d.mem_ids_mention name []) h]
  rfl

/-! ## §3 Diagrams -/

/-- All lines of a body reach the machine. -/
theorem survivors_bodyLines (hname : IsName name) (h : ∀ m ∈ members, InlineMember m)
    (before after : List Text) :
    survivors (before ++ (bodyLines name members ++ after)) =
      survivors before ++ (bodyLines name members ++ after.filter survives) := by
  have hmembers : (members ++ ["\x7d".toList]).filter survives = members ++ ["\x7d".toList] := by
    refine List.filter_eq_self.mpr fun line hline => ?_
    rcases List.mem_append.mp hline with hm | hclose
    · have hbody := (h line hm).body
      exact survives_iff.mpr ⟨hbody.ne_nil, hbody.noComment, hbody.noNote⟩
    · obtain rfl := List.mem_singleton.mp hclose
      decide
  rw [bodyLines, List.cons_append, ← line_openDeclaration hname, WrittenDeclaration.survivors_line,
    List.filter_append, hmembers, List.cons_append]

theorem readLines_bodyLines (hname : IsName name) (h : ∀ m ∈ members, InlineMember m)
    {before : List Text} (hbefore : (Machine.run {} (survivors before)).mode = .top)
    (after : List Text) :
    ClassDiagram.readLines (before ++ inlineBody name members :: after) =
      ClassDiagram.readLines (before ++ (bodyLines name members ++ after)) := by
  obtain ⟨d, houtside⟩ : ∃ d, Machine.run {} (survivors before) = ⟨.top, d⟩ :=
    ⟨_, congrArg (Machine.mk · _) hbefore⟩
  have hinline : survivors (before ++ inlineBody name members :: after) =
      survivors before ++ inlineBody name members :: after.filter survives := by
    rw [← line_inlineDeclaration hname h]
    exact WrittenDeclaration.survivors_line _ before after
  rw [readLines_eq_finish, readLines_eq_finish, hinline, survivors_bodyLines hname h,
    Machine.run_append, Machine.run_append, houtside, Machine.run_append, run_bodyLines_eq hname h]
  rfl

end Body

/-- The first line that says anything, if `line` does. -/
theorem firstStatement?_append_cons {line : Text} (h : isMeaningful line = true)
    (before after : List Text) :
    firstStatement? (before ++ line :: after) = some ((firstStatement? before).getD line) := by
  rw [firstStatement?, List.find?_append, List.find?_cons_of_pos h, firstStatement?]
  cases before.find? isMeaningful <;> rfl

/-- A text is read by the rules of class diagrams if it is one. -/
theorem read_of_dialect? {t : Text} (h : dialect? t = some .classDiagram) :
    read t = { ClassDiagram.readLines (trimmedLines t) with orientation := some classOrientation } := by
  unfold dialect? at h
  unfold read
  cases hfirst : firstStatement? (trimmedLines t) with
  | none => simp [hfirst] at h
  | some first =>
    dsimp only
    rw [hfirst]
    dsimp only
    cases hdirection : flowDirection? first with
    | none => rfl
    | some direction => simp [hfirst, hdirection] at h

/-- A body on one line and a body line by line give the same diagram,
outside of bodies and whatever stands before and after: of lines, and of
every text that is a class diagram with these lines. -/
theorem readLines_inlineBody {name : Text} (hname : IsName name) {members : List Text}
    (h : ∀ m ∈ members, InlineMember m) {before : List Text}
    (hbefore : (Machine.run {} (survivors before)).mode = .top) (after : List Text) :
    ClassDiagram.readLines (before ++ inlineBody name members :: after) =
        ClassDiagram.readLines (before ++ (bodyLines name members ++ after)) ∧
      ∀ t u, trimmedLines t = before ++ inlineBody name members :: after →
        trimmedLines u = before ++ (bodyLines name members ++ after) →
        dialect? t = some .classDiagram → read t = read u := by
  have hlines := readLines_bodyLines hname h hbefore after
  refine ⟨hlines, fun t u ht hu hdialect => ?_⟩
  have hsame : dialect? u = dialect? t := by
    rw [dialect?, dialect?, ht, hu, bodyLines, List.cons_append, firstStatement?_append_cons (by rfl),
      firstStatement?_append_cons (by rfl)]
    cases firstStatement? before with
    | none => rfl
    | some first => rfl
  rw [read_of_dialect? hdialect, read_of_dialect? (hsame.trans hdialect), ht, hu, hlines]

/-- A class that is declared again, with members that look like a
relationship, a declaration and the beginning of a stereotype. -/
theorem readLines_inlineBody_redeclared :
    let members := ["B --> C".toList, "class D \x7b".toList, "<<e".toList]
    let before := ["classDiagram".toList, "class A \x7b".toList, "x".toList, "\x7d".toList]
    let after := ["A --> D".toList, []]
    let t := "classDiagram\nclass A \x7b\n x\n\x7d\n".toList ++
      " class A \x7b B --> C, class D \x7b, <<e \x7d\nA --> D\n".toList
    let u := "classDiagram\nclass A \x7b\n x\n\x7d\n".toList ++
      "class A \x7b\n  B --> C\n  class D \x7b\n  <<e\n\x7d\nA --> D\n".toList
    (∀ m ∈ members, InlineMember m) ∧ (Machine.run {} (survivors before)).mode = .top ∧
      dialect? t = some .classDiagram ∧
      ClassDiagram.readLines (before ++ inlineBody "A".toList members :: after) =
        ClassDiagram.readLines (before ++ (bodyLines "A".toList members ++ after)) ∧
      read t = read u ∧ (read t).nodes =
        [⟨"A".toList, [], "x".toList :: members, none⟩, ⟨"D".toList, [], [], none⟩] := by
  intro members before after t u
  have hmembers : ∀ m ∈ members, InlineMember m := by decide +kernel
  have hbefore : (Machine.run {} (survivors before)).mode = .top := by decide +kernel
  have hdialect : dialect? t = some .classDiagram := by decide +kernel
  have hname : IsName "A".toList := by decide
  obtain ⟨hlines, htexts⟩ := readLines_inlineBody hname hmembers hbefore after
  refine ⟨hmembers, hbefore, hdialect, hlines, ?_, by decide +kernel⟩
  exact htexts t u (by decide +kernel) (by decide +kernel) hdialect

end DiagramGraph.Mermaid
