/-
DiagramGraph.Proofs.ClassMachine — a class diagram read one statement at
a time.

The reader jumps over the lines of a body it has already taken. The
machine here never looks ahead: it is in one of two modes, outside of
bodies (`Mode.top`) or in the body of a class (`Mode.body`), and each
statement takes it from one state to the next. In a body it changes the
node of that class and nothing else.

`readStatements_eq_run` says that both read the same, so that the reader
can be followed along any list of statements by a left fold; the round
trip of class diagrams and the invariants of the reader are proved that
way.
-/
import DiagramGraph.Mermaid.ClassDiagram
import DiagramGraph.Proofs.DraftTheorems

namespace DiagramGraph.Mermaid.ClassDiagram

open Text

/-! ## §1 The machine -/

/-- Where the next statement stands: outside of bodies, or in the body of a class. -/
inductive Mode
  | top
  | body (name : Text)
  deriving DecidableEq, Repr

/-- The mode and the graph so far. -/
structure Machine where
  mode : Mode := .top
  draft : Draft := {}
  deriving DecidableEq, Repr

/-- A body line fills the node of its class: `<<name>>` sets the
stereotype, any other line is one more member. -/
def fill (name : Text) (d : Draft) (line : Text) : Draft :=
  match stereotype? line with
  | some s => d.update name fun n => { n with stereotype := some s }
  | none => d.update name fun n => { n with members := n.members ++ [line] }

/-- A declaration makes sure of its node. Without a brace, or with a body
that ends on its line, it leaves the machine outside; the members of that
body stand between commas, and those without text are dropped. -/
def declare (d : Draft) (decl : Declaration) : Machine :=
  let e := d.mention decl.name (Label.clean decl.label)
  match cutAt '\x7b' decl.rest with
  | none => ⟨.top, e⟩
  | some (_, inner) =>
    match cutAt '\x7d' inner with
    | none => ⟨.body decl.name, e⟩
    | some (text, _) => ⟨.top, e.update decl.name fun n => { n with
        members := n.members ++ ((text.splitOn ',').map trim).filter (fun m => !m.isEmpty) }⟩

/-- One statement. -/
def Machine.step (m : Machine) (line : Text) : Machine :=
  match m.mode with
  | .body name =>
    if "\x7d".toList.isPrefixOf line then ⟨.top, m.draft⟩ else ⟨.body name, fill name m.draft line⟩
  | .top =>
    if "namespace".toList.isPrefixOf line || line = "\x7b".toList || line = "\x7d".toList then m
    else
      match declaration? line, relationship? line with
      | some decl, _ => declare m.draft decl
      | none, some l => ⟨.top, m.draft.connect l false⟩
      | none, none => ⟨.top, m.draft.setAside line⟩

/-- The statements one after another. -/
def Machine.run (m : Machine) (lines : List Text) : Machine := lines.foldl Machine.step m

/-- Does the line reach the machine: is it neither blank nor a comment nor a note? -/
def survives (line : Text) : Bool :=
  !line.isEmpty && !"%%".toList.isPrefixOf line && !"note".toList.isPrefixOf line

/-- The lines that reach the machine, without a header at their start. -/
def survivors (lines : List Text) : List Text := skipHeader (lines.filter survives)

@[simp] theorem Machine.run_nil (m : Machine) : m.run [] = m := rfl

@[simp] theorem Machine.run_cons (m : Machine) (line : Text) (rest : List Text) :
    m.run (line :: rest) = (m.step line).run rest := rfl

theorem Machine.run_append (m : Machine) (a b : List Text) : m.run (a ++ b) = (m.run a).run b :=
  List.foldl_append

/-- Statements that each act on the graph and open no body act on it in turn. -/
theorem Machine.run_map {α : Type} {line : α → Text} {act : Draft → α → Draft} :
    ∀ {xs : List α} {d : Draft},
    (∀ x ∈ xs, ∀ e, Machine.step ⟨.top, e⟩ (line x) = ⟨.top, act e x⟩) →
    Machine.run ⟨.top, d⟩ (xs.map line) = ⟨.top, xs.foldl act d⟩
  | [], _, _ => rfl
  | x :: xs, d, h => by
      rw [List.map_cons, Machine.run_cons, h x (by simp),
        Machine.run_map fun y hy => h y (List.mem_cons_of_mem x hy)]
      rfl

/-! ## §2 Filling a node -/

theorem ids_fill (name : Text) (d : Draft) (line : Text) : (fill name d line).ids = d.ids := by
  unfold fill
  split <;> exact Draft.ids_update d name fun _ => rfl

/-- For a class that is known, the reader's body line and the machine's
do the same. -/
theorem addBodyLine_eq_fill {name : Text} {d : Draft} (h : name ∈ d.ids) (line : Text) :
    addBodyLine name d line = fill name d line := by
  unfold addBodyLine fill
  cases stereotype? line with
  | some s => exact congrArg (Draft.update · name _) (Draft.mention_of_mem h)
  | none => exact congrArg (Draft.update · name _) (Draft.mention_of_mem h)

theorem foldl_addBodyLine {name : Text} : ∀ {d : Draft} (lines : List Text), name ∈ d.ids →
    lines.foldl (addBodyLine name) d = lines.foldl (fill name) d
  | _, [], _ => rfl
  | d, line :: rest, h => by
      rw [List.foldl_cons, List.foldl_cons, addBodyLine_eq_fill h]
      exact foldl_addBodyLine rest (ids_fill name d line ▸ h)

/-- Members added one by one or all at once. -/
theorem foldl_addMember {name : Text} : ∀ {d : Draft} (members : List Text), name ∈ d.ids →
    members.foldl (fun f m => f.addMember name m) d =
      d.update name fun n => { n with members := n.members ++ members }
  | d, [], _ => by
      simp [Draft.update]
  | d, m :: rest, h => by
      have hids : (d.update name fun n => { n with members := n.members ++ [m] }).ids = d.ids :=
        Draft.ids_update d name fun _ => rfl
      rw [List.foldl_cons, Draft.addMember, Draft.mention_of_mem h, foldl_addMember rest (hids ▸ h)]
      simp only [Draft.update, List.map_map, Draft.mk.injEq, and_self, and_true]
      refine List.map_congr_left fun n _ => ?_
      by_cases hn : n.id = name <;> simp [hn]

/-! ## §3 Bodies -/

/-- In a body, the machine fills the node up to the line that closes the
body, and goes on outside after it. -/
theorem run_body (name : Text) : ∀ (d : Draft) (lines : List Text),
    (Machine.run ⟨.body name, d⟩ lines).draft =
      (Machine.run ⟨.top, (bodyOf lines).foldl (fill name) d⟩
        (lines.drop ((bodyOf lines).length + 1))).draft
  | d, [] => rfl
  | d, line :: rest => by
      by_cases hc : closesBody line = true
      · have hstep : Machine.step ⟨.body name, d⟩ line = ⟨.top, d⟩ := if_pos hc
        simp [hstep, bodyOf, hc]
      · have hstep : Machine.step ⟨.body name, d⟩ line = ⟨.body name, fill name d line⟩ := if_neg hc
        rw [Machine.run_cons, hstep, run_body name _ rest]
        simp [bodyOf, hc]

/-- A body that no line closes takes all the rest. -/
theorem run_body_unclosed (name : Text) : ∀ (d : Draft) (lines : List Text),
    (∀ line ∈ lines, closesBody line = false) →
    Machine.run ⟨.body name, d⟩ lines = ⟨.body name, lines.foldl (fill name) d⟩
  | _, [], _ => rfl
  | d, line :: rest, h => by
      have hc : ¬ closesBody line = true := by simp [h line]
      have hstep : Machine.step ⟨.body name, d⟩ line = ⟨.body name, fill name d line⟩ := if_neg hc
      rw [Machine.run_cons, hstep,
        run_body_unclosed name _ rest fun l hl => h l (List.mem_cons_of_mem line hl)]
      rfl

/-! ## §4 The reader and the machine -/

/-- Lines to be skipped are dropped. -/
theorem readFrom_skip (d : Draft) : ∀ (skip : Nat) (lines : List Text),
    readFrom skip d lines = readFrom 0 d (lines.drop skip)
  | 0, lines => rfl
  | skip + 1, [] => by simp [readFrom]
  | skip + 1, line :: rest => by
      rw [readFrom, readFrom_skip d skip rest, List.drop_succ_cons]

/-- The machine sees the body of a declaration as the reader does. -/
theorem declare_eq (d : Draft) (decl : Declaration) :
    declare d decl =
      match decl.body with
      | .absent => ⟨.top, d.mention decl.name (Label.clean decl.label)⟩
      | .closed members =>
        ⟨.top, (d.mention decl.name (Label.clean decl.label)).update decl.name fun n =>
          { n with members := n.members ++ members }⟩
      | .opened => ⟨.body decl.name, d.mention decl.name (Label.clean decl.label)⟩ := by
  unfold declare Declaration.body
  cases cutAt '\x7b' decl.rest with
  | none => rfl
  | some found =>
    dsimp only
    cases cutAt '\x7d' found.2 with
    | none => rfl
    | some closed => rfl

theorem run_top_of_isGrouping {line : Text} (h : isGrouping line = true) (d : Draft) :
    Machine.step ⟨.top, d⟩ line = ⟨.top, d⟩ := if_pos h

theorem run_top_of_declaration? {line : Text} {decl : Declaration} (hg : ¬ isGrouping line = true)
    (h : declaration? line = some decl) (d : Draft) :
    Machine.step ⟨.top, d⟩ line = declare d decl := by
  have hstep : Machine.step ⟨.top, d⟩ line = _ := if_neg hg
  rw [hstep, h]

theorem run_top_of_declaration?_eq_none {line : Text} (hg : ¬ isGrouping line = true)
    (h : declaration? line = none) (d : Draft) :
    Machine.step ⟨.top, d⟩ line = ⟨.top, relate d line⟩ := by
  have hstep : Machine.step ⟨.top, d⟩ line = _ := if_neg hg
  rw [hstep, h, relate]
  cases relationship? line <;> rfl

/-- The reader and the machine agree on every list of statements. -/
theorem readStatements_eq_run (d : Draft) (lines : List Text) :
    readStatements d lines = (Machine.run ⟨.top, d⟩ lines).draft := by
  rw [readStatements]
  match lines with
  | [] => rfl
  | line :: rest =>
    rw [Machine.run_cons, readFrom]
    by_cases hg : isGrouping line = true
    · rw [if_pos hg, run_top_of_isGrouping hg]
      exact readStatements_eq_run d rest
    · rw [if_neg hg]
      cases hd : declaration? line with
      | none =>
        rw [run_top_of_declaration?_eq_none hg hd]
        exact readStatements_eq_run _ rest
      | some decl =>
        have hname := Draft.mem_ids_mention d decl.name (Label.clean decl.label)
        rw [run_top_of_declaration? hg hd, declare_eq]
        dsimp only
        cases decl.body with
        | absent => exact readStatements_eq_run _ rest
        | closed members =>
          dsimp only
          rw [foldl_addMember members hname]
          exact readStatements_eq_run _ rest
        | opened =>
          dsimp only
          rw [readFrom_skip, foldl_addBodyLine _ hname, run_body]
          exact readStatements_eq_run _ (rest.drop ((bodyOf rest).length + 1))
termination_by lines.length

theorem statements_note (lines : List Text) :
    statements ["note".toList] lines = lines.filter survives := by
  unfold statements
  congr 1
  funext line
  simp [isMeaningful, isComment, startsWithAny, survives]

/-- A line that reaches the machine and is no header stands after the
survivors of the lines before it. -/
theorem survivors_append_cons {line : Text} (hline : survives line = true)
    (hheader : ¬ "classDiagram".toList <+: line) (before after : List Text) :
    survivors (before ++ line :: after) = survivors before ++ line :: after.filter survives := by
  unfold survivors
  rw [List.filter_append, List.filter_cons_of_pos hline]
  cases before.filter survives with
  | nil => exact if_neg fun h => hheader (List.isPrefixOf_iff_prefix.mp h)
  | cons first others =>
    rw [List.cons_append, skipHeader, skipHeader]
    split <;> rfl

theorem readLines_eq_finish (lines : List Text) :
    readLines lines =
      (Machine.run {} (survivors lines)).draft.finish (some .classDiagram) none := by
  rw [readLines, readStatements_eq_run, statements_note, survivors]

/-- A class diagram is read by one pass of the machine over the lines
that survive: each of them is one step. A body that no later line closes
takes all the rest. -/
theorem readLines_eq_run (lines : List Text) :
    readLines lines =
        ((survivors lines).foldl Machine.step {}).draft.finish (some .classDiagram) none ∧
      ∀ before rest name, survivors lines = before ++ rest →
        (before.foldl Machine.step {}).mode = .body name →
        (∀ line ∈ rest, closesBody line = false) →
        readLines lines =
          (rest.foldl (fill name) (before.foldl Machine.step {}).draft).finish
            (some .classDiagram) none := by
  refine ⟨readLines_eq_finish lines, fun before rest name hsplit hmode hopen => ?_⟩
  have hbody : Machine.run {} before = ⟨.body name, (Machine.run {} before).draft⟩ := by
    rw [← hmode]
    rfl
  rw [readLines_eq_finish, hsplit, Machine.run_append, hbody, run_body_unclosed name _ rest hopen]
  rfl

/-- A body that ends on its line, and then a relationship inside one that
nothing closes: it is a member. -/
theorem readLines_unclosed :
    readLines ["classDiagram".toList, "class B \x7b +x, , y \x7d".toList, "class A \x7b".toList,
        "%% x".toList, "A --> B".toList] =
      ⟨[⟨"B".toList, [], ["+x".toList, "y".toList], none⟩,
        ⟨"A".toList, [], ["A --> B".toList], none⟩], [], some .classDiagram, none, []⟩ := by
  rw [(readLines_eq_run _).2 ["class B \x7b +x, , y \x7d".toList, "class A \x7b".toList]
    ["A --> B".toList] "A".toList (by decide) (by decide) (by decide)]
  decide

end DiagramGraph.Mermaid.ClassDiagram
