/-
DiagramGraph.Proofs.ArgumentTheorems — options that are given with their
values attached, `--name=value`.

Written so, a value may start with a dash or be empty, and the arguments
can stand in any order. What is taken from such arguments is what they
say (`parse_assignments`), with one exception: the divider `--` stands
for no value, wherever it is given.
-/
import DiagramGraph.Cli.Arguments
import DiagramGraph.Proofs.TextTheorems

namespace DiagramGraph.Cli

open Text

/-! ## §1 One assignment -/

/-- What a value says: the divider stands for no value. -/
def spoken (value : Text) : Option Text := if value = dividerMark then none else some value

/-- An option with a value that can be attached to its name. -/
structure Assignable (g : Grammar) (a : Flag × Text) : Prop where
  known : g.flag? a.1.key = some a.1
  dash : a.1.key.head? = some '-'
  asks : a.1.asks = .value
  choice : a.1.choices = [] ∨ a.2 ∈ a.1.choices

/-- The argument that gives an option its value. -/
def assignment (a : Flag × Text) : Text := a.1.key ++ '=' :: a.2

/-- How such an argument is sorted. -/
def Sorted.ofAssignment (a : Flag × Text) : Sorted :=
  .option a.1 (isLong (assignment a)) (some a.2)

theorem mem_assignment (a : Flag × Text) : '=' ∈ assignment a :=
  List.mem_append_right _ List.mem_cons_self

theorem assignment_ne_dividerMark (a : Flag × Text) : assignment a ≠ dividerMark := by
  intro h
  have hequals : '=' ∈ dividerMark := h ▸ mem_assignment a
  exact absurd hequals (by decide)

theorem flag?_eq_none {g : Grammar} (hnames : ∀ n ∈ g.names, '=' ∉ n.1) {t : Text}
    (ht : '=' ∈ t) : g.flag? t = none := by
  have hfind : g.names.find? (fun n => n.1 = t) = none := by
    refine List.find?_eq_none.mpr fun n hn hname => hnames n hn ?_
    rw [of_decide_eq_true hname]
    exact ht
  rw [Grammar.flag?, hfind]
  rfl

theorem sortOne_assignment {g : Grammar} (hnames : ∀ n ∈ g.names, '=' ∉ n.1) {a : Flag × Text}
    (h : Assignable g a) : sortOne g (assignment a) = .ok (.ofAssignment a) := by
  have hkey : '=' ∉ a.1.key := fun hm => by
    have hknown := h.known
    rw [flag?_eq_none hnames hm] at hknown
    cases hknown
  have hhead : (assignment a).head? = some '-' := by simp [assignment, h.dash]
  have hlength : (assignment a).length ≠ 1 := by
    have hpos : a.1.key ≠ [] := fun hnil => by simpa [hnil] using h.dash
    have := List.length_pos_iff.mpr hpos
    simp only [assignment, List.length_append, List.length_cons]
    omega
  have hsplit : splitEquals (assignment a) = (a.1.key, some a.2) := by
    rw [splitEquals, assignment, cutAt_append hkey]
  rw [sortOne, if_neg (by simp [hhead]), flag?_eq_none hnames (mem_assignment a)]
  simp only [if_neg hlength, hsplit, h.known]
  rfl

theorem set_eq {s : Taken} {f : Flag} {value : Text} (h : f.choices = [] ∨ value ∈ f.choices) :
    s.set f value = .ok { s with values := (f.key, spoken value) :: s.values } := by
  unfold Taken.set spoken
  split
  · rfl
  · have hchoice : (f.choices.isEmpty || f.choices.contains value) = true := by
      simpa [List.isEmpty_iff] using h
    rw [if_pos hchoice]

theorem takeOne_assignment {g : Grammar} {a : Flag × Text} (h : Assignable g a) (s : Taken)
    (last : Bool) :
    takeOne g { taken := s } last (.ofAssignment a) =
      .ok { taken := { s with values := (a.1.key, spoken a.2) :: s.values } } := by
  simp only [takeOne, Sorted.ofAssignment, takeFree, resolve, h.asks, if_true, Taken.apply,
    List.foldlM_nil, pure, Except.pure, set_eq h.choice, Except.map]

/-! ## §2 Lists of assignments -/

theorem sort_assignments {g : Grammar} (hnames : ∀ n ∈ g.names, '=' ∉ n.1) :
    ∀ {as : List (Flag × Text)}, (∀ a ∈ as, Assignable g a) →
      sort g (as.map assignment) = .ok (as.map .ofAssignment)
  | [], _ => rfl
  | a :: as, h => by
      rw [List.map_cons, sort, if_neg (assignment_ne_dividerMark a),
        sortOne_assignment hnames (h a List.mem_cons_self)]
      simp only [sort_assignments hnames fun b hb => h b (List.mem_cons_of_mem a hb)]
      rfl

theorem take_assignments {g : Grammar} : ∀ {as : List (Flag × Text)} (s : Taken),
    (∀ a ∈ as, Assignable g a) →
      take g { taken := s } (as.map .ofAssignment) =
        .ok { s with values := (as.map fun a => (a.1.key, spoken a.2)).reverse ++ s.values }
  | [], _, _ => rfl
  | a :: as, s, h => by
      rw [List.map_cons, take, takeOne_assignment (h a List.mem_cons_self)]
      simp only [take_assignments _ fun b hb => h b (List.mem_cons_of_mem a hb)]
      simp

/-- What is taken from assignments is what they say, the last one first. -/
theorem parse_assignments {g : Grammar} (hnames : ∀ n ∈ g.names, '=' ∉ n.1)
    {as : List (Flag × Text)} (h : ∀ a ∈ as, Assignable g a) {values : List (Text × Option Text)}
    (hvalues : (as.map fun a => (a.1.key, spoken a.2)).reverse = values)
    (hmissing : missing g { values } = []) :
    parse g (as.map assignment) = .ok { values } := by
  have htake := take_assignments {} h
  rw [List.append_nil, hvalues] at htake
  rw [parse, sort_assignments hnames h]
  simp only [htake, hmissing, List.isEmpty_nil, Bool.not_true, Bool.false_eq_true, if_false]

/-! ## §3 What was given -/

/-- What is given by a value. -/
def Given.ofValue (value : Text) : Given := if value = dividerMark then .blank else .value value

theorem given_eq {s : Taken} {later earlier : List (Text × Option Text)} {key value : Text}
    (h : s.values = later ++ (key, spoken value) :: earlier) (hlater : ∀ v ∈ later, v.1 ≠ key) :
    s.given key = .ofValue value := by
  have hfind : s.values.find? (fun v => v.1 = key) = some (key, spoken value) := by
    have hnone : later.find? (fun v => v.1 = key) = none :=
      List.find?_eq_none.mpr fun v hv hkey => hlater v hv (of_decide_eq_true hkey)
    rw [h, List.find?_append, hnone, Option.none_or, List.find?_cons_of_pos (by simp)]
  unfold Taken.given Given.ofValue
  rw [hfind, spoken]
  split_ifs <;> rfl

end DiagramGraph.Cli
