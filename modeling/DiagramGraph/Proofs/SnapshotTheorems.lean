/-
DiagramGraph.Proofs.SnapshotTheorems — what becomes of a diagram while the
session that built it goes on.

  §1 Growth    — `Draft.Grown`: nodes keep their places, their labels and
                 the members they had; links and statements are only
                 added. All that a step does to a draft makes it grow
                 (`Draft.Changes.grown`), and so does a run.
  §2 Building  — a run can be cut at any of its steps (`run_append`), and
                 it keeps one snapshot for each step that builds
                 (`exists_snapshots_run`). Building leaves the draft alone
                 (`draft_run_filter`).
  §3 Aging     — `diagrams_run_aged`: a diagram seen at the end of a run
                 has the links and statements of the draft that it was
                 built from, and the nodes of that draft as they are then.

A diagram shares its nodes with the draft: what is told of a node after
the build shows in the diagram, but no node that comes later does. Nodes
stand in the order of first mention, and so those of the diagram are the
first ones of the last draft (`filterMap_find?_ids`).
-/
import DiagramGraph.Proofs.SessionTheorems
import Mathlib.Data.List.Forall2
import Mathlib.Data.List.Nodup

namespace DiagramGraph

/-! ## §1 Growth -/

/-- The node was filled further: it keeps a label that it had, and
members are added after those that it had. -/
structure Node.Grown (n m : Node) : Prop where
  id : m.id = n.id
  label : n.label ≠ [] → m.label = n.label
  members : n.members <+: m.members

namespace Node.Grown

variable {n m k : Node}

theorem refl (n : Node) : n.Grown n := ⟨rfl, fun _ => rfl, List.prefix_rfl⟩

theorem trans (h : n.Grown m) (h' : m.Grown k) : n.Grown k where
  id := h'.id.trans h.id
  label hn := by
    have hm := h.label hn
    exact (h'.label (hm ▸ hn)).trans hm
  members := h.members.trans h'.members

theorem offer (n : Node) (label : Text) : n.Grown (n.offer label) := by
  unfold Node.offer
  split
  · next h => exact ⟨rfl, fun hne => absurd (List.isEmpty_iff.mp h) hne, List.prefix_rfl⟩
  · exact refl n

end Node.Grown

/-- Growth node by node is passed on. -/
theorem forall₂_grown_trans : ∀ {a b c : List Node}, List.Forall₂ Node.Grown a b →
    List.Forall₂ Node.Grown b c → List.Forall₂ Node.Grown a c
  | _, _, _, .nil, .nil => .nil
  | _, _, _, .cons h hs, .cons h' hs' => .cons (h.trans h') (forall₂_grown_trans hs hs')

namespace Draft

/-- The draft went on: its nodes are the first nodes of the later one,
filled further, and links and statements were added. -/
structure Grown (d e : Draft) : Prop where
  nodes : List.Forall₂ Node.Grown d.nodes (e.nodes.take d.nodes.length)
  links : d.links <+: e.links
  unread : d.unread <+: e.unread

namespace Grown

variable {d e f : Draft}

theorem refl (d : Draft) : d.Grown d where
  nodes := by
    rw [List.take_length]
    exact List.forall₂_same.mpr fun n _ => .refl n
  links := List.prefix_rfl
  unread := List.prefix_rfl

theorem trans (h : d.Grown e) (h' : e.Grown f) : d.Grown f where
  nodes := by
    have hlength : d.nodes.length ≤ e.nodes.length := by
      have hsame := h.nodes.length_eq
      rw [List.length_take] at hsame
      omega
    have hrest := List.forall₂_take d.nodes.length h'.nodes
    rw [List.take_take, Nat.min_eq_left hlength] at hrest
    exact forall₂_grown_trans h.nodes hrest
  links := h.links.trans h'.links
  unread := h.unread.trans h'.unread

theorem update (d : Draft) (id : Text) {change : Node → Node} (h : ∀ n : Node, n.Grown (change n)) :
    d.Grown (d.update id change) where
  nodes := by
    rw [Draft.update, List.take_of_length_le (by simp), List.forall₂_map_right_iff, List.forall₂_same]
    intro n _
    split
    · exact h n
    · exact .refl n
  links := List.prefix_rfl
  unread := List.prefix_rfl

theorem mention (d : Draft) (id label : Text) : d.Grown (d.mention id label) := by
  unfold Draft.mention
  split
  · exact update d id fun n => .offer n label
  · refine ⟨?_, List.prefix_rfl, List.prefix_rfl⟩
    rw [List.take_left]
    exact List.forall₂_same.mpr fun n _ => .refl n

theorem addMember (d : Draft) (id member : Text) : d.Grown (d.addMember id member) :=
  (mention d id []).trans (update _ id fun _ => ⟨rfl, fun _ => rfl, List.prefix_append _ _⟩)

theorem setStereotype (d : Draft) (id : Text) (stereotype : Option Text) :
    d.Grown (d.setStereotype id stereotype) :=
  (mention d id []).trans (update _ id fun _ => ⟨rfl, fun _ => rfl, List.prefix_rfl⟩)

theorem connect (d : Draft) (l : Link) (loops : Bool) : d.Grown (d.connect l loops) := by
  have hends := (mention d l.source []).trans (mention _ l.target [])
  unfold Draft.connect
  dsimp only
  split
  · exact hends
  · exact ⟨hends.nodes, hends.links.trans (List.prefix_append _ _), hends.unread⟩

theorem setAside (d : Draft) (line : Text) : d.Grown (d.setAside line) :=
  ⟨(refl d).nodes, List.prefix_rfl, List.prefix_append _ _⟩

end Grown

/-- All that one step can do to a draft. -/
inductive Changes (d : Draft) : Draft → Prop
  | none : Changes d d
  | mention (id label : Text) : Changes d (d.mention id label)
  | addMember (id member : Text) : Changes d (d.addMember id member)
  | setStereotype (id : Text) (stereotype : Option Text) : Changes d (d.setStereotype id stereotype)
  | connect (l : Link) (loops : Bool) : Changes d (d.connect l loops)
  | setAside (line : Text) : Changes d (d.setAside line)

theorem Changes.grown {d e : Draft} (h : d.Changes e) : d.Grown e := by
  cases h with
  | none => exact .refl d
  | mention id label => exact .mention d id label
  | addMember id member => exact .addMember d id member
  | setStereotype id stereotype => exact .setStereotype d id stereotype
  | connect l loops => exact .connect d l loops
  | setAside line => exact .setAside d line

/-- No identifier comes to stand twice. -/
theorem Changes.nodup_ids {d e : Draft} (h : d.Changes e) (hd : d.ids.Nodup) : e.ids.Nodup := by
  cases h with
  | none => exact hd
  | mention id label => exact nodup_ids_mention hd id label
  | addMember id member =>
    have hids : (d.addMember id member).ids = (d.mention id).ids := ids_update _ id fun _ => rfl
    rw [hids]
    exact nodup_ids_mention hd id []
  | setStereotype id stereotype =>
    have hids : (d.setStereotype id stereotype).ids = (d.mention id).ids := ids_update _ id fun _ => rfl
    rw [hids]
    exact nodup_ids_mention hd id []
  | connect l loops =>
    have hends := nodup_ids_mention (nodup_ids_mention hd l.source []) l.target []
    unfold Draft.connect
    dsimp only
    split
    · exact hends
    · exact hends
  | setAside line => exact hd

theorem find?_of_mem {d : Draft} (hd : d.ids.Nodup) {n : Node} (hn : n ∈ d.nodes) :
    d.find? n.id = some n := by
  cases hfind : d.find? n.id with
  | none => exact absurd (List.find?_eq_none.mp hfind n hn) (by simp)
  | some m =>
    have hid : m.id = n.id := by simpa using List.find?_some hfind
    rw [List.inj_on_of_nodup_map hd (List.mem_of_find?_eq_some hfind) hn hid]

end Draft

namespace Session

/-- Building leaves the draft alone. -/
theorem draft_next_build (s : Session) (dialect : Option Text) (orientation : Option Text) :
    (s.next (.build dialect orientation)).draft = s.draft := by
  cases dialect with
  | none => rfl
  | some name => cases hd : Dialect.ofName? name <;> simp only [next, step, hd, build]

/-- A step makes one of the changes, or none if it is refused or builds. -/
theorem changes_next (s : Session) (x : Step) : s.draft.Changes (s.next x).draft := by
  cases x with
  | mention id label => exact .mention id label
  | addMember id member => exact .addMember id member
  | setStereotype id stereotype => exact .setStereotype id stereotype
  | connect source target relation label loops =>
    cases hr : Relation.ofName? relation with
    | none =>
      simp only [next, step, hr]
      exact .none
    | some r =>
      simp only [next, step, hr]
      exact .connect _ loops
  | setAside line => exact .setAside line
  | build dialect orientation =>
    rw [draft_next_build]
    exact .none
  | unknown => exact .none

theorem run_cons (s : Session) (x : Step) (rest : List Step) :
    run s (x :: rest) = (s.step x :: (run (s.next x) rest).1, (run (s.next x) rest).2) := rfl

theorem grown_run (s : Session) (steps : List Step) : s.draft.Grown (run s steps).2.draft := by
  induction steps generalizing s with
  | nil => exact .refl s.draft
  | cons x rest ih => exact (s.changes_next x).grown.trans (ih (s.next x))

theorem nodup_ids_run {s : Session} (h : s.draft.ids.Nodup) (steps : List Step) :
    (run s steps).2.draft.ids.Nodup := by
  induction steps generalizing s with
  | nil => exact h
  | cons x rest ih => exact ih ((s.changes_next x).nodup_ids h)

/-! ## §2 Building -/

theorem run_append (s : Session) (a b : List Step) :
    run s (a ++ b) = ((run s a).1 ++ (run (run s a).2 b).1, (run (run s a).2 b).2) := by
  induction a generalizing s with
  | nil => rfl
  | cons x rest ih => rw [List.cons_append, run_cons, run_cons, ih (s.next x), List.cons_append]

theorem length_run (s : Session) (steps : List Step) : (run s steps).1.length = steps.length := by
  induction steps generalizing s with
  | nil => rfl
  | cons x rest ih => rw [run_cons, List.length_cons, List.length_cons, ih (s.next x)]

end Session

/-- Does the step ask for a diagram? -/
def Step.isBuild : Step → Bool
  | .build _ _ => true
  | _ => false

/-- Does the step build one? It does unless the dialect is unknown. -/
def Step.builds : Step → Bool
  | .build none _ => true
  | .build (some name) _ => (Dialect.ofName? name).isSome
  | _ => false

namespace Session

/-- The step of a known dialect, or of none, answers with the draft as it is. -/
theorem step_build (s : Session) (kind : Option Dialect) (orientation : Option Text) :
    s.step (.build (kind.map Dialect.name) orientation) =
      .ok (.diagram ⟨s.draft.nodes, s.draft.links, kind, orientation, s.draft.unread⟩,
        { s with snapshots := s.snapshots ++ [s.draft.snapshot kind orientation] }) := by
  cases kind with
  | none => rfl
  | some dialect =>
    simp only [Option.map_some, step, Dialect.ofName?_name]
    rfl

/-- A step keeps the snapshots and adds one if it builds. -/
theorem exists_snapshots_next (s : Session) (x : Step) :
    ∃ new, (s.next x).snapshots = s.snapshots ++ new ∧ new.length = [x].countP Step.builds := by
  have hnone {t : Session} (ht : t.snapshots = s.snapshots) (hx : x.builds = false) :
      ∃ new, t.snapshots = s.snapshots ++ new ∧ new.length = [x].countP Step.builds :=
    ⟨[], by simp [ht], by simp [hx]⟩
  cases x with
  | mention id label => exact hnone rfl rfl
  | addMember id member => exact hnone rfl rfl
  | setStereotype id stereotype => exact hnone rfl rfl
  | connect source target relation label loops =>
    refine hnone ?_ rfl
    cases hr : Relation.ofName? relation <;> simp only [next, step, hr]
  | setAside line => exact hnone rfl rfl
  | build dialect orientation =>
    cases dialect with
    | none => exact ⟨_, rfl, rfl⟩
    | some name =>
      cases hd : Dialect.ofName? name with
      | none => exact hnone (by simp only [next, step, hd]) (by simp [Step.builds, hd])
      | some dialect =>
        refine ⟨[s.draft.snapshot dialect orientation], ?_, by simp [Step.builds, hd]⟩
        simp only [next, step, hd, build]
  | unknown => exact hnone rfl rfl

/-- A run keeps the snapshots and adds one for each step that builds. -/
theorem exists_snapshots_run (s : Session) (steps : List Step) :
    ∃ new, (run s steps).2.snapshots = s.snapshots ++ new ∧
      new.length = steps.countP Step.builds := by
  induction steps generalizing s with
  | nil => exact ⟨[], (List.append_nil _).symm, rfl⟩
  | cons x rest ih =>
    obtain ⟨first, hfirst, hone⟩ := exists_snapshots_next s x
    obtain ⟨more, hmore, hcount⟩ := ih (s.next x)
    refine ⟨first ++ more, by rw [run_cons, hmore, hfirst, List.append_assoc], ?_⟩
    rw [List.length_append, hone, hcount, ← List.countP_append]
    rfl

/-- What a step does to the draft depends on the draft only. -/
theorem draft_next_congr {s s' : Session} (h : s.draft = s'.draft) (x : Step) :
    (s.next x).draft = (s'.next x).draft := by
  obtain ⟨d, earlier⟩ := s
  obtain ⟨d', earlier'⟩ := s'
  obtain rfl : d = d' := h
  cases x with
  | connect source target relation label loops =>
    cases hr : Relation.ofName? relation <;> simp only [next, step, hr]
  | build dialect orientation => rw [draft_next_build, draft_next_build]
  | _ => rfl

/-- Without its builds, a run leaves the same draft behind. -/
theorem draft_run_filter {s s' : Session} (h : s.draft = s'.draft) (steps : List Step) :
    (run s (steps.filter (!·.isBuild))).2.draft = (run s' steps).2.draft := by
  induction steps generalizing s s' with
  | nil => exact h
  | cons x rest ih =>
    rw [List.filter_cons, run_cons]
    split
    · rw [run_cons]
      exact ih (draft_next_congr h x)
    · next hbuild =>
      cases x with
      | build dialect orientation => exact ih (h.trans (draft_next_build s' dialect orientation).symm)
      | _ => exact absurd rfl hbuild

end Session

/-! ## §3 Aging -/

/-- How a diagram looks that was built from the draft `start`, once the
draft has become `last`: its nodes are those that `start` had, as they are
in `last`, and its links and statements are those of `start`. -/
structure Diagram.Aged (start last : Draft) (kind : Option Dialect) (orientation : Option Text)
    (d : Diagram) : Prop where
  ids : d.nodes.map Node.id = last.ids.take start.nodes.length
  shared : d.nodes.map some = start.nodes.map fun n => last.find? n.id
  grown : List.Forall₂ Node.Grown start.nodes d.nodes
  links : d.links = start.links
  links_prefix : start.links <+: last.links
  unread : d.unread = start.unread
  unread_prefix : start.unread <+: last.unread
  dialect : d.dialect = kind
  orientation : d.orientation = orientation

namespace Draft.Grown

variable {start last : Draft} (h : start.Grown last)

include h

/-- The nodes keep their places. -/
theorem ids_eq : start.ids = last.ids.take start.nodes.length := by
  have hids : start.nodes.map Node.id = (last.nodes.take start.nodes.length).map Node.id := by
    refine List.forall₂_eq_eq_eq ▸ ?_
    rw [List.forall₂_map_left_iff, List.forall₂_map_right_iff]
    exact h.nodes.imp fun _ _ hgrown => hgrown.id.symm
  rw [ids, hids, List.map_take]
  rfl

/-- The nodes that a draft had are found later: they are the first ones. -/
theorem filterMap_find?_ids (hlast : last.ids.Nodup) :
    start.ids.filterMap last.find? = last.nodes.take start.nodes.length := by
  have hfind : ∀ n ∈ last.nodes.take start.nodes.length, last.find? n.id = some n :=
    fun n hn => find?_of_mem hlast (List.mem_of_mem_take hn)
  rw [h.ids_eq, ids, ← List.map_take, List.filterMap_map]
  refine (List.filterMap_congr hfind).trans ?_
  rw [List.filterMap_some]

/-- What a snapshot shows once the draft has grown. -/
theorem aged (hlast : last.ids.Nodup) (kind : Option Dialect) (orientation : Option Text) :
    Diagram.Aged start last kind orientation ((start.snapshot kind orientation).view last) := by
  have hnodes : ((start.snapshot kind orientation).view last).nodes =
      last.nodes.take start.nodes.length := h.filterMap_find?_ids hlast
  refine ⟨?_, ?_, ?_, rfl, h.links, rfl, h.unread, rfl, rfl⟩
  · rw [hnodes]
    exact List.map_take
  · have hlookup : start.nodes.map (fun n => last.find? n.id) =
        (last.nodes.take start.nodes.length).map fun n => last.find? n.id := by
      have hids : start.nodes.map Node.id = (last.nodes.take start.nodes.length).map Node.id :=
        h.ids_eq.trans List.map_take.symm
      have hboth := congrArg (List.map last.find?) hids
      rwa [List.map_map, List.map_map] at hboth
    rw [hnodes, hlookup]
    refine List.map_congr_left fun n hn => ?_
    rw [find?_of_mem hlast (List.mem_of_mem_take hn)]
  · rw [hnodes]
    exact h.nodes

end Draft.Grown

namespace Session

/-- Wherever a run builds, it answers with the draft of that moment, which
the build leaves as it is; and the diagram is there at the end of the run,
in its place, aged: with the nodes that it was built with as they are
then, and its own links and statements. There are no other diagrams. And
a run from any session comes to the same draft without its builds. -/
theorem diagrams_run_aged :
    (∀ (before after : List Step) (kind : Option Dialect) (orientation : Option Text),
      let steps := before ++ .build (kind.map Dialect.name) orientation :: after
      let start := (run {} before).2.draft
      (∃ s : Session, s.draft = start ∧ (run {} steps).1[before.length]? =
        some (.ok (.diagram ⟨start.nodes, start.links, kind, orientation, start.unread⟩, s))) ∧
      ∃ d, (run {} steps).2.diagrams[before.countP Step.builds]? = some d ∧
        d.Aged start (run {} steps).2.draft kind orientation) ∧
    (∀ steps : List Step, (run {} steps).2.diagrams.length = steps.countP Step.builds) ∧
    ∀ (s : Session) (steps : List Step),
      (run s (steps.filter (!·.isBuild))).2.draft = (run s steps).2.draft := by
  refine ⟨fun before after kind orientation => ?_, fun steps => ?_, fun s => draft_run_filter rfl⟩
  · intro steps start
    let x : Step := .build (kind.map Dialect.name) orientation
    have hstep := step_build (run {} before).2 kind orientation
    have hrun : run {} steps = _ := run_append {} before (x :: after)
    obtain ⟨earlier, hearlier, hplace⟩ := exists_snapshots_run {} before
    let built : Session := { (run {} before).2 with
      snapshots := (run {} before).2.snapshots ++ [start.snapshot kind orientation] }
    refine ⟨⟨built, rfl, ?_⟩, (start.snapshot kind orientation).view (run {} steps).2.draft, ?_, ?_⟩
    · rw [hrun, List.getElem?_append_right (Nat.le_of_eq (length_run {} before)), length_run, Nat.sub_self,
        run_cons, List.getElem?_cons_zero, hstep]
    · obtain ⟨later, hlater, -⟩ := exists_snapshots_run ((run {} before).2.next x) after
      have hkept : (run {} steps).2.snapshots =
          earlier ++ start.snapshot kind orientation :: later := by
        rw [hrun, run_cons, hlater, next, hstep]
        dsimp only
        rw [hearlier, List.append_assoc]
        rfl
      rw [diagrams, hkept, List.getElem?_map, ← hplace, List.getElem?_append_right Nat.le.refl,
        Nat.sub_self]
      rfl
    · have hgrown : start.Grown (run {} steps).2.draft := by
        rw [hrun]
        exact grown_run _ (x :: after)
      have hnodup : ({} : Session).draft.ids.Nodup := List.nodup_nil
      exact hgrown.aged (nodup_ids_run hnodup steps) kind orientation
  · obtain ⟨new, hnew, hcount⟩ := exists_snapshots_run {} steps
    rw [diagrams, List.length_map, hnew]
    exact hcount

/-- A node that is given a label, a member and a stereotype after the
build shows them in the diagram; one that comes later does not. -/
theorem diagrams_run_aged_filled :
    let before : List Step := [.build none none, .addMember "A".toList "+x".toList]
    let after : List Step :=
      [.mention "A".toList "first".toList, .addMember "A".toList "+y".toList,
       .setStereotype "A".toList (some "enum".toList),
       .connect "A".toList "B".toList "link".toList [] true, .setAside "?".toList]
    let last := (run {} (before ++ .build (some "flowchart".toList) none :: after)).2
    let d : Diagram :=
      ⟨[⟨"A".toList, "first".toList, ["+x".toList, "+y".toList], some "enum".toList⟩], [],
       some .flowchart, none, []⟩
    last.diagrams = [{}, d] ∧
      d.Aged ⟨[⟨"A".toList, [], ["+x".toList], none⟩], [], []⟩ last.draft (some .flowchart) none := by
  intro before after last d
  have hdiagrams : last.diagrams = [{}, d] := by decide
  obtain ⟨-, d', hd', haged⟩ := diagrams_run_aged.1 before after (some .flowchart) none
  have hcount : before.countP Step.builds = 1 := by decide
  have hsame : last.diagrams[1]? = some d' := hcount ▸ hd'
  rw [hdiagrams] at hsame
  obtain rfl : d = d' := by simpa using hsame
  exact ⟨hdiagrams, haged⟩

end Session
end DiagramGraph
