/-
DiagramGraph.Proofs.SessionTheorems — what a session leaves behind, read
off its steps.

A draft is changed step by step: a mention adds a node or offers it a
label, a link mentions both its ends before it is added. The reading
here looks at the list of steps as a whole:

* the nodes are the identifiers that the steps speak of, in the order of
  first mention;
* a node has the first label on offer that says anything, all members
  that were given to it, and the stereotype that was set last;
* the links and the unread statements are those of the steps.

`draft_foldl_next` says that both agree after every list of steps. One
more step changes the draft as it changes the reading (`draft_next`), and
the whole run follows by induction from the last step backwards.
-/
import DiagramGraph.Graph.Session
import DiagramGraph.Proofs.DraftTheorems
import Mathlib.Data.List.Induction

namespace DiagramGraph

/-! ## §1 What one step says -/

namespace Step

/-- The identifiers that a step speaks of, in order. A link speaks of its
source and then of its target, also where it is refused because it is a
loop; a link of no known relation speaks of nothing. -/
def mentions : Step → List Text
  | .mention id _ => [id]
  | .addMember id _ => [id]
  | .setStereotype id _ => [id]
  | .connect source target relation _ _ =>
    if (Relation.ofName? relation).isSome then [source, target] else []
  | _ => []

/-- The label that a step offers to the node `id`. -/
def labelFor? (id : Text) : Step → Option Text
  | .mention i label => if i = id then some label else none
  | _ => none

/-- The member that a step gives to the node `id`. -/
def memberOf? (id : Text) : Step → Option Text
  | .addMember i member => if i = id then some member else none
  | _ => none

/-- What a step sets the stereotype of the node `id` to. -/
def stereotypeOf? (id : Text) : Step → Option (Option Text)
  | .setStereotype i stereotype => if i = id then some stereotype else none
  | _ => none

/-- The link that a step adds. A link from a node to itself is refused
where loops are not allowed, and so is one of no known relation. -/
def link? : Step → Option Link
  | .connect source target relation label loops =>
    if source = target ∧ loops = false then none
    else (Relation.ofName? relation).map fun r => ⟨source, target, r, label⟩
  | _ => none

/-- The statement that a step sets aside. -/
def statement? : Step → Option Text
  | .setAside line => some line
  | _ => none

/-- A step says nothing of a node that it does not mention. -/
theorem eq_none_of_not_mem_mentions {id : Text} {x : Step} (h : id ∉ x.mentions) :
    x.labelFor? id = none ∧ x.memberOf? id = none ∧ x.stereotypeOf? id = none := by
  cases x with
  | mention i label => exact ⟨if_neg (by simpa [mentions, eq_comm] using h), rfl, rfl⟩
  | addMember i member => exact ⟨rfl, if_neg (by simpa [mentions, eq_comm] using h), rfl⟩
  | setStereotype i s => exact ⟨rfl, rfl, if_neg (by simpa [mentions, eq_comm] using h)⟩
  | _ => exact ⟨rfl, rfl, rfl⟩

end Step

/-! ## §2 What a list of steps says -/

/-- The first of the labels that says anything, empty if none does. -/
def firstLabel (labels : List Text) : Text := (labels.find? (fun label => !label.isEmpty)).getD []

@[simp] theorem firstLabel_nil : firstLabel [] = [] := rfl

@[simp] theorem firstLabel_cons (label : Text) (rest : List Text) :
    firstLabel (label :: rest) = if label.isEmpty then firstLabel rest else label := by
  cases label with
  | nil => rfl
  | cons c t => rfl

/-- A label counts only if none before it says anything. -/
theorem firstLabel_append (a b : List Text) :
    firstLabel (a ++ b) = if (firstLabel a).isEmpty then firstLabel b else firstLabel a := by
  induction a with
  | nil => rfl
  | cons label rest ih =>
    rw [List.cons_append, firstLabel_cons, firstLabel_cons, ih]
    by_cases h : label.isEmpty = true <;> simp [h]

/-- The node `id` after the steps: the first label on offer that says
anything, the members in order and the last stereotype. -/
def nodeAfter (steps : List Step) (id : Text) : Node where
  id := id
  label := firstLabel (steps.filterMap (Step.labelFor? id))
  members := steps.filterMap (Step.memberOf? id)
  stereotype := (steps.filterMap (Step.stereotypeOf? id)).getLast?.join

/-- The draft that the steps describe. -/
def draftAfter (steps : List Step) : Draft where
  nodes := (steps.flatMap Step.mentions).eraseDups.map (nodeAfter steps)
  links := steps.filterMap Step.link?
  unread := steps.filterMap Step.statement?

/-- Steps say nothing of a node that none of them mentions. -/
theorem filterMap_eq_nil_of_not_mem {steps : List Step} {id : Text}
    (h : id ∉ steps.flatMap Step.mentions) :
    steps.filterMap (Step.labelFor? id) = [] ∧ steps.filterMap (Step.memberOf? id) = [] ∧
      steps.filterMap (Step.stereotypeOf? id) = [] := by
  have hnone : ∀ x ∈ steps,
      x.labelFor? id = none ∧ x.memberOf? id = none ∧ x.stereotypeOf? id = none := by
    intro x hx
    exact Step.eq_none_of_not_mem_mentions fun hm => h (List.mem_flatMap.mpr ⟨x, hx, hm⟩)
  simp only [List.filterMap_eq_nil_iff]
  exact ⟨fun x hx => (hnone x hx).1, fun x hx => (hnone x hx).2.1, fun x hx => (hnone x hx).2.2⟩

/-- A node that was not mentioned has nothing but its identifier. -/
theorem nodeAfter_of_not_mem {steps : List Step} {id : Text} (h : id ∉ steps.flatMap Step.mentions) :
    nodeAfter steps id = ⟨id, [], [], none⟩ := by
  obtain ⟨hlabels, hmembers, hstereotypes⟩ := filterMap_eq_nil_of_not_mem h
  simp [nodeAfter, hlabels, hmembers, hstereotypes]

/-- Labels of later steps count only if the earlier ones offer none. -/
theorem label_nodeAfter_append (a b : List Step) (id : Text) :
    (nodeAfter (a ++ b) id).label =
      if (nodeAfter a id).label.isEmpty then (nodeAfter b id).label else (nodeAfter a id).label := by
  show firstLabel ((a ++ b).filterMap (Step.labelFor? id)) = _
  rw [List.filterMap_append, firstLabel_append]
  rfl

/-! ## §3 One more step -/

namespace Draft

variable {f : Text → Node} {links : List Link} {unread : List Text}

/-- A change of one node of a draft that lists its nodes by identifier. -/
theorem update_map (hf : ∀ i, (f i).id = i) (ids : List Text) (id : Text) (change : Node → Node) :
    (⟨ids.map f, links, unread⟩ : Draft).update id change =
      ⟨ids.map fun i => if i = id then change (f i) else f i, links, unread⟩ := by
  rw [update, List.map_map]
  congr 1
  refine List.map_congr_left fun i _ => ?_
  rw [Function.comp_apply, hf]

theorem eraseDups_concat (ids : List Text) (id : Text) :
    (ids ++ [id]).eraseDups = if id ∈ ids then ids.eraseDups else ids.eraseDups ++ [id] := by
  rw [List.eraseDups_append]
  split
  · next h => simp [List.removeAll, h]
  · next h => simp [List.removeAll, h, List.eraseDups_cons]

/-- A mention adds the identifier to those mentioned before, and offers
the label to its node, which was bare if it is new. -/
theorem mention_map (hf : ∀ i, (f i).id = i) {ids : List Text} {id : Text}
    (hnew : id ∉ ids → f id = ⟨id, [], [], none⟩) (label : Text) :
    (⟨ids.eraseDups.map f, links, unread⟩ : Draft).mention id label =
      ⟨(ids ++ [id]).eraseDups.map fun i => if i = id then (f i).offer label else f i,
        links, unread⟩ := by
  have hids : (⟨ids.eraseDups.map f, links, unread⟩ : Draft).ids = ids.eraseDups := by
    rw [Draft.ids, List.map_map]
    exact (List.map_congr_left fun i _ => hf i).trans (List.map_id' _)
  rw [eraseDups_concat]
  by_cases h : id ∈ ids
  · have hknown : id ∈ (⟨ids.eraseDups.map f, links, unread⟩ : Draft).ids := by
      rw [hids]
      exact List.mem_eraseDups.mpr h
    rw [mention, if_pos (any_eq_true_iff_mem_ids.mpr hknown), if_pos h]
    exact update_map hf _ id (Node.offer label)
  · have hunknown : id ∉ (⟨ids.eraseDups.map f, links, unread⟩ : Draft).ids := by
      rw [hids]
      exact mt List.mem_eraseDups.mp h
    rw [mention_of_not_mem hunknown, if_neg h, List.map_append, List.map_singleton, if_pos rfl, hnew h]
    have hsame : ids.eraseDups.map (fun i => if i = id then (f i).offer label else f i) =
        ids.eraseDups.map f := by
      refine List.map_congr_left fun i hi => if_neg ?_
      rintro rfl
      exact h (List.mem_eraseDups.mp hi)
    rw [hsame]
    rfl

/-- A mention without a label only adds the identifier. -/
theorem mention_map_bare (hf : ∀ i, (f i).id = i) {ids : List Text} {id : Text}
    (hnew : id ∉ ids → f id = ⟨id, [], [], none⟩) :
    (⟨ids.eraseDups.map f, links, unread⟩ : Draft).mention id =
      ⟨(ids ++ [id]).eraseDups.map f, links, unread⟩ := by
  rw [mention_map hf hnew]
  simp only [offer_nil, ite_self]

end Draft

section

variable (steps : List Step)

/-- What one more step does to a node. -/
theorem nodeAfter_concat (x : Step) (i : Text) :
    nodeAfter (steps ++ [x]) i =
      { id := i
        label := if (nodeAfter steps i).label.isEmpty then (x.labelFor? i).getD []
          else (nodeAfter steps i).label
        members := (nodeAfter steps i).members ++ (x.memberOf? i).toList
        stereotype := (x.stereotypeOf? i).getD (nodeAfter steps i).stereotype } := by
  have hlabel : (nodeAfter [x] i).label = (x.labelFor? i).getD [] := by
    cases hx : x.labelFor? i with
    | none => simp [nodeAfter, hx]
    | some label => cases label <;> simp [nodeAfter, hx]
  have hmembers : (nodeAfter (steps ++ [x]) i).members =
      (nodeAfter steps i).members ++ (x.memberOf? i).toList := by
    cases hx : x.memberOf? i <;> simp [nodeAfter, hx]
  have hstereotype : (nodeAfter (steps ++ [x]) i).stereotype =
      (x.stereotypeOf? i).getD (nodeAfter steps i).stereotype := by
    cases hx : x.stereotypeOf? i <;> simp [nodeAfter, hx]
  rw [← hlabel, ← hmembers, ← hstereotype, ← label_nodeAfter_append]
  rfl

/-- A step that says nothing of a node leaves it alone. -/
theorem nodeAfter_concat_of_none {x : Step} {i : Text}
    (h : x.labelFor? i = none ∧ x.memberOf? i = none ∧ x.stereotypeOf? i = none) :
    nodeAfter (steps ++ [x]) i = nodeAfter steps i := by
  rw [nodeAfter_concat, h.1, h.2.1, h.2.2]
  cases hl : (nodeAfter steps i).label <;> simp [nodeAfter] at hl ⊢ <;> simp [hl]

theorem nodeAfter_mention (id label : Text) :
    nodeAfter (steps ++ [.mention id label]) =
      fun i => if i = id then (nodeAfter steps i).offer label else nodeAfter steps i := by
  funext i
  split
  · next h =>
    have hlabel : (Step.mention id label).labelFor? i = some label := if_pos h.symm
    rw [nodeAfter_concat, hlabel, Node.offer]
    split <;> simp [nodeAfter, Step.memberOf?, Step.stereotypeOf?]
  · next h => exact nodeAfter_concat_of_none steps ⟨if_neg (Ne.symm h), rfl, rfl⟩

theorem nodeAfter_addMember (id member : Text) :
    nodeAfter (steps ++ [.addMember id member]) = fun i =>
      if i = id then { nodeAfter steps i with members := (nodeAfter steps i).members ++ [member] }
      else nodeAfter steps i := by
  funext i
  split
  · next h =>
    simp [nodeAfter, h, List.filterMap_cons, Step.labelFor?, Step.memberOf?, Step.stereotypeOf?]
  · next h => exact nodeAfter_concat_of_none steps ⟨rfl, if_neg (Ne.symm h), rfl⟩

theorem nodeAfter_setStereotype (id : Text) (stereotype : Option Text) :
    nodeAfter (steps ++ [.setStereotype id stereotype]) = fun i =>
      if i = id then { nodeAfter steps i with stereotype := stereotype } else nodeAfter steps i := by
  funext i
  split
  · next h =>
    simp [nodeAfter, h, List.filterMap_cons, Step.labelFor?, Step.memberOf?, Step.stereotypeOf?]
  · next h => exact nodeAfter_concat_of_none steps ⟨rfl, rfl, if_neg (Ne.symm h)⟩

theorem draftAfter_concat (x : Step) :
    draftAfter (steps ++ [x]) =
      { nodes := (steps.flatMap Step.mentions ++ x.mentions).eraseDups.map (nodeAfter (steps ++ [x]))
        links := steps.filterMap Step.link? ++ x.link?.toList
        unread := steps.filterMap Step.statement? ++ x.statement?.toList } := by
  cases hl : x.link? <;> cases hu : x.statement? <;> simp [draftAfter, hl, hu]

/-- Speaking of a node without a label adds its identifier. -/
theorem mention_draftAfter (id : Text) :
    (draftAfter steps).mention id =
      ⟨(steps.flatMap Step.mentions ++ [id]).eraseDups.map (nodeAfter steps),
        steps.filterMap Step.link?, steps.filterMap Step.statement?⟩ :=
  Draft.mention_map_bare (fun _ => rfl) nodeAfter_of_not_mem

/-- A link adds the identifiers of both its ends, and itself unless it is
a loop where loops are not allowed. -/
theorem connect_draftAfter (l : Link) (loops : Bool) :
    (draftAfter steps).connect l loops =
      ⟨(steps.flatMap Step.mentions ++ [l.source, l.target]).eraseDups.map (nodeAfter steps),
        steps.filterMap Step.link? ++ if l.source = l.target ∧ loops = false then [] else [l],
        steps.filterMap Step.statement?⟩ := by
  have hnew : l.target ∉ steps.flatMap Step.mentions ++ [l.source] →
      nodeAfter steps l.target = ⟨l.target, [], [], none⟩ :=
    fun h => nodeAfter_of_not_mem fun hm => h (List.mem_append_left _ hm)
  have hends : steps.flatMap Step.mentions ++ [l.source, l.target] =
      steps.flatMap Step.mentions ++ [l.source] ++ [l.target] := by simp
  rw [Draft.connect, mention_draftAfter, Draft.mention_map_bare (fun _ => rfl) hnew, hends]
  by_cases hrefused : l.source = l.target ∧ loops = false
  · have hloop : Draft.refuses loops l = true := by simp [Draft.refuses, hrefused.1, hrefused.2]
    rw [hloop, if_pos hrefused, List.append_nil]
    rfl
  · have hkept : ¬ Draft.refuses loops l = true := by simpa [Draft.refuses] using hrefused
    rw [if_neg hkept, if_neg hrefused]

end

namespace Session

/-- One more step changes the draft as it changes the reading. -/
theorem draft_next {s : Session} {steps : List Step} (h : s.draft = draftAfter steps) (x : Step) :
    (s.next x).draft = draftAfter (steps ++ [x]) := by
  have hid : ∀ i, (nodeAfter steps i).id = i := fun _ => rfl
  -- Links, statements set aside and snapshots say nothing of a single node.
  have hquiet (hx : ∀ i, x.labelFor? i = none ∧ x.memberOf? i = none ∧ x.stereotypeOf? i = none) :
      nodeAfter (steps ++ [x]) = nodeAfter steps :=
    funext fun i => nodeAfter_concat_of_none steps (hx i)
  rw [draftAfter_concat]
  cases x with
  | mention id label =>
    have hnext : (s.next (.mention id label)).draft = s.draft.mention id label := rfl
    rw [hnext, h, draftAfter, Draft.mention_map hid nodeAfter_of_not_mem, nodeAfter_mention]
    simp [Step.mentions, Step.link?, Step.statement?]
  | addMember id member =>
    have hnext : (s.next (.addMember id member)).draft = s.draft.addMember id member := rfl
    rw [hnext, h, Draft.addMember, mention_draftAfter, Draft.update_map hid, nodeAfter_addMember]
    simp [Step.mentions, Step.link?, Step.statement?]
  | setStereotype id stereotype =>
    have hnext : (s.next (.setStereotype id stereotype)).draft =
        s.draft.setStereotype id stereotype := rfl
    rw [hnext, h, Draft.setStereotype, mention_draftAfter, Draft.update_map hid,
      nodeAfter_setStereotype]
    simp [Step.mentions, Step.link?, Step.statement?]
  | connect source target relation label loops =>
    rw [hquiet fun _ => ⟨rfl, rfl, rfl⟩]
    cases hr : Relation.ofName? relation with
    | none =>
      have hnext : s.next (.connect source target relation label loops) = s := by
        simp only [next, step, hr]
      rw [hnext, h, draftAfter]
      simp [Step.mentions, Step.link?, Step.statement?, hr]
    | some r =>
      have hnext : (s.next (.connect source target relation label loops)).draft =
          s.draft.connect ⟨source, target, r, label⟩ loops := by
        simp only [next, step, hr]
      rw [hnext, h, connect_draftAfter]
      by_cases hrefused : source = target ∧ loops = false <;>
        simp [Step.mentions, Step.link?, Step.statement?, hr, hrefused]
  | setAside line =>
    have hnext : (s.next (.setAside line)).draft = s.draft.setAside line := rfl
    rw [hnext, h, hquiet fun _ => ⟨rfl, rfl, rfl⟩]
    simp [draftAfter, Draft.setAside, Step.mentions, Step.link?, Step.statement?]
  | build dialect orientation =>
    have hnext : (s.next (.build dialect orientation)).draft = s.draft := by
      cases dialect with
      | none => rfl
      | some name => cases hd : Dialect.ofName? name <;> simp only [next, step, hd, build]
    rw [hnext, h, hquiet fun _ => ⟨rfl, rfl, rfl⟩]
    simp [draftAfter, Step.mentions, Step.link?, Step.statement?]
  | unknown =>
    have hnext : (s.next .unknown).draft = s.draft := rfl
    rw [hnext, h, hquiet fun _ => ⟨rfl, rfl, rfl⟩]
    simp [draftAfter, Step.mentions, Step.link?, Step.statement?]

/-! ## §4 Runs -/

/-- A session after a run is the fold of its steps. -/
theorem run_snd (s : Session) (steps : List Step) : (run s steps).2 = steps.foldl next s := by
  induction steps generalizing s with
  | nil => rfl
  | cons x rest ih => exact ih (s.next x)

/-- After every list of steps the draft is the one that they describe. -/
theorem draft_foldl_next (steps : List Step) : (steps.foldl next {}).draft = draftAfter steps := by
  induction steps using List.reverseRecOn with
  | nil => rfl
  | append_singleton steps x ih =>
    rw [List.foldl_append, List.foldl_cons, List.foldl_nil]
    exact draft_next ih x

/-- What is built by a run of any steps is what the steps describe: a
node for each identifier in the order of first mention, with the first
label that says anything, its members in order and its last stereotype;
the links that were not refused; the statements that were set aside. A
link of no known relation is refused and leaves the session as it was. -/
theorem draft_run (steps : List Step) :
    (run {} steps).2.draft =
        { nodes := (steps.flatMap Step.mentions).eraseDups.map fun id =>
            { id := id
              label := firstLabel (steps.filterMap (Step.labelFor? id))
              members := steps.filterMap (Step.memberOf? id)
              stereotype := (steps.filterMap (Step.stereotypeOf? id)).getLast?.join }
          links := steps.filterMap Step.link?
          unread := steps.filterMap Step.statement? } ∧
      ∀ (s : Session) (source target name label : Text) (loops : Bool),
        (∀ r : Relation, r.name ≠ name) →
          s.step (.connect source target name label loops) = .error (.unknownRelation name) ∧
            s.next (.connect source target name label loops) = s := by
  constructor
  · rw [run_snd]
    exact draft_foldl_next steps
  · intro s source target name label loops hunknown
    have hname : Relation.ofName? name = none := by
      rw [Relation.ofName?, List.find?_eq_none]
      exact fun r _ => by simpa using hunknown r
    have hstep : s.step (.connect source target name label loops) =
        .error (.unknownRelation name) := by
      simp only [step, hname]
    exact ⟨hstep, by rw [next, hstep]⟩

/-- A node keeps the first label that says anything, also if a link
mentioned it before; a refused loop mentions its node all the same. -/
theorem draft_run_labels :
    (run {} [.connect "A".toList "B".toList "link".toList [] true, .mention "B".toList [],
        .mention "B".toList "first".toList, .mention "B".toList "second".toList,
        .addMember "A".toList "+area()".toList, .connect "C".toList "C".toList "link".toList [] false,
        .connect "D".toList "E".toList "arrow".toList [] true, .setStereotype "A".toList none,
        .setStereotype "A".toList (some "enum".toList), .setAside "?".toList]).2.draft =
      ⟨[⟨"A".toList, [], ["+area()".toList], some "enum".toList⟩,
          ⟨"B".toList, "first".toList, [], none⟩, ⟨"C".toList, [], [], none⟩],
        [⟨"A".toList, "B".toList, .link, []⟩], ["?".toList]⟩ ∧
      next {} (.connect "D".toList "E".toList "arrow".toList [] true) = {} := by
  refine ⟨(draft_run _).1.trans (by decide), ?_⟩
  exact ((draft_run []).2 {} _ _ "arrow".toList _ _ (by rintro ⟨⟩ <;> decide)).2

end Session
end DiagramGraph
