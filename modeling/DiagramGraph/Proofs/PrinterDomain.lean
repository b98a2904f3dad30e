/-
DiagramGraph.Proofs.PrinterDomain — the documents that each printer
accepts.

A printer looks at a value when it uses it, and a value of the wrong
kind is a fault at that moment. What a printer passes over may be
anything. So the two printers accept different documents:

  §1 Results  — `Succeeds`: a computation that may fault has a result.
  §2 Values   — what can be asked of a value, and when that is no fault.
  §3 DOT      — `Dot.Accepts`, with `Dot.succeeds_write_iff`. All that is
                drawn has to be text, or to say nothing.
  §4 Mermaid  — `Mermaid.Accepts`, with `Mermaid.succeeds_write_iff`.
                Most values are shown whatever they are; what matters
                more is in which order links are looked at, since the
                search for a class diagram ends at its first sign.
-/
import DiagramGraph.Dot.Writer
import DiagramGraph.Mermaid.Writer
import DiagramGraph.Proofs.DotReader
import DiagramGraph.Proofs.WriterTheorems

namespace DiagramGraph.Document

open Json

/-! ## §1 Results -/

/-- The computation has a result. -/
def Succeeds {ε α : Type} (x : Except ε α) : Prop := ∃ a, x = .ok a

section Results

variable {ε α β : Type}

@[simp] theorem succeeds_ok (a : α) : Succeeds (.ok a : Except ε α) := ⟨a, rfl⟩

@[simp] theorem not_succeeds_error (e : ε) : ¬ Succeeds (.error e : Except ε α) := by
  rintro ⟨a, h⟩
  cases h

theorem succeeds_bind {x : Except ε α} {f : α → Except ε β} :
    Succeeds (x >>= f) ↔ ∃ a, x = .ok a ∧ Succeeds (f a) := by
  cases x <;> simp [bind, Except.bind]

/-- Two computations one after the other, neither of which needs the
result of the other. -/
theorem succeeds_both {γ : Type} {x : Except ε α} {y : Except ε β} {f : α → β → γ} :
    Succeeds (do let a ← x; let b ← y; return f a b) ↔ Succeeds x ∧ Succeeds y := by
  cases x <;> cases y <;> simp [bind, Except.bind, pure, Except.pure]

@[simp] theorem succeeds_map {x : Except ε α} {f : α → β} : Succeeds (x.map f) ↔ Succeeds x := by
  cases x <;> simp [Except.map]

theorem succeeds_ite {p : Prop} [Decidable p] {x : Except ε α} {a : α} :
    Succeeds (if p then x else .ok a) ↔ (p → Succeeds x) := by
  split <;> simp_all

/-- A list is gone through if each of its items has a result. -/
theorem succeeds_mapM {f : α → Except ε β} : ∀ {xs : List α},
    Succeeds (xs.mapM f) ↔ ∀ x ∈ xs, Succeeds (f x) := by
  intro xs
  induction xs with
  | nil => simp [pure, Except.pure]
  | cons x xs ih =>
    rw [List.mapM_cons, List.forall_mem_cons, ← ih]
    cases f x with
    | error e => simp [bind, Except.bind]
    | ok b => cases xs.mapM f <;> simp [bind, Except.bind, pure, Except.pure]

/-- A search has a result if the test has one of each item. -/
theorem succeeds_anyM {test : α → Except ε Bool} {xs : List α}
    (h : ∀ x ∈ xs, Succeeds (test x)) : Succeeds (xs.anyM test) := by
  induction xs with
  | nil => exact succeeds_ok false
  | cons x xs ih =>
    obtain ⟨hx, hxs⟩ := List.forall_mem_cons.mp h
    obtain ⟨found, hfound⟩ := hx
    rw [List.anyM_cons, hfound]
    cases found with
    | true => exact succeeds_ok true
    | false => exact ih hxs

/-- A search that ends without a find has looked at every item. -/
theorem anyM_eq_false_iff {test : α → Except ε Bool} : ∀ {xs : List α},
    xs.anyM test = .ok false ↔ ∀ x ∈ xs, test x = .ok false := by
  intro xs
  induction xs with
  | nil => simp [pure, Except.pure]
  | cons x xs ih =>
    rw [List.anyM_cons, List.forall_mem_cons, ← ih]
    cases test x with
    | error e => simp [bind, Except.bind]
    | ok found => cases found <;> simp [bind, Except.bind, pure, Except.pure]

/-- A search ends at its first find. -/
theorem anyM_cons_eq_true_iff {test : α → Except ε Bool} {x : α} {xs : List α} :
    (x :: xs).anyM test = .ok true ↔
      test x = .ok true ∨ test x = .ok false ∧ xs.anyM test = .ok true := by
  rw [List.anyM_cons]
  cases test x with
  | error e => simp [bind, Except.bind]
  | ok found => cases found <;> simp [bind, Except.bind, pure, Except.pure]

end Results

/-! ## §2 Values -/

/-- The value of a field, null if it is absent. -/
def valueAt (fs : Fields) (key : String) : Value := (fs.get? key.toList).getD .null

theorem field_obj (fs : Fields) (key : String) :
    field (.obj fs) key.toList = .ok (valueAt fs key) := rfl

/-- A field that holds text is there, so nothing stands in for it. -/
theorem getD_of_valueAt {fs : Fields} {key : String} {t : Text} (h : valueAt fs key = .str t)
    (fallback : Value) : (fs.get? key.toList).getD fallback = .str t := by
  unfold valueAt at h
  cases hget : fs.get? key.toList with
  | none =>
    rw [hget] at h
    cases h
  | some v =>
    rw [hget] at h
    exact h

/-- A value that is text, if it says anything. -/
def TextOrNothing (v : Value) : Prop := v.isTruthy = true → ∃ t, v = .str t

theorem succeeds_textOrEmpty {v : Value} : Succeeds (textOrEmpty v) ↔ TextOrNothing v := by
  unfold textOrEmpty TextOrNothing
  rw [succeeds_ite]
  cases v <;> simp

theorem textOrNothing_str (t : Text) : TextOrNothing (.str t) := fun _ => ⟨t, rfl⟩

/-- A value that has items: a list, a text or a record. -/
inductive HasItems : Value → Prop
  | arr (vs : List Value) : HasItems (.arr vs)
  | str (t : Text) : HasItems (.str t)
  | obj (fs : Fields) : HasItems (.obj fs)

theorem succeeds_items {v : Value} : Succeeds (items v) ↔ HasItems v := by
  constructor
  · cases v <;> simp [items] <;> constructor
  · rintro (_ | _ | _) <;> exact succeeds_ok _

/-- The items that a value shows as members: none if it says nothing. -/
def memberItems (v : Value) : Except Fault (List Value) :=
  if v.isTruthy then items v else .ok []

theorem succeeds_memberItems {v : Value} :
    Succeeds (memberItems v) ↔ (v.isTruthy = true → HasItems v) := by
  rw [memberItems, succeeds_ite, succeeds_items]

/-- A value that can be looked up as a name: no list and no record. -/
inductive IsKey : Value → Prop
  | null : IsKey .null
  | bool (b : Bool) : IsKey (.bool b)
  | int (n : Int) : IsKey (.int n)
  | float (x : Number.Binary64) : IsKey (.float x)
  | str (t : Text) : IsKey (.str t)

theorem succeeds_lookupName {v : Value} : Succeeds (lookupName v) ↔ IsKey v := by
  constructor
  · cases v <;> simp [lookupName] <;> constructor
  · rintro (_ | _ | _ | _ | _) <;> exact succeeds_ok _

/-- The record has the fields and what they hold is as the printer needs it. -/
def Record (P : Fields → Prop) (v : Value) : Prop := ∃ fs, v = .obj fs ∧ P fs

@[simp] theorem record_obj {P : Fields → Prop} {fs : Fields} : Record P (.obj fs) ↔ P fs := by
  simp [Record]

theorem Record.mono {P Q : Fields → Prop} {v : Value} (h : Record P v) (himp : ∀ fs, P fs → Q fs) :
    Record Q v := by
  obtain ⟨fs, hv, hfs⟩ := h
  exact ⟨fs, hv, himp fs hfs⟩

/-- The lists of a document. -/
def Lists (v : Value) (nodes links : List Value) : Prop :=
  Record (fun fs => fs.get? "nodes".toList = some (.arr nodes) ∧
    fs.get? "links".toList = some (.arr links)) v

theorem Lists.listField {v : Value} {nodes links : List Value} (h : Lists v nodes links) :
    listField v "nodes".toList = .ok nodes ∧ listField v "links".toList = .ok links := by
  obtain ⟨fs, rfl, hnodes, hlinks⟩ := h
  simp only [Document.listField, fields, hnodes, hlinks, Option.getD_some, items, and_self]

theorem hasList_iff {fs : Fields} {key : Text} :
    hasList fs key = true ↔ ∃ vs, fs.get? key = some (.arr vs) := by
  unfold hasList
  split
  · next vs h => simp [h]
  · next h => simpa using h

/-- The valid documents are those that have both lists. -/
theorem validate_eq_ok_iff {v w : Value} :
    validate v = .ok w ↔ v = w ∧ ∃ nodes links, Lists v nodes links := by
  cases v with
  | obj fs =>
    have hfind : ["nodes".toList, "links".toList].find? (fun key => !hasList fs key) = none ↔
        ∃ nodes links, Lists (.obj fs) nodes links := by
      simp [hasList_iff, Lists, Record]
    rw [← hfind, validate]
    cases ["nodes".toList, "links".toList].find? (fun key => !hasList fs key) with
    | none => simp
    | some key => simp
  | _ => simp [validate, Lists, Record]

end DiagramGraph.Document

namespace DiagramGraph.Dot

open Json Document

/-! ## §3 DOT -/

/-- The members can be drawn: each of them is text or says nothing. The
characters of a text and the names of a record always are text. -/
def DrawsMembers (v : Value) : Prop :=
  v.isTruthy = true → HasItems v ∧ ∀ ms, v = .arr ms → ∀ m ∈ ms, TextOrNothing m

/-- The node can be drawn, or has no identifier and is passed over. -/
def DrawsNode (fs : Fields) : Prop :=
  (valueAt fs "id").isTruthy = true →
    (∃ t, valueAt fs "id" = .str t) ∧ TextOrNothing (valueAt fs "label") ∧
      DrawsMembers (valueAt fs "members")

/-- The link can be drawn, or lacks an end and is passed over. -/
def DrawsLink (fs : Fields) : Prop :=
  (valueAt fs "source").isTruthy = true → (valueAt fs "target").isTruthy = true →
    (∃ t, valueAt fs "source" = .str t) ∧ (∃ t, valueAt fs "target" = .str t) ∧
      TextOrNothing (valueAt fs "type") ∧ TextOrNothing (valueAt fs "label")

/-- All that a DOT text shows of the document is text. -/
structure Accepts (nodes links : List Value) : Prop where
  node : ∀ v ∈ nodes, Record DrawsNode v
  link : ∀ v ∈ links, Record DrawsLink v

theorem succeeds_asIdentifier {v : Value} : Succeeds (asIdentifier v) ↔ ∃ t, v = .str t := by
  cases v <;> simp [asIdentifier]

theorem succeeds_asEndpoint {v : Value} : Succeeds (asEndpoint v) ↔ ∃ t, v = .str t := by
  cases v <;> simp [asEndpoint]

/-- The members are drawn if they are items, each of them text. -/
theorem exists_memberItems_iff {v : Value} :
    (∃ ms, memberItems v = .ok ms ∧ ∀ m ∈ ms, TextOrNothing m) ↔ DrawsMembers v := by
  unfold memberItems DrawsMembers
  split
  · next htruthy =>
    rw [iff_true_intro htruthy, true_imp_iff]
    cases v with
    | arr vs => simp [items, HasItems.arr]
    | str t => simp [items, HasItems.str, textOrNothing_str]
    | obj fs =>
      have hnames : ∀ m ∈ fs.map (fun f => Value.str f.1), TextOrNothing m := by
        intro m hm
        obtain ⟨f, _, rfl⟩ := List.mem_map.mp hm
        exact textOrNothing_str f.1
      simpa [items, HasItems.obj] using hnames
    | _ => simp [items, ← succeeds_items]
  · next htruthy => simp [htruthy]

/-- The lines that stand before the members of a node. -/
def frontLines (fs : Fields) : List Value :=
  (if (valueAt fs "stereotype").isTruthy then
    [.str ('«' :: display (valueAt fs "stereotype") ++ ['»'])] else []) ++
  [if (valueAt fs "label").isTruthy then valueAt fs "label"
    else (fs.get? "id".toList).getD (.str [])]

theorem shownLines_obj (fs : Fields) :
    shownLines (.obj fs) =
      (memberItems (valueAt fs "members")).map (fun ms => frontLines fs ++ ms) := by
  unfold shownLines frontLines memberItems valueAt
  simp only [fields, bind, Except.bind, pure, Except.pure]
  split <;> simp only [Except.map, List.append_assoc, List.singleton_append, List.append_nil]

theorem nodeStatement?_obj (fs : Fields) :
    nodeStatement? (.obj fs) =
      if (valueAt fs "id").isTruthy then do
        let ms ← memberItems (valueAt fs "members")
        let texts ← (frontLines fs ++ ms).mapM textOrEmpty
        let name ← asIdentifier (valueAt fs "id")
        return some (.node name (escapeLines texts))
      else .ok none := by
  unfold nodeStatement?
  simp only [field_obj, shownLines_obj, bind, Except.bind, pure, Except.pure]
  split
  · cases memberItems (valueAt fs "members") <;> rfl
  · rfl

/-- Before the members stand texts, given an identifier, if the label is text. -/
theorem textOrNothing_frontLines_iff {fs : Fields} {id : Text} (hid : valueAt fs "id" = .str id) :
    (∀ v ∈ frontLines fs, TextOrNothing v) ↔ TextOrNothing (valueAt fs "label") := by
  have hstereotype : ∀ v ∈ (if (valueAt fs "stereotype").isTruthy then
      [Value.str ('«' :: display (valueAt fs "stereotype") ++ ['»'])] else []), TextOrNothing v := by
    intro v hv
    split at hv
    · obtain rfl := List.mem_singleton.mp hv
      exact textOrNothing_str _
    · cases hv
  have hcaption : TextOrNothing (if (valueAt fs "label").isTruthy then valueAt fs "label"
      else (fs.get? "id".toList).getD (.str [])) ↔ TextOrNothing (valueAt fs "label") := by
    rw [getD_of_valueAt hid]
    split
    · rfl
    · next hnothing => simp [TextOrNothing, hnothing]
  unfold frontLines
  simp only [List.forall_mem_append, List.forall_mem_singleton, hcaption]
  exact and_iff_right hstereotype

/-- A node with an identifier is drawn under it. -/
theorem exists_nodeStatement {fs : Fields} {id : Text} (hid : valueAt fs "id" = .str id)
    (hne : id ≠ []) (h : DrawsNode fs) :
    ∃ lines, nodeStatement? (.obj fs) = .ok (some (.node id (escapeLines lines))) := by
  have htruthy : (valueAt fs "id").isTruthy = true := by
    rw [hid]
    exact Mermaid.isTruthy_str hne
  obtain ⟨-, hlabel, hmembers⟩ := h htruthy
  obtain ⟨ms, hms, htexts⟩ := exists_memberItems_iff.mpr hmembers
  have hlines : Succeeds ((frontLines fs ++ ms).mapM textOrEmpty) := by
    rw [succeeds_mapM]
    intro v hv
    rw [succeeds_textOrEmpty]
    rcases List.mem_append.mp hv with hv | hv
    · exact (textOrNothing_frontLines_iff hid).mpr hlabel v hv
    · exact htexts v hv
  obtain ⟨lines, hlines⟩ := hlines
  refine ⟨lines, ?_⟩
  rw [nodeStatement?_obj, if_pos htruthy, hms, hid]
  simp only [hlines, asIdentifier, bind, Except.bind, pure, Except.pure]

theorem succeeds_nodeStatement?_iff {v : Value} :
    Succeeds (nodeStatement? v) ↔ Record DrawsNode v := by
  cases v with
  | obj fs =>
    rw [record_obj]
    constructor
    · intro h htruthy
      rw [nodeStatement?_obj, if_pos htruthy, succeeds_bind] at h
      obtain ⟨ms, hms, h⟩ := h
      rw [succeeds_bind] at h
      obtain ⟨lines, hlines, h⟩ := h
      rw [succeeds_bind] at h
      obtain ⟨name, hname, -⟩ := h
      obtain ⟨id, hid⟩ := succeeds_asIdentifier.mp ⟨name, hname⟩
      have htexts : ∀ v ∈ frontLines fs ++ ms, TextOrNothing v := by
        intro v hv
        exact succeeds_textOrEmpty.mp (succeeds_mapM.mp ⟨lines, hlines⟩ v hv)
      rw [List.forall_mem_append, textOrNothing_frontLines_iff hid] at htexts
      exact ⟨⟨id, hid⟩, htexts.1, exists_memberItems_iff.mp ⟨ms, hms, htexts.2⟩⟩
    · intro h
      by_cases htruthy : (valueAt fs "id").isTruthy = true
      · obtain ⟨id, hid⟩ := (h htruthy).1
        have hne : id ≠ [] := by
          rintro rfl
          rw [hid] at htruthy
          cases htruthy
        obtain ⟨lines, hstatement⟩ := exists_nodeStatement hid hne h
        exact ⟨_, hstatement⟩
      · rw [nodeStatement?_obj, if_neg htruthy]
        exact succeeds_ok _
  | _ => simp [Record, nodeStatement?, field, fields, bind, Except.bind]

theorem edgeStatement?_obj (fs : Fields) :
    edgeStatement? (.obj fs) =
      if (valueAt fs "source").isTruthy && (valueAt fs "target").isTruthy then do
        let kind ← textOrEmpty (valueAt fs "type")
        let label ← textOrEmpty (valueAt fs "label")
        let tail ← asEndpoint (valueAt fs "source")
        let head ← asEndpoint (valueAt fs "target")
        return some (.edge tail head (if label.isEmpty then none else some (escapeLine label))
          (attributesNamed kind))
      else .ok none := rfl

/-- A link with both ends is drawn between them. -/
theorem exists_edgeStatement {fs : Fields} {source target : Text}
    (hsource : valueAt fs "source" = .str source) (htarget : valueAt fs "target" = .str target)
    (hs : source ≠ []) (ht : target ≠ []) (h : DrawsLink fs) :
    ∃ (lines? : Option (List Text)) (kind : Text), edgeStatement? (.obj fs) =
      .ok (some (.edge source target (lines?.map escapeLines) (attributesNamed kind))) := by
  have hstruthy := Mermaid.isTruthy_str hs
  have httruthy := Mermaid.isTruthy_str ht
  obtain ⟨-, -, hkind, hlabel⟩ := h (hsource ▸ hstruthy) (htarget ▸ httruthy)
  obtain ⟨kind, hkind⟩ := succeeds_textOrEmpty.mpr hkind
  obtain ⟨label, hlabel⟩ := succeeds_textOrEmpty.mpr hlabel
  refine ⟨if label.isEmpty then none else some [label], kind, ?_⟩
  rw [edgeStatement?_obj]
  simp only [hsource, htarget, hstruthy, httruthy, hkind, hlabel, asEndpoint, Bool.and_self, if_true,
    bind, Except.bind, pure, Except.pure, escapeLine_eq]
  split <;> rfl

theorem succeeds_edgeStatement?_iff {v : Value} :
    Succeeds (edgeStatement? v) ↔ Record DrawsLink v := by
  cases v with
  | obj fs =>
    have hends : ((valueAt fs "source").isTruthy && (valueAt fs "target").isTruthy) = true ↔
        (valueAt fs "source").isTruthy = true ∧ (valueAt fs "target").isTruthy = true :=
      Bool.and_eq_true_iff
    simp only [record_obj, DrawsLink, edgeStatement?_obj, succeeds_ite,
      hends, and_imp, succeeds_bind, ← succeeds_textOrEmpty, ← succeeds_asEndpoint]
    refine forall_congr' fun _ => forall_congr' fun _ => ?_
    constructor
    · rintro ⟨kind, hkind, label, hlabel, tail, htail, head, hhead, -⟩
      exact ⟨⟨tail, htail⟩, ⟨head, hhead⟩, ⟨kind, hkind⟩, ⟨label, hlabel⟩⟩
    · rintro ⟨⟨tail, htail⟩, ⟨head, hhead⟩, ⟨kind, hkind⟩, ⟨label, hlabel⟩⟩
      exact ⟨kind, hkind, label, hlabel, tail, htail, head, hhead, succeeds_ok _⟩
  | _ => simp [Record, edgeStatement?, field, fields, bind, Except.bind]

/-- The DOT text of a document, given the statements of its parts. -/
theorem write_eq {v : Value} {nodes links : List Value} (h : Lists v nodes links)
    (orientation : Text) :
    write v orientation = do
      let nodes ← nodes.mapM nodeStatement?
      let edges ← links.mapM edgeStatement?
      return (Digraph.mk defaultName (Rank.ofOrientation orientation)
        ((nodes ++ edges).filterMap id)).render := by
  obtain ⟨hnodes, hlinks⟩ := h.listField
  obtain ⟨fs, rfl, -, -⟩ := h
  simp only [write, ofDocument, statements, hnodes, hlinks, textOrEmpty_str, fields, bind, Except.bind,
    pure, Except.pure]
  cases nodes.mapM nodeStatement? with
  | error e => rfl
  | ok ns => cases links.mapM edgeStatement? <;> rfl

/-- A document is written in DOT exactly if all that is shown is text. -/
theorem succeeds_write_iff {v : Value} {nodes links : List Value} (h : Lists v nodes links)
    (orientation : Text) : Succeeds (write v orientation) ↔ Accepts nodes links := by
  rw [write_eq h, succeeds_both, succeeds_mapM, succeeds_mapM]
  simp only [succeeds_nodeStatement?_iff, succeeds_edgeStatement?_iff]
  exact ⟨fun hshown => ⟨hshown.1, hshown.2⟩, fun haccepts => ⟨haccepts.node, haccepts.link⟩⟩

end DiagramGraph.Dot

namespace DiagramGraph.Mermaid

open Json Document

/-! ## §4 Mermaid -/

/-- The label of a node with an identifier is text, if it says anything
else than the identifier. -/
def ShowsLabel (fs : Fields) : Prop :=
  (valueAt fs "id").isTruthy = true →
    (valueAt fs "label").equals (valueAt fs "id") = false → TextOrNothing (valueAt fs "label")

/-- The members of a node with an identifier are items. -/
def ShowsMembers (fs : Fields) : Prop :=
  (valueAt fs "id").isTruthy = true → (valueAt fs "members").isTruthy = true →
    HasItems (valueAt fs "members")

/-- The type of a link with both ends can be looked up. -/
def ShowsType (fs : Fields) : Prop :=
  (valueAt fs "source").isTruthy = true → (valueAt fs "target").isTruthy = true →
    IsKey (valueAt fs "type")

/-- The label of a link with both ends is text, if it says anything. -/
def ShowsLinkLabel (fs : Fields) : Prop :=
  (valueAt fs "source").isTruthy = true → (valueAt fs "target").isTruthy = true →
    TextOrNothing (valueAt fs "label")

/-- The node has members or a stereotype. -/
def HasBody (fs : Fields) : Prop :=
  (valueAt fs "members").isTruthy = true ∨ (valueAt fs "stereotype").isTruthy = true

/-- The type of the link names a relation that only a class diagram can
express. -/
def NamesClassRelation (fs : Fields) : Prop :=
  ∃ r, isClassRelation r = true ∧ valueAt fs "type" = .str r.name

/-- Some link calls for a class diagram, and the type of every link
before it can be looked up. -/
def CallsForClass : List Value → Prop
  | [] => False
  | v :: links =>
    Record NamesClassRelation v ∨
      Record (fun fs => IsKey (valueAt fs "type")) v ∧ CallsForClass links

/-- What a class diagram shows of the document can be shown. -/
structure AcceptsClass (nodes links : List Value) : Prop where
  needed : (∃ v ∈ nodes, Record HasBody v) ∨ CallsForClass links
  node : ∀ v ∈ nodes, Record (fun fs => ShowsLabel fs ∧ ShowsMembers fs) v
  link : ∀ v ∈ links, Record ShowsType v

/-- What a flowchart shows of the document can be shown. -/
structure AcceptsFlow (nodes links : List Value) : Prop where
  bodiless : ∀ v ∈ nodes, ¬ Record HasBody v
  plain : ∀ v ∈ links, ¬ Record NamesClassRelation v
  node : ∀ v ∈ nodes, Record ShowsLabel v
  link : ∀ v ∈ links, Record (fun fs => IsKey (valueAt fs "type") ∧ ShowsLinkLabel fs) v

/-- What the dialect that is chosen shows of the document can be shown. -/
def Accepts (nodes links : List Value) : Prop := AcceptsClass nodes links ∨ AcceptsFlow nodes links

/-- What is drawn of a list that the document has. -/
theorem succeeds_drawn_iff {α : Type} {v : Value} {key : Text} {vs : List Value}
    (h : listField v key = .ok vs) {draw : Value → Except Fault (Option α)} :
    Succeeds (drawn v key draw) ↔ ∀ x ∈ vs, Succeeds (draw x) := by
  rw [← succeeds_mapM]
  simp only [drawn, h, bind, Except.bind, pure, Except.pure]
  cases vs.mapM draw <;> simp

theorem succeeds_ownLabel_iff {fs : Fields} {id : Value} :
    Succeeds (ownLabel (.obj fs) id) ↔
      ((valueAt fs "label").equals id = false → TextOrNothing (valueAt fs "label")) := by
  have hlabel : ownLabel (.obj fs) id =
      if (valueAt fs "label").isTruthy && !(valueAt fs "label").equals id then
        (textOrEmpty (valueAt fs "label")).map (fun t => some (quotable t)) else .ok none := by
    unfold ownLabel
    simp only [field_obj, bind, Except.bind, pure, Except.pure]
    split
    · cases textOrEmpty (valueAt fs "label") <;> rfl
    · rfl
  rw [hlabel, succeeds_ite, succeeds_map, succeeds_textOrEmpty]
  simp only [Bool.and_eq_true, Bool.not_eq_true', and_imp, TextOrNothing]
  exact ⟨fun h hne htruthy => h htruthy hne htruthy, fun h htruthy hne _ => h hne htruthy⟩

theorem succeeds_flowBox?_iff {v : Value} : Succeeds (flowBox? v) ↔ Record ShowsLabel v := by
  cases v with
  | obj fs =>
    have hbox : flowBox? (.obj fs) = if (valueAt fs "id").isTruthy then
        (ownLabel (.obj fs) (valueAt fs "id")).map
          (fun label => some ⟨display (valueAt fs "id"), label, none, []⟩) else .ok none := by
      unfold flowBox?
      simp only [field_obj, bind, Except.bind, pure, Except.pure]
      split
      · cases ownLabel (.obj fs) (valueAt fs "id") <;> rfl
      · rfl
    rw [hbox, succeeds_ite, succeeds_map, succeeds_ownLabel_iff, record_obj, ShowsLabel]
  | _ => simp [Record, flowBox?, field, fields, bind, Except.bind]

theorem succeeds_classBox?_iff {v : Value} :
    Succeeds (classBox? v) ↔ Record (fun fs => ShowsLabel fs ∧ ShowsMembers fs) v := by
  cases v with
  | obj fs =>
    have hbox : classBox? (.obj fs) = if (valueAt fs "id").isTruthy then do
        let label ← ownLabel (.obj fs) (valueAt fs "id")
        let members ← memberItems (valueAt fs "members")
        return some ⟨display (valueAt fs "id"), label, if (valueAt fs "stereotype").isTruthy then
          some (display (valueAt fs "stereotype")) else none, members.map display⟩
      else .ok none := by
      unfold classBox? memberItems
      simp only [field_obj, bind, Except.bind, pure, Except.pure]
      split
      · cases ownLabel (.obj fs) (valueAt fs "id") with
        | error e => rfl
        | ok label => cases (valueAt fs "members").isTruthy <;> rfl
      · rfl
    rw [hbox, succeeds_ite, succeeds_both, succeeds_ownLabel_iff, succeeds_memberItems, record_obj,
      ShowsLabel, ShowsMembers, ← forall_and]
  | _ => simp [Record, classBox?, field, fields, bind, Except.bind]

theorem succeeds_linkRelation_iff {fs : Fields} :
    Succeeds (linkRelation (.obj fs)) ↔ IsKey (valueAt fs "type") := by
  rw [linkRelation, field_obj, succeeds_map, succeeds_lookupName]

/-- What becomes of the label of a link: nothing if it says nothing. -/
def linkLabel (labelText : Value → Except Fault Text) (v : Value) : Except Fault (Option Text) :=
  if v.isTruthy then (labelText v).map some else .ok none

theorem succeeds_linkLabel_iff {labelText : Value → Except Fault Text} {v : Value} :
    Succeeds (linkLabel labelText v) ↔ (v.isTruthy = true → Succeeds (labelText v)) := by
  rw [linkLabel, succeeds_ite, succeeds_map]

/-- The arrow of a link with both ends is drawn if its type can be
looked up and something becomes of its label. -/
theorem succeeds_arrow?_iff {glyph : Option Relation → Text} {labelText : Value → Except Fault Text}
    {v : Value} : Succeeds (arrow? glyph labelText v) ↔
      Record (fun fs => ShowsType fs ∧ ((valueAt fs "source").isTruthy = true →
        (valueAt fs "target").isTruthy = true →
          Succeeds (linkLabel labelText (valueAt fs "label")))) v := by
  cases v with
  | obj fs =>
    have harrow : arrow? glyph labelText (.obj fs) =
        if (valueAt fs "source").isTruthy && (valueAt fs "target").isTruthy then do
          let r ← linkRelation (.obj fs)
          let label ← linkLabel labelText (valueAt fs "label")
          return some ⟨display (valueAt fs "source"), display (valueAt fs "target"), glyph r, label⟩
        else .ok none := by
      unfold arrow? linkLabel
      simp only [field_obj, bind, Except.bind, pure, Except.pure]
      split
      · cases linkRelation (.obj fs) with
        | error e => rfl
        | ok r => cases (valueAt fs "label").isTruthy <;> rfl
      · rfl
    rw [harrow, succeeds_ite, succeeds_both, succeeds_linkRelation_iff, record_obj, ShowsType]
    simp only [Bool.and_eq_true, and_imp, ← forall_and]
  | _ => simp [Record, arrow?, field, fields, bind, Except.bind]

theorem succeeds_classArrow?_iff {v : Value} : Succeeds (classArrow? v) ↔ Record ShowsType v := by
  rw [classArrow?, succeeds_arrow?_iff]
  simp [succeeds_linkLabel_iff]

theorem succeeds_flowArrow?_iff {v : Value} :
    Succeeds (flowArrow? v) ↔ Record (fun fs => ShowsType fs ∧ ShowsLinkLabel fs) v := by
  rw [flowArrow?, succeeds_arrow?_iff]
  simp only [succeeds_linkLabel_iff, succeeds_map, succeeds_textOrEmpty, ShowsLinkLabel]
  simp only [TextOrNothing, forall_self_imp]

/-- A class diagram is written if each node and each link can be shown. -/
theorem succeeds_classLines_iff {v : Value} {nodes links : List Value} (h : Lists v nodes links) :
    Succeeds (classLines v) ↔
      (∀ v ∈ nodes, Record (fun fs => ShowsLabel fs ∧ ShowsMembers fs) v) ∧
        ∀ v ∈ links, Record ShowsType v := by
  obtain ⟨hnodes, hlinks⟩ := h.listField
  rw [classLines, succeeds_both, succeeds_drawn_iff hnodes, succeeds_drawn_iff hlinks]
  simp only [succeeds_classBox?_iff, succeeds_classArrow?_iff]

/-- So is a flowchart, which shows less of a node and more of a link. -/
theorem succeeds_flowLines_iff {v : Value} {nodes links : List Value} (h : Lists v nodes links)
    (orientation : Text) : Succeeds (flowLines v (.str orientation)) ↔
      (∀ v ∈ nodes, Record ShowsLabel v) ∧
        ∀ v ∈ links, Record (fun fs => ShowsType fs ∧ ShowsLinkLabel fs) v := by
  obtain ⟨hnodes, hlinks⟩ := h.listField
  have hlines : flowLines v (.str orientation) = do
      let boxes ← drawn v "nodes".toList flowBox?
      let arrows ← drawn v "links".toList flowArrow?
      return ("flowchart ".toList ++ (Rank.ofOrientation orientation).name) ::
        (boxes.map Box.flowLine ++ arrows.map Arrow.flowLine) := by
    rw [flowLines, textOrEmpty_str]
    rfl
  rw [hlines, succeeds_both, succeeds_drawn_iff hnodes, succeeds_drawn_iff hlinks]
  simp only [succeeds_flowBox?_iff, succeeds_flowArrow?_iff]

/-! ### The search for a class diagram -/

theorem hasBody_obj (fs : Fields) : ∃ b, hasBody (.obj fs) = .ok b ∧ (b = true ↔ HasBody fs) :=
  ⟨_, rfl, Bool.or_eq_true_iff⟩

/-- Among records, a body is found if there is one. -/
theorem anyM_hasBody {nodes : List Value} (h : ∀ v ∈ nodes, Record (fun _ => True) v) :
    nodes.anyM hasBody = .ok true ∧ (∃ v ∈ nodes, Record HasBody v) ∨
      nodes.anyM hasBody = .ok false ∧ ∀ v ∈ nodes, ¬ Record HasBody v := by
  induction nodes with
  | nil => exact .inr ⟨rfl, by simp⟩
  | cons v nodes ih =>
    obtain ⟨fs, rfl, -⟩ := h v (by simp)
    obtain ⟨b, hb, hiff⟩ := hasBody_obj fs
    rw [List.anyM_cons, hb]
    cases b with
    | true => exact .inl ⟨rfl, .obj fs, by simp, record_obj.mpr (hiff.mp rfl)⟩
    | false =>
      have hbare : ¬ Record HasBody (.obj fs) := by
        rw [record_obj, ← hiff]
        simp
      rcases ih fun w hw => h w (List.mem_cons_of_mem _ hw) with ⟨hany, w, hw, hbody⟩ | ⟨hany, hnone⟩
      · exact .inl ⟨hany, w, List.mem_cons_of_mem _ hw, hbody⟩
      · exact .inr ⟨hany, List.forall_mem_cons.mpr ⟨hbare, hnone⟩⟩

theorem ofName?_eq_some_iff {t : Text} {r : Relation} :
    Relation.ofName? t = some r ↔ t = r.name := by
  constructor
  · intro h
    exact (of_decide_eq_true (List.find?_some (p := fun r : Relation => decide (r.name = t)) h)).symm
  · rintro rfl
    exact Relation.ofName?_name r

theorem isClassLink_obj (fs : Fields) :
    isClassLink (.obj fs) = (lookupName (valueAt fs "type")).map
      (fun name => (name.bind Relation.ofName?).any isClassRelation) := by
  have hlink : isClassLink (.obj fs) =
      ((lookupName (valueAt fs "type")).map (fun name => name.bind Relation.ofName?)).map
        (fun r => r.any isClassRelation) := rfl
  rw [hlink]
  cases lookupName (valueAt fs "type") <;> rfl

theorem isClassLink_eq_true_iff {v : Value} :
    isClassLink v = .ok true ↔ Record NamesClassRelation v := by
  cases v with
  | obj fs =>
    rw [isClassLink_obj, record_obj, NamesClassRelation]
    cases valueAt fs "type" with
    | str t => simp [lookupName, Except.map, Option.any_eq_true, ofName?_eq_some_iff, and_comm]
    | _ => simp [lookupName, Except.map]
  | _ => simp [Record, isClassLink, linkRelation, field, fields, Except.map]

theorem isClassLink_eq_false_iff {v : Value} :
    isClassLink v = .ok false ↔
      Record (fun fs => IsKey (valueAt fs "type")) v ∧ ¬ Record NamesClassRelation v := by
  rw [← isClassLink_eq_true_iff]
  cases v with
  | obj fs =>
    rw [isClassLink_obj, record_obj, ← succeeds_lookupName]
    cases lookupName (valueAt fs "type") <;> simp [Except.map]
  | _ => simp [Record, isClassLink, linkRelation, field, fields, Except.map]

theorem anyM_isClassLink_eq_true_iff {links : List Value} :
    links.anyM isClassLink = .ok true ↔ CallsForClass links := by
  induction links with
  | nil => simp [CallsForClass, pure, Except.pure]
  | cons v links ih =>
    rw [anyM_cons_eq_true_iff, isClassLink_eq_true_iff, isClassLink_eq_false_iff, ih, CallsForClass]
    by_cases h : Record NamesClassRelation v
    · simp [h]
    · simp [h]

/-- The dialect is found out if there is a body to be seen, a call for a
class diagram, or neither. -/
theorem neededDialect_eq_ok_iff {v : Value} {nodes links : List Value} (h : Lists v nodes links)
    (hnodes : ∀ v ∈ nodes, Record (fun _ => True) v) (dialect : Dialect) :
    neededDialect v = .ok dialect ↔
      match dialect with
      | .classDiagram => (∃ v ∈ nodes, Record HasBody v) ∨ CallsForClass links
      | .flowchart => (∀ v ∈ nodes, ¬ Record HasBody v) ∧ ∀ v ∈ links,
        Record (fun fs => IsKey (valueAt fs "type")) v ∧ ¬ Record NamesClassRelation v := by
  have hlists := h.listField
  simp only [neededDialect, hlists.1, hlists.2, bind, Except.bind, pure, Except.pure]
  rcases anyM_hasBody hnodes with ⟨hany, hbody⟩ | ⟨hany, hnone⟩
  · obtain ⟨w, hw, hwbody⟩ := hbody
    rw [hany]
    cases dialect with
    | classDiagram => simpa using .inl ⟨w, hw, hwbody⟩
    | flowchart => simpa using fun hnone => absurd hwbody (hnone w hw)
  · have hnobody : ¬ ∃ v ∈ nodes, Record HasBody v := by simpa using hnone
    rw [hany]
    simp only [Bool.false_eq_true, if_false, hnobody, false_or, iff_true_intro hnone, true_and,
      ← anyM_isClassLink_eq_true_iff, ← isClassLink_eq_false_iff, ← anyM_eq_false_iff]
    cases links.anyM isClassLink with
    | error e => cases dialect <;> simp
    | ok found => cases dialect <;> cases found <;> simp

/-- A document is written in Mermaid exactly if the dialect that is
chosen can show what it shows of it. -/
theorem succeeds_write_iff {v : Value} {nodes links : List Value} (h : Lists v nodes links)
    (orientation : Text) : Succeeds (write v none orientation) ↔ Accepts nodes links := by
  have hwrite : Succeeds (write v none orientation) ↔
      (neededDialect v = .ok .classDiagram ∧ Succeeds (classLines v)) ∨
        (neededDialect v = .ok .flowchart ∧ Succeeds (flowLines v (.str orientation))) := by
    simp only [write, writeIn]
    cases neededDialect v with
    | error e => simp [bind, Except.bind]
    | ok dialect =>
      cases dialect with
      | classDiagram => cases classLines v <;> simp [bind, Except.bind, pure, Except.pure]
      | flowchart =>
        cases flowLines v (.str orientation) <;> simp [bind, Except.bind, pure, Except.pure]
  rw [hwrite, succeeds_classLines_iff h, succeeds_flowLines_iff h]
  constructor
  · rintro (⟨hdialect, hboxes, harrows⟩ | ⟨hdialect, hboxes, harrows⟩)
    · rw [neededDialect_eq_ok_iff h fun w hw => (hboxes w hw).mono fun _ _ => trivial] at hdialect
      exact .inl ⟨hdialect, hboxes, harrows⟩
    · rw [neededDialect_eq_ok_iff h fun w hw => (hboxes w hw).mono fun _ _ => trivial] at hdialect
      refine .inr ⟨hdialect.1, fun w hw => (hdialect.2 w hw).2, hboxes, fun w hw => ?_⟩
      obtain ⟨fs, rfl, hkey⟩ := (hdialect.2 w hw).1
      exact record_obj.mpr ⟨hkey, (record_obj.mp (harrows _ hw)).2⟩
  · rintro (haccepts | haccepts)
    · refine .inl ⟨?_, haccepts.node, haccepts.link⟩
      rw [neededDialect_eq_ok_iff h fun w hw => (haccepts.node w hw).mono fun _ _ => trivial]
      exact haccepts.needed
    · refine .inr ⟨?_, haccepts.node, fun w hw =>
        (haccepts.link w hw).mono fun _ hlink => ⟨fun _ _ => hlink.1, hlink.2⟩⟩
      rw [neededDialect_eq_ok_iff h fun w hw => (haccepts.node w hw).mono fun _ _ => trivial]
      exact ⟨haccepts.bodiless, fun w hw =>
        ⟨(haccepts.link w hw).mono fun _ hlink => hlink.1, haccepts.plain w hw⟩⟩

end DiagramGraph.Mermaid
