/-
DiagramGraph.Proofs.JsonRoundTrip — a document that was written is read
back.

Numbers are left aside: the documents of graphs hold names and texts
only.

  §1 Values    — `Textual depth v`: no numbers, no field twice, and not
                 more than `depth` containers inside each other.
  §2 Strings   — one written character is read back whatever follows it,
                 hence a string is.
  §3 Layout    — the line ends and indents between the parts are skipped,
                 and no part starts like one.
  §4 Parts     — `Reads depth v`: the text of the value is read as the
                 value and the rest is left. The bound on the number of
                 parts is never met: it is counted against the length of
                 the text.
  §5 Documents — `read_write`.
-/
import DiagramGraph.Json.Reader
import DiagramGraph.Json.Writer
import DiagramGraph.Proofs.TextTheorems
import Mathlib.Tactic.IntervalCases

namespace DiagramGraph.Json

open Text

/-! ## §1 Values -/

/-- A value made of names and texts, with at most `depth` containers
inside each other. -/
inductive Textual : Nat → Value → Prop
  | null {depth : Nat} : Textual depth .null
  | bool {depth : Nat} (b : Bool) : Textual depth (.bool b)
  | str {depth : Nat} (t : Text) : Textual depth (.str t)
  | arr {depth : Nat} {vs : List Value} (h : ∀ v ∈ vs, Textual depth v) :
      Textual (depth + 1) (.arr vs)
  | obj {depth : Nat} {fs : Fields} (hnames : (fs.map (·.1)).Nodup)
      (h : ∀ f ∈ fs, Textual depth f.2) : Textual (depth + 1) (.obj fs)

/-! ## §2 Strings -/

theorem hexQuad?_hex {n : Nat} (h : n < 0x20) (more : Text) :
    hexQuad? (hex 4 n ++ more) = some n := by
  interval_cases n <;> rfl

theorem length_hex {n : Nat} (h : n < 0x20) : (hex 4 n).length = 4 := by
  interval_cases n <;> rfl

/-- The escape of a control character. -/
theorem unicodeEscape_hex {c : Char} (h : c.toNat < 0x20) {more : Text} (hmore : more ≠ []) :
    unicodeEscape ('u' :: (hex 4 c.toNat ++ more)) = .ok (c, 5) := by
  have hlength : ¬ ('u' :: (hex 4 c.toNat ++ more)).length ≤ 5 := by
    have hpos : 0 < more.length := List.length_pos_iff.mpr hmore
    simp only [List.length_cons, List.length_append, length_hex h]
    omega
  have hchar : charOfCode c.toNat = c := by
    rw [charOfCode, if_neg (by omega), Char.ofNat_toNat]
  have hpair : ¬ (0xD800 ≤ c.toNat) := by omega
  simp only [unicodeEscape, if_neg hlength, List.drop_succ_cons, List.drop_zero, hexQuad?_hex h,
    hpair, false_and, if_false, hchar]

theorem readString_skip (opening more : Text) :
    ∀ skipped : Text, readString opening skipped.length (skipped ++ more) =
      readString opening 0 more
  | [] => rfl
  | _ :: skipped => readString_skip opening more skipped

/-- One written character is read back, whatever follows it. -/
theorem readString_writeChar (opening : Text) (c : Char) {more : Text} (hmore : more ≠ []) :
    readString opening 0 (writeChar c ++ more) =
      (readString opening 0 more).map (fun s => (c :: s.1, s.2)) := by
  unfold writeChar
  split_ifs with hquote hbackslash hlf hcr htab hbs hff hcontrol
  -- The escapes of one letter.
  iterate 7
    subst c
    rfl
  · have hescape : escape opening ('u' :: (hex 4 c.toNat ++ more)) = .ok (c, 5) :=
      unicodeEscape_hex hcontrol hmore
    have hskip := readString_skip opening more ('u' :: hex 4 c.toNat)
    rw [List.length_cons, length_hex hcontrol] at hskip
    show readString opening 0 ('\\' :: 'u' :: (hex 4 c.toNat ++ more)) = _
    rw [readString, if_neg (by decide), if_pos rfl, hescape]
    exact congrArg (Except.map (fun s => (c :: s.1, s.2))) hskip
  · show readString opening 0 (c :: more) = _
    rw [readString, if_neg hquote, if_neg hbackslash, if_neg hcontrol]

/-- A written string is read back. -/
theorem readString_writeString (opening rest : Text) : ∀ t : Text,
    readString opening 0 (t.flatMap writeChar ++ '"' :: rest) = .ok (t, rest)
  | [] => rfl
  | c :: t => by
      rw [List.flatMap_cons, List.append_assoc, readString_writeChar opening c (by simp),
        readString_writeString opening rest t]
      rfl

/-! ## §3 Layout -/

theorem skipSpace_eq_self {c : Char} (h : isSpace c = false) (t : Text) :
    skipSpace (c :: t) = c :: t := by
  rw [skipSpace, List.dropWhile_cons_of_neg (by simp [h])]

theorem skipSpace_newline (level : Nat) {c : Char} (h : isSpace c = false) (t : Text) :
    skipSpace (newline level ++ c :: t) = c :: t := by
  have hspaces : ∀ x ∈ newline level, isSpace x = true := by
    intro x hx
    rcases List.mem_cons.mp hx with rfl | hx
    · rfl
    · rw [List.eq_of_mem_replicate hx]
      rfl
  rw [skipSpace, List.dropWhile_append_of_pos hspaces]
  exact skipSpace_eq_self h t

theorem skipSpace_newline_writeString (level : Nat) (t more : Text) :
    skipSpace (newline level ++ (writeString t ++ more)) = writeString t ++ more :=
  skipSpace_newline level rfl _

/-- The characters that the text of a textual value can start with. -/
def openings : Text := "ntf\"[\x7b".toList

theorem openings_marks : ∀ c ∈ openings, isSpace c = false ∧ c ≠ ']' ∧ c ≠ '\uFEFF' := by
  have hall : openings.all (fun c => !isSpace c && (c != ']' && c != '\uFEFF')) = true := by decide
  intro c hc
  simpa using List.all_eq_true.mp hall c hc

theorem Textual.writeAt_eq_cons {depth : Nat} {v : Value} (h : Textual depth v) (level : Nat) :
    ∃ c ∈ openings, ∃ t, writeAt level v = c :: t := by
  cases h with
  | null => exact ⟨'n', by decide, _, rfl⟩
  | bool b => cases b with
    | true => exact ⟨'t', by decide, _, rfl⟩
    | false => exact ⟨'f', by decide, _, rfl⟩
  | str t => exact ⟨'"', by decide, _, rfl⟩
  | @arr _ vs _ => cases vs with
    | nil => exact ⟨'[', by decide, _, rfl⟩
    | cons v rest => exact ⟨'[', by decide, _, rfl⟩
  | @obj _ fs _ _ => cases fs with
    | nil => exact ⟨'\x7b', by decide, _, rfl⟩
    | cons f rest => exact ⟨'\x7b', by decide, _, rfl⟩

theorem Textual.skipSpace_newline {depth : Nat} {v : Value} (h : Textual depth v)
    (level level' : Nat) (more : Text) :
    skipSpace (newline level' ++ (writeAt level v ++ more)) = writeAt level v ++ more := by
  obtain ⟨c, hc, t, ht⟩ := h.writeAt_eq_cons level
  rw [ht, List.cons_append, Json.skipSpace_newline level' (openings_marks c hc).1]

/-- Nothing that is written holds a carriage return. -/
theorem not_mem_writeChar (c : Char) : '\r' ∉ writeChar c := by
  unfold writeChar
  split_ifs with _ _ _ hcr _ _ _ hcontrol
  iterate 7 decide
  · have hhex : ∀ n < 0x20, '\r' ∉ "\\u".toList ++ hex 4 n := by decide
    exact hhex _ hcontrol
  · simpa [eq_comm] using hcr

theorem not_mem_writeString (t : Text) : '\r' ∉ writeString t := by
  simp [writeString, not_mem_writeChar]

theorem not_mem_newline (level : Nat) : '\r' ∉ newline level := by
  simp [newline, List.mem_replicate]

theorem not_mem_writeItems {vs : List Value} {level : Nat}
    (h : ∀ v ∈ vs, '\r' ∉ writeAt (level + 1) v) : '\r' ∉ writeItems level vs := by
  induction vs with
  | nil => simp [writeItems, not_mem_newline]
  | cons v vs ih =>
    have hrest := ih (fun x hx => h x (List.mem_cons_of_mem v hx))
    simp [writeItems, not_mem_newline, h v List.mem_cons_self, hrest]

theorem not_mem_writeFields {fs : Fields} {level : Nat}
    (h : ∀ f ∈ fs, '\r' ∉ writeAt (level + 1) f.2) : '\r' ∉ writeFields level fs := by
  induction fs with
  | nil => simp [writeFields, not_mem_newline]
  | cons f fs ih =>
    have hrest := ih (fun x hx => h x (List.mem_cons_of_mem f hx))
    simp [writeFields, not_mem_newline, not_mem_writeString, h f List.mem_cons_self, hrest]

theorem Textual.not_mem_writeAt {depth : Nat} {v : Value} (h : Textual depth v) :
    ∀ level : Nat, '\r' ∉ writeAt level v := by
  induction h with
  | null => exact fun _ => by simp [writeAt]
  | bool b => exact fun _ => by cases b <;> simp [writeAt]
  | str t => exact fun _ => not_mem_writeString t
  | @arr _ vs _ ih =>
    intro level
    cases vs with
    | nil => simp [writeAt]
    | cons v vs =>
      have hrest := not_mem_writeItems (fun x hx => ih x (List.mem_cons_of_mem v hx) (level + 1))
      simp [writeAt, not_mem_newline, ih v List.mem_cons_self, hrest]
  | @obj _ fs _ _ ih =>
    intro level
    cases fs with
    | nil => simp [writeAt]
    | cons f fs =>
      have hrest := not_mem_writeFields (fun x hx => ih x (List.mem_cons_of_mem f hx) (level + 1))
      simp [writeAt, not_mem_newline, not_mem_writeString, ih f List.mem_cons_self, hrest]

/-! ## §4 Parts -/

/-- The text of the value is read as the value, whatever follows it. -/
def Reads (depth : Nat) (v : Value) : Prop :=
  ∀ (fuel level : Nat) (rest : Text), (writeAt level v).length ≤ fuel →
    readValue fuel depth (writeAt level v ++ rest) = .ok (v, rest)

theorem readAtom_null (rest : Text) : readAtom ("null".toList ++ rest) = .ok (.null, rest) := by
  rfl

theorem readAtom_bool (b : Bool) (rest : Text) :
    readAtom ((if b then "true".toList else "false".toList) ++ rest) = .ok (.bool b, rest) := by
  cases b <;> rfl

theorem reads_null (depth : Nat) : Reads depth .null := by
  rintro (_ | fuel) level rest hfuel
  · exact absurd hfuel (Nat.not_succ_le_zero _)
  · exact readAtom_null rest

theorem reads_bool (depth : Nat) (b : Bool) : Reads depth (.bool b) := by
  rintro (_ | fuel) level rest hfuel
  · cases b <;> exact absurd hfuel (Nat.not_succ_le_zero _)
  · cases b
    · exact readAtom_bool false rest
    · exact readAtom_bool true rest

theorem reads_str (depth : Nat) (t : Text) : Reads depth (.str t) := by
  rintro (_ | fuel) level rest hfuel
  · exact absurd hfuel (Nat.not_succ_le_zero _)
  · have htext : writeAt level (.str t) ++ rest = '"' :: (t.flatMap writeChar ++ '"' :: rest) := by
      simp [writeAt, writeString]
    rw [htext, readValue, if_pos rfl, readString_writeString]
    rfl

/-- The items of an array from one of them on. -/
theorem readItems_writeItems {depth : Nat} : ∀ {vs : List Value} {v : Value},
    (∀ x ∈ v :: vs, Textual depth x ∧ Reads depth x) →
    ∀ (fuel level : Nat) (rest : Text),
      (writeAt (level + 1) v ++ writeItems level vs).length ≤ fuel →
      readItems fuel depth (writeAt (level + 1) v ++ (writeItems level vs ++ rest)) =
        .ok (.arr (v :: vs), rest) := by
  intro vs
  induction vs with
  | nil =>
    intro v h fuel level rest hfuel
    simp only [writeItems, List.length_append, newline, List.length_cons] at hfuel
    obtain ⟨fuel, rfl⟩ : ∃ n, fuel = n + 1 := ⟨fuel - 1, by omega⟩
    have hread := (h v List.mem_cons_self).2 fuel (level + 1) (writeItems level [] ++ rest)
      (by omega)
    have hskip : skipSpace (writeItems level [] ++ rest) = ']' :: rest := by
      rw [writeItems, List.append_assoc]
      exact skipSpace_newline level rfl rest
    rw [readItems, hread]
    simp only [hskip]
  | cons w vs ih =>
    intro v h fuel level rest hfuel
    simp only [writeItems, List.length_append, newline, List.length_cons] at hfuel
    obtain ⟨fuel, rfl⟩ : ∃ n, fuel = n + 1 := ⟨fuel - 1, by omega⟩
    have hread := (h v List.mem_cons_self).2 fuel (level + 1) (writeItems level (w :: vs) ++ rest)
      (by omega)
    have hskip : skipSpace (writeItems level (w :: vs) ++ rest) =
        ',' :: (newline (level + 1) ++
          (writeAt (level + 1) w ++ (writeItems level vs ++ rest))) := by
      rw [writeItems]
      simp only [List.cons_append, List.append_assoc]
      exact skipSpace_eq_self rfl _
    have hnext := ih (fun x hx => h x (List.mem_cons_of_mem v hx)) fuel level rest
      (by simp only [List.length_append]; omega)
    have htextual := (h w (by simp)).1
    rw [readItems, hread]
    simp only [hskip, htextual.skipSpace_newline, hnext]

theorem put_eq_append {fs : Fields} {key : Text} (h : key ∉ fs.map (·.1)) (v : Value) :
    fs.put key v = fs ++ [(key, v)] := by
  rw [Fields.put, if_neg]
  intro hany
  obtain ⟨f, hf, hkey⟩ := List.any_eq_true.mp hany
  exact h (List.mem_map.mpr ⟨f, hf, of_decide_eq_true hkey⟩)

theorem not_mem_of_nodup_names {done fs : Fields} {f : Text × Value}
    (h : ((done ++ f :: fs).map (·.1)).Nodup) : f.1 ∉ done.map (·.1) := by
  rw [List.map_append, List.map_cons] at h
  exact fun hmem => (List.nodup_append.mp h).2.2 _ hmem _ List.mem_cons_self rfl

/-- Reading goes on after a field: the object ends, or the next field follows. -/
def afterField (fuel depth : Nat) (done : Fields) : Text → Except Stop (Value × Text)
  | '\x7d' :: rest => .ok (.obj done, rest)
  | ',' :: rest => readFields fuel depth done (skipSpace rest)
  | other => .error (.fault .expectedComma other)

/-- One field is read, and then what stands after it. -/
theorem readFields_field {depth : Nat} {v : Value} (htextual : Textual depth v)
    (hreads : Reads depth v) {key : Text} {done : Fields} (hnew : key ∉ done.map (·.1))
    {fuel level : Nat} (hfuel : (writeAt level v).length ≤ fuel) (more : Text) :
    readFields (fuel + 1) depth done
        (writeString key ++ (": ".toList ++ (writeAt level v ++ more))) =
      afterField fuel depth (done ++ [(key, v)]) (skipSpace more) := by
  have htext : writeString key ++ (": ".toList ++ (writeAt level v ++ more)) =
      '"' :: (key.flatMap writeChar ++ '"' :: ':' :: ' ' :: (writeAt level v ++ more)) := by
    simp [writeString]
  have hskip : skipSpace (' ' :: (writeAt level v ++ more)) = writeAt level v ++ more := by
    obtain ⟨c, hc, t, ht⟩ := htextual.writeAt_eq_cons level
    rw [ht]
    exact skipSpace_eq_self (openings_marks c hc).1 _
  rw [htext, readFields, readString_writeString]
  simp only [skipSpace_eq_self (show isSpace ':' = false from rfl), hskip,
    hreads fuel level more hfuel, put_eq_append hnew]
  rfl

/-- The fields of an object from one of them on. -/
theorem readFields_writeFields {depth : Nat} : ∀ {fs : Fields} {f : Text × Value} (done : Fields),
    (∀ x ∈ f :: fs, Textual depth x.2 ∧ Reads depth x.2) →
    ((done ++ f :: fs).map (·.1)).Nodup →
    ∀ (fuel level : Nat) (rest : Text),
      (writeAt (level + 1) f.2 ++ writeFields level fs).length ≤ fuel →
      readFields fuel depth done (writeString f.1 ++ (": ".toList ++ (writeAt (level + 1) f.2 ++
        (writeFields level fs ++ rest)))) = .ok (.obj (done ++ f :: fs), rest) := by
  intro fs
  induction fs with
  | nil =>
    intro f done h hnames fuel level rest hfuel
    simp only [writeFields, List.length_append, newline, List.length_cons] at hfuel
    obtain ⟨fuel, rfl⟩ : ∃ n, fuel = n + 1 := ⟨fuel - 1, by omega⟩
    obtain ⟨htextual, hreads⟩ := h f List.mem_cons_self
    have hnew := not_mem_of_nodup_names hnames
    have hskip : skipSpace (writeFields level [] ++ rest) = '\x7d' :: rest := by
      rw [writeFields, List.append_assoc]
      exact skipSpace_newline level rfl rest
    rw [readFields_field htextual hreads hnew (by omega), hskip]
    rfl
  | cons g fs ih =>
    intro f done h hnames fuel level rest hfuel
    simp only [writeFields, List.length_append, newline, List.length_cons] at hfuel
    obtain ⟨fuel, rfl⟩ : ∃ n, fuel = n + 1 := ⟨fuel - 1, by omega⟩
    obtain ⟨htextual, hreads⟩ := h f List.mem_cons_self
    have hnew := not_mem_of_nodup_names hnames
    have hskip : skipSpace (writeFields level (g :: fs) ++ rest) =
        ',' :: (newline (level + 1) ++ (writeString g.1 ++ (": ".toList ++
          (writeAt (level + 1) g.2 ++ (writeFields level fs ++ rest))))) := by
      rw [writeFields]
      simp only [List.cons_append, List.append_assoc]
      exact skipSpace_eq_self rfl _
    have hnext := ih (done ++ [f]) (fun x hx => h x (List.mem_cons_of_mem f hx))
      (by simpa using hnames) fuel level rest (by simp only [List.length_append]; omega)
    rw [readFields_field htextual hreads hnew (by omega), hskip]
    simp only [afterField, skipSpace_newline_writeString, hnext, List.append_assoc, List.cons_append,
      List.nil_append]

theorem reads_arr {depth : Nat} {vs : List Value} (h : ∀ v ∈ vs, Textual depth v ∧ Reads depth v) :
    Reads (depth + 1) (.arr vs) := by
  rintro (_ | fuel) level rest hfuel
  · cases vs <;> exact absurd hfuel (Nat.not_succ_le_zero _)
  cases vs with
  | nil => rfl
  | cons v vs =>
    obtain ⟨c, hc, t, ht⟩ := (h v List.mem_cons_self).1.writeAt_eq_cons (level + 1)
    have hitems := readItems_writeItems h fuel level rest (by
      simp only [writeAt, List.length_append, List.length_cons] at hfuel ⊢
      omega)
    have htext : writeAt level (.arr (v :: vs)) ++ rest =
        '[' :: (newline (level + 1) ++
          (writeAt (level + 1) v ++ (writeItems level vs ++ rest))) := by
      simp [writeAt]
    rw [htext, readValue, if_neg (by decide), if_neg (by decide), if_pos rfl,
      if_neg (Nat.succ_ne_zero depth), (h v List.mem_cons_self).1.skipSpace_newline]
    rw [ht, List.cons_append] at hitems ⊢
    split
    · next hclose =>
      exact absurd (List.cons.inj hclose).1 (openings_marks c hc).2.1
    · exact hitems

theorem reads_obj {depth : Nat} {fs : Fields} (hnames : (fs.map (·.1)).Nodup)
    (h : ∀ f ∈ fs, Textual depth f.2 ∧ Reads depth f.2) : Reads (depth + 1) (.obj fs) := by
  rintro (_ | fuel) level rest hfuel
  · cases fs <;> exact absurd hfuel (Nat.not_succ_le_zero _)
  cases fs with
  | nil => rfl
  | cons f fs =>
    have hfields := readFields_writeFields [] h hnames fuel level rest (by
      simp only [writeAt, List.length_append, List.length_cons] at hfuel ⊢
      omega)
    have htext : writeAt level (.obj (f :: fs)) ++ rest =
        '\x7b' :: (newline (level + 1) ++ (writeString f.1 ++ (": ".toList ++
          (writeAt (level + 1) f.2 ++ (writeFields level fs ++ rest))))) := by
      simp [writeAt]
    rw [htext, readValue, if_neg (by decide), if_pos rfl, if_neg (Nat.succ_ne_zero depth),
      skipSpace_newline_writeString]
    exact hfields

/-- The text of a textual value is read back. -/
theorem Textual.reads {depth : Nat} {v : Value} (h : Textual depth v) : Reads depth v := by
  induction h with
  | null => exact reads_null _
  | bool b => exact reads_bool _ b
  | str t => exact reads_str _ t
  | arr h ih => exact reads_arr (fun v hv => ⟨h v hv, ih v hv⟩)
  | obj hnames h ih => exact reads_obj hnames (fun f hf => ⟨h f hf, ih f hf⟩)

/-! ## §5 Documents -/

/-- A written document is read back, also with white space after it. -/
theorem read_write {v : Value} (h : Textual maxDepth v) {pad : Text}
    (hpad : pad.all isSpace = true) : read (write v ++ pad) = .ok v := by
  obtain ⟨c, hc, t, ht⟩ := h.writeAt_eq_cons 0
  have hread := h.reads (2 * (write v ++ pad).length + 2) 0 pad (by
    simp only [write, List.length_append]
    omega)
  have hmark : (write v ++ pad).head? ≠ some '\uFEFF' := by
    rw [write, ht]
    simpa using (openings_marks c hc).2.2
  have hstart : skipSpace (write v ++ pad) = write v ++ pad := by
    rw [write, ht]
    exact skipSpace_eq_self (openings_marks c hc).1 _
  have hend : skipSpace pad = [] :=
    List.dropWhile_eq_nil_iff.mpr (List.all_eq_true.mp hpad)
  have hdocument : readDocument (write v ++ pad) = .ok v := by
    rw [readDocument, if_neg hmark, hstart]
    rw [← write] at hread
    simp only [hread, hend]
  rw [read, hdocument]

end DiagramGraph.Json
