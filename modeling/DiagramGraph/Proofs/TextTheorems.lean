/-
DiagramGraph.Proofs.TextTheorems — the laws of trimming, squeezing and
searching text.

  §1 Blanks and words  — no blank is a word character; `IsName`, a
                         non-empty run of word characters, and what the
                         scanners make of one.
  §2 Trimming          — a text is its own trimming exactly when no
                         blank stands at either end (`trim_eq_self_iff`).
  §3 Squeezing         — squeezing a second time changes nothing
                         (`squeeze_squeeze`); a squeezed text is trimmed
                         and its only blank is the space.
  §4 Searching         — `cutAt` and `cut` land on the first occurrence.
  §5 Lines             — the lines of a text are trimmed and hold no line
                         end.

The printers put names and blanks around everything they write, so the
round trips and the invariants of the readers rest on these facts and
open none of the scanners again.
-/
import DiagramGraph.Text.Lines
import DiagramGraph.Text.Word
import Mathlib.Data.List.TakeWhile
import Mathlib.Tactic.MkIffOfInductiveProp

namespace DiagramGraph.Text

/-! ## §1 Blanks and words -/

/-- No blank is a word character. The ASCII range is checked point by
point, beyond it only the nineteen wide blanks are. -/
theorem isWord_eq_false_of_isBlank {c : Char} (h : isBlank c = true) : isWord c = false := by
  by_cases hc : c.toNat < 128
  · have hall : ∀ n < 128, isBlank (Char.ofNat n) = true → isWord (Char.ofNat n) = false := by
      decide +kernel
    have hpoint := hall c.toNat hc
    rw [Char.ofNat_toNat] at hpoint
    exact hpoint h
  · have hall : ∀ n ∈ wideBlanks, inRanges wideLetters n = false := by decide +kernel
    simp only [isBlank, hc, if_false] at h
    simp only [isWord, hc, if_false]
    exact hall _ (by simpa using h)

theorem isBlank_eq_false_of_isWord {c : Char} (h : isWord c = true) : isBlank c = false := by
  cases hb : isBlank c with
  | false => rfl
  | true => rw [isWord_eq_false_of_isBlank hb] at h; exact absurd h (by decide)

/-- What holds of each character of a text, checked one by one. -/
theorem forall_mem_of_all {p : Char → Prop} [DecidablePred p] {t : Text}
    (h : t.all (fun c => decide (p c)) = true) : ∀ c ∈ t, p c :=
  fun c hc => of_decide_eq_true (List.all_eq_true.mp h c hc)

/-- A name: a non-empty run of word characters. -/
@[mk_iff] structure IsName (t : Text) : Prop where
  ne_nil : t ≠ []
  isWord : ∀ c ∈ t, isWord c = true

instance (t : Text) : Decidable (IsName t) :=
  decidable_of_iff (t ≠ [] ∧ t.all isWord = true) (by rw [isName_iff, List.all_eq_true])

namespace IsName

variable {t rest : Text}

theorem isBlank (h : IsName t) : ∀ c ∈ t, Text.isBlank c = false :=
  fun c hc => isBlank_eq_false_of_isWord (h.isWord c hc)

/-- A character that is no word character does not stand in a name. -/
theorem not_mem (h : IsName t) {c : Char} (hc : Text.isWord c = false) : c ∉ t := by
  intro hm
  rw [h.isWord c hm] at hc
  exact absurd hc (by decide)

/-- A name has a first character, and it is a word character. -/
theorem exists_cons (h : IsName t) : ∃ c u, t = c :: u ∧ Text.isWord c = true := by
  cases ht : t with
  | nil => exact absurd ht h.ne_nil
  | cons c u => exact ⟨c, u, rfl, h.isWord c (by simp [ht])⟩

/-- The scanner of word characters takes a name and stops after it. -/
theorem takeWhile_append (h : IsName t) (hr : ∀ c ∈ rest.head?, Text.isWord c = false) :
    (t ++ rest).takeWhile Text.isWord = t := by
  rw [List.takeWhile_append_of_pos h.isWord]
  cases rest with
  | nil => simp
  | cons c r => simp [hr c (by simp)]

theorem dropWhile_append (h : IsName t) (hr : ∀ c ∈ rest.head?, Text.isWord c = false) :
    (t ++ rest).dropWhile Text.isWord = rest := by
  rw [List.dropWhile_append_of_pos h.isWord]
  cases rest with
  | nil => simp
  | cons c r => simp [hr c (by simp)]

theorem takeWhile_self (h : IsName t) : t.takeWhile Text.isWord = t :=
  List.takeWhile_eq_self_iff.mpr h.isWord

theorem dropWhile_self (h : IsName t) : t.dropWhile Text.isWord = [] :=
  List.dropWhile_eq_nil_iff.mpr h.isWord

end IsName

/-- What the scanner of word characters takes is a name, if it is anything. -/
theorem isName_takeWhile {t : Text} (h : t.takeWhile isWord ≠ []) : IsName (t.takeWhile isWord) :=
  ⟨h, fun c hc => List.all_eq_true.mp List.all_takeWhile c hc⟩

/-- A text with a space in it is no identifier. -/
theorem isIdentifier_eq_false {t : Text} (h : ' ' ∈ t) : isIdentifier t = false := by
  have hmem : ' ' ∈ dropFinalNewline t := by
    unfold dropFinalNewline
    split
    · next hlast =>
      obtain ⟨u, rfl⟩ := List.getLast?_eq_some_iff.mp hlast
      simpa using h
    · exact h
  have hall : (dropFinalNewline t).all isWord = false :=
    List.all_eq_false.mpr ⟨' ', hmem, by decide⟩
  rw [isIdentifier, hall, Bool.and_false]

/-- An identifier is a name, unless a line feed ends it. -/
theorem isName_of_isIdentifier {t : Text} (h : isIdentifier t = true) (hline : '\n' ∉ t) :
    IsName t := by
  have hdrop : dropFinalNewline t = t :=
    if_neg fun hlast => hline (List.mem_of_getLast? hlast)
  simp only [isIdentifier, hdrop, Bool.and_eq_true, Bool.not_eq_true', List.isEmpty_eq_false_iff,
    List.all_eq_true] at h
  exact ⟨h.1, h.2⟩

theorem IsName.isIdentifier {t : Text} (h : IsName t) : isIdentifier t = true := by
  have hdrop : dropFinalNewline t = t := by
    refine if_neg fun hlast => h.not_mem (c := '\n') (by decide) (List.mem_of_getLast? hlast)
  rw [Text.isIdentifier, hdrop, List.all_eq_true.mpr h.isWord]
  simpa using h.ne_nil

/-! ## §2 Trimming -/

/-- A text without blanks at its ends. -/
def Trimmed (t : Text) : Prop := trim t = t

instance (t : Text) : Decidable (Trimmed t) := inferInstanceAs (Decidable (trim t = t))

theorem trimStart_eq_self {t : Text} (h : ∀ c ∈ t.head?, isBlank c = false) : trimStart t = t := by
  cases t with
  | nil => rfl
  | cons c t => simp [trimStart, h c (by simp)]

theorem trimEnd_eq_self {t : Text} (h : ∀ c ∈ t.getLast?, isBlank c = false) : trimEnd t = t := by
  have hrev : trimStart t.reverse = t.reverse := by
    apply trimStart_eq_self
    simpa using h
  rw [trimEnd, ← trimStart, hrev, List.reverse_reverse]

/-- Blanks before a text do not matter to its trimming. -/
theorem trimStart_append {pad : Text} (hp : pad.all isBlank = true) (t : Text) :
    trimStart (pad ++ t) = trimStart t :=
  List.dropWhile_append_of_pos (List.all_eq_true.mp hp)

theorem trim_append {pad : Text} (hp : pad.all isBlank = true) (t : Text) :
    trim (pad ++ t) = trim t := by
  rw [trim, trimStart_append hp, ← trim]

theorem trim_space_cons (t : Text) : trim (' ' :: t) = trim t := by
  rw [← List.singleton_append, trim_append (by decide)]

/-- Trimming the end of a text trims its second part, unless nothing is
left of that. -/
theorem trimEnd_append (a b : Text) :
    trimEnd (a ++ b) = if (trimEnd b).isEmpty then trimEnd a else a ++ trimEnd b := by
  simp only [trimEnd, List.reverse_append, List.dropWhile_append, List.isEmpty_reverse]
  split <;> simp

/-- Nothing is left of blanks. -/
theorem trimEnd_of_isBlank {pad : Text} (hp : pad.all isBlank = true) : trimEnd pad = [] := by
  have hnil : pad.reverse.dropWhile isBlank = [] :=
    List.dropWhile_eq_nil_iff.mpr fun c hc => List.all_eq_true.mp hp c (List.mem_reverse.mp hc)
  rw [trimEnd, hnil]
  rfl

/-- Blanks after a text do not matter to its trimming either. -/
theorem trim_append_blanks {pad : Text} (hp : pad.all isBlank = true) (t : Text) :
    trim (t ++ pad) = trim t := by
  have hpad : trimStart pad = [] := List.dropWhile_eq_nil_iff.mpr (List.all_eq_true.mp hp)
  have hstart : trimStart (t ++ pad) =
      if (trimStart t).isEmpty then trimStart pad else trimStart t ++ pad := List.dropWhile_append
  rw [trim, trim, hstart]
  split
  · next h => rw [hpad, List.isEmpty_iff.mp h]
  · rw [trimEnd_append, trimEnd_of_isBlank hp]
    rfl

theorem trimEnd_cons {c : Char} (hc : isBlank c = false) (t : Text) :
    trimEnd (c :: t) = c :: trimEnd t := by
  have hone : trimEnd [c] = [c] := trimEnd_eq_self (by simp [hc])
  rw [show c :: t = [c] ++ t from rfl, trimEnd_append, hone]
  split
  · next h => simp [List.isEmpty_iff.mp h]
  · rfl

/-- Trimming the end leaves a beginning of the text. -/
theorem prefix_trimEnd (t : Text) : trimEnd t <+: t := by
  obtain ⟨s, hs⟩ := List.dropWhile_suffix (l := t.reverse) isBlank
  refine ⟨s.reverse, ?_⟩
  rw [trimEnd, ← List.reverse_append, hs, List.reverse_reverse]

theorem head?_trimStart (t : Text) : ∀ c ∈ (trimStart t).head?, isBlank c = false := by
  intro c hc
  have h := List.head?_dropWhile_not isBlank t
  rw [show List.dropWhile isBlank t = trimStart t from rfl, Option.mem_def.mp hc] at h
  exact h

theorem getLast?_trimEnd (t : Text) : ∀ c ∈ (trimEnd t).getLast?, isBlank c = false := by
  intro c hc
  rw [trimEnd, List.getLast?_reverse] at hc
  exact head?_trimStart t.reverse c hc

theorem head?_trim (t : Text) : ∀ c ∈ (trim t).head?, isBlank c = false := by
  intro c hc
  obtain ⟨s, hs⟩ := prefix_trimEnd (trimStart t)
  apply head?_trimStart t
  rw [← hs, List.head?_append, show trimEnd (trimStart t) = trim t from rfl, Option.mem_def.mp hc]
  rfl

/-- A text is its own trimming exactly when no blank stands at either end. -/
theorem trim_eq_self_iff {t : Text} :
    trim t = t ↔
      (∀ c ∈ t.head?, isBlank c = false) ∧ (∀ c ∈ t.getLast?, isBlank c = false) := by
  constructor
  · intro h
    refine ⟨fun c hc => head?_trim t c (h.symm ▸ hc), fun c hc => ?_⟩
    exact getLast?_trimEnd (trimStart t) c (show c ∈ (trim t).getLast? from h.symm ▸ hc)
  · rintro ⟨hh, hl⟩
    rw [trim, trimStart_eq_self hh, trimEnd_eq_self hl]

theorem trimmed_trim (t : Text) : Trimmed (trim t) :=
  trim_eq_self_iff.mpr ⟨head?_trim t, getLast?_trimEnd (trimStart t)⟩

/-- Trimming takes an indentation off again. -/
theorem map_trim_map_append {pad : Text} (hp : pad.all isBlank = true) {lines : List Text}
    (h : ∀ line ∈ lines, Trimmed line) : (lines.map (pad ++ ·)).map trim = lines := by
  rw [List.map_map]
  refine (List.map_congr_left fun line hline => ?_).trans (List.map_id' lines)
  rw [Function.comp_apply, trim_append hp]
  exact h line hline

/-- A text between two trimmed ones does not matter. -/
theorem Trimmed.append {a b : Text} (ha : Trimmed a) (ha' : a ≠ []) (hb : Trimmed b) (hb' : b ≠ [])
    (between : Text) : Trimmed (a ++ (between ++ b)) := by
  refine trim_eq_self_iff.mpr ⟨fun c hc => ?_, fun c hc => ?_⟩
  · refine (trim_eq_self_iff.mp ha).1 c ?_
    rw [List.head?_append, List.head?_eq_some_head ha'] at hc
    rw [List.head?_eq_some_head ha']
    simpa using hc
  · refine (trim_eq_self_iff.mp hb).2 c ?_
    rw [List.getLast?_append, List.getLast?_append, List.getLast?_eq_some_getLast hb'] at hc
    rw [List.getLast?_eq_some_getLast hb']
    simpa using hc

/-- Trimming invents no characters. -/
theorem mem_of_mem_trim {t : Text} {c : Char} (h : c ∈ trim t) : c ∈ t :=
  (List.dropWhile_sublist isBlank).subset ((prefix_trimEnd (trimStart t)).subset h)

/-- Trimming the end takes blanks off it. -/
theorem exists_trimStart_eq (t : Text) : ∃ pad, trimStart t = trim t ++ pad ∧
    pad.all isBlank = true := by
  refine ⟨((trimStart t).reverse.takeWhile isBlank).reverse, ?_, ?_⟩
  · rw [trim, trimEnd, ← List.reverse_append, List.takeWhile_append_dropWhile, List.reverse_reverse]
  · rw [List.all_reverse]
    exact List.all_takeWhile

/-- Trimming takes blanks off both ends. -/
theorem exists_pads_trim (t : Text) : ∃ before after, t = before ++ (trim t ++ after) ∧
    before.all isBlank = true ∧ after.all isBlank = true := by
  obtain ⟨after, hafter, hblank⟩ := exists_trimStart_eq t
  refine ⟨t.takeWhile isBlank, after, ?_, List.all_takeWhile, hblank⟩
  rw [← hafter, trimStart, List.takeWhile_append_dropWhile]

/-- A trimmed identifier is a name. -/
theorem isName_of_isIdentifier_trim {t : Text} (h : isIdentifier (trim t) = true) :
    IsName (trim t) := by
  have hdrop : dropFinalNewline (trim t) = trim t := by
    refine if_neg fun hlast => ?_
    exact absurd (getLast?_trimEnd (trimStart t) '\n' hlast) (by decide)
  simp only [isIdentifier, hdrop, Bool.and_eq_true, Bool.not_eq_true', List.isEmpty_eq_false_iff,
    List.all_eq_true] at h
  exact ⟨h.1, h.2⟩

/-- A text without blanks is trimmed. -/
theorem trimmed_of_isBlank {t : Text} (h : ∀ c ∈ t, isBlank c = false) : Trimmed t :=
  trim_eq_self_iff.mpr ⟨fun c hc => h c (List.mem_of_mem_head? hc),
    fun c hc => h c (List.mem_of_mem_getLast? hc)⟩

theorem IsName.trimmed {t : Text} (h : IsName t) : Trimmed t := trimmed_of_isBlank h.isBlank

/-- Blanks after a name are trimmed away. -/
theorem IsName.trim_append {t pad : Text} (h : IsName t) (hp : pad.all Text.isBlank = true) :
    trim (t ++ pad) = t := by
  rw [trim_append_blanks hp, h.trimmed]

/-! ## §3 Squeezing -/

/-- A text in which words stand with one space between each two. -/
def Squeezed (t : Text) : Prop := squeeze t = t

instance (t : Text) : Decidable (Squeezed t) := inferInstanceAs (Decidable (squeeze t = t))

/-- The pieces of a split hold characters of the text, and none of those
that were split at. -/
theorem mem_and_eq_false_of_mem_splitOnP (p : Char → Bool) (t : Text) :
    ∀ w ∈ t.splitOnP p, ∀ c ∈ w, c ∈ t ∧ p c = false := by
  induction t with
  | nil => simp
  | cons x t ih =>
    rw [List.splitOnP_cons_eq_if_modifyHead]
    cases hx : p x with
    | true =>
      simp only [if_true, List.mem_cons, forall_eq_or_imp]
      exact ⟨by simp, fun w hw c hc => ⟨.inr (ih w hw c hc).1, (ih w hw c hc).2⟩⟩
    | false =>
      cases hs : t.splitOnP p with
      | nil => exact absurd hs (List.splitOnP_ne_nil _ t)
      | cons piece others =>
        simp only [hs, List.mem_cons, forall_eq_or_imp] at ih
        simp only [Bool.false_eq_true, if_false, List.modifyHead_cons, List.mem_cons,
          forall_eq_or_imp]
        refine ⟨⟨⟨.inl trivial, hx⟩, fun c hc => ⟨.inr (ih.1 c hc).1, (ih.1 c hc).2⟩⟩, ?_⟩
        exact fun w hw c hc => ⟨.inr (ih.2 w hw c hc).1, (ih.2 w hw c hc).2⟩

/-- A word is not empty and has no blank in it. -/
theorem ne_nil_and_isBlank_of_mem_words {t w : Text} (h : w ∈ words t) :
    w ≠ [] ∧ ∀ c ∈ w, isBlank c = false := by
  obtain ⟨hw, hne⟩ := List.mem_filter.mp h
  exact ⟨by simpa using hne, fun c hc => (mem_and_eq_false_of_mem_splitOnP isBlank t w hw c hc).2⟩

/-- The words on both sides of a blank are found apart. -/
theorem words_append_blank {c : Char} (hc : isBlank c = true) (a b : Text) :
    words (a ++ c :: b) = words a ++ words b := by
  rw [words, List.splitOnP_append_cons a b hc, List.filter_append, ← words, ← words]

theorem words_eq_singleton {w : Text} (hne : w ≠ []) (h : ∀ c ∈ w, isBlank c = false) :
    words w = [w] := by
  rw [words, List.splitOnP_eq_singleton h]
  simp [hne]

/-- Words put together with spaces are read back. -/
theorem words_intercalate : ∀ {ws : List Text},
    (∀ w ∈ ws, w ≠ [] ∧ ∀ c ∈ w, isBlank c = false) → words ([' '].intercalate ws) = ws
  | [], _ => by simp [words]
  | [w], h => by
      obtain ⟨hne, hw⟩ := h w (by simp)
      rw [List.intercalate_singleton]
      exact words_eq_singleton hne hw
  | w :: v :: ws, h => by
      obtain ⟨hne, hw⟩ := h w (by simp)
      rw [List.intercalate_cons_cons, List.append_assoc, List.singleton_append,
        words_append_blank (by decide), words_eq_singleton hne hw,
        words_intercalate (fun u hu => h u (by simp [hu]))]
      rfl

/-- Squeezing a second time changes nothing. -/
theorem squeeze_squeeze (t : Text) : squeeze (squeeze t) = squeeze t := by
  rw [squeeze, squeeze, words_intercalate fun w hw => ne_nil_and_isBlank_of_mem_words hw]

theorem squeezed_of_isBlank {t : Text} (h : ∀ c ∈ t, isBlank c = false) : Squeezed t := by
  by_cases ht : t = []
  · subst ht; rfl
  · rw [Squeezed, squeeze, words_eq_singleton ht h, List.intercalate_singleton]

theorem IsName.squeezed {t : Text} (h : IsName t) : Squeezed t := squeezed_of_isBlank h.isBlank

/-- Words put together with spaces have no blank at either end. -/
theorem trimmed_intercalate : ∀ {ws : List Text},
    (∀ w ∈ ws, w ≠ [] ∧ ∀ c ∈ w, isBlank c = false) → Trimmed ([' '].intercalate ws)
  | [], _ => rfl
  | [w], h => by
      rw [List.intercalate_singleton]
      exact trimmed_of_isBlank (h w (by simp)).2
  | w :: v :: ws, h => by
      obtain ⟨hne, hw⟩ := h w (by simp)
      have hrest : Trimmed ([' '].intercalate (v :: ws)) :=
        trimmed_intercalate fun u hu => h u (List.mem_cons_of_mem w hu)
      have hne' : [' '].intercalate (v :: ws) ≠ [] := by
        cases ws with
        | nil => simpa using (h v (by simp)).1
        | cons u us => simp [List.intercalate_cons_cons]
      rw [List.intercalate_cons_cons, List.append_assoc]
      exact (trimmed_of_isBlank hw).append hne hrest hne' [' ']

theorem Squeezed.trimmed {t : Text} (h : Squeezed t) : Trimmed t := by
  rw [← h]
  exact trimmed_intercalate fun w hw => ne_nil_and_isBlank_of_mem_words hw

theorem mem_intercalate {sep : Text} : ∀ {ws : List Text} {c : Char},
    c ∈ sep.intercalate ws → c ∈ sep ∨ ∃ w ∈ ws, c ∈ w
  | [], c, h => by simp at h
  | [w], c, h => by simpa using Or.inr h
  | w :: v :: ws, c, h => by
      rw [List.intercalate_cons_cons, List.mem_append, List.mem_append] at h
      rcases h with (h | h) | h
      · exact .inr ⟨w, by simp, h⟩
      · exact .inl h
      · rcases mem_intercalate h with h | ⟨u, hu, hc⟩
        · exact .inl h
        · exact .inr ⟨u, by simp [hu], hc⟩

/-- The only blank of a squeezed text is the space. -/
theorem Squeezed.eq_space {t : Text} (h : Squeezed t) {c : Char} (hc : c ∈ t)
    (hb : isBlank c = true) : c = ' ' := by
  rw [← h] at hc
  rcases mem_intercalate hc with hspace | ⟨w, hw, hcw⟩
  · exact List.mem_singleton.mp hspace
  · rw [(ne_nil_and_isBlank_of_mem_words hw).2 c hcw] at hb
    exact absurd hb (by decide)

/-- A text without line ends. -/
def OneLine (t : Text) : Prop := '\n' ∉ t ∧ '\r' ∉ t

instance (t : Text) : Decidable (OneLine t) := inferInstanceAs (Decidable (_ ∧ _))

@[simp] theorem oneLine_append {a b : Text} : OneLine (a ++ b) ↔ OneLine a ∧ OneLine b := by
  simp only [OneLine, List.mem_append, not_or]
  exact and_and_and_comm

theorem oneLine_cons {c : Char} {t : Text} : OneLine (c :: t) ↔ OneLine [c] ∧ OneLine t :=
  oneLine_append (a := [c])

theorem OneLine.of_subset {a b : Text} (hb : OneLine b) (h : ∀ c ∈ a, c ∈ b) : OneLine a :=
  ⟨fun hm => hb.1 (h _ hm), fun hm => hb.2 (h _ hm)⟩

theorem oneLine_intercalate {sep : Text} (hsep : OneLine sep) : ∀ {lines : List Text},
    (∀ line ∈ lines, OneLine line) → OneLine (sep.intercalate lines)
  | [], _ => by simp [OneLine]
  | [t], h => by simpa using h
  | t :: u :: lines, h => by
      have hrest : OneLine (sep.intercalate (u :: lines)) :=
        oneLine_intercalate hsep fun line hline => h line (List.mem_cons_of_mem t hline)
      rw [List.intercalate_cons_cons]
      exact oneLine_append.mpr ⟨oneLine_append.mpr ⟨h t (by simp), hsep⟩, hrest⟩

theorem IsName.oneLine {t : Text} (h : IsName t) : OneLine t :=
  ⟨h.not_mem (by decide), h.not_mem (by decide)⟩

/-- A squeezed text stays in its line. -/
theorem Squeezed.oneLine {t : Text} (h : Squeezed t) : OneLine t :=
  ⟨fun hm => absurd (h.eq_space hm (by decide)) (by decide),
    fun hm => absurd (h.eq_space hm (by decide)) (by decide)⟩

/-! ## §4 Searching -/

/-- A piece without the mark that begins a text ends before the mark. -/
theorem prefix_of_prefix_append_cons {x : Char} : ∀ {s u v : Text},
    x ∉ s → s <+: u ++ x :: v → s <+: u
  | [], u, _, _, _ => List.nil_prefix
  | c :: s, [], v, hx, h => by
      obtain ⟨rfl, -⟩ := List.cons_prefix_cons.mp h
      simp at hx
  | c :: s, d :: u, v, hx, h => by
      obtain ⟨rfl, hs⟩ := List.cons_prefix_cons.mp h
      exact List.cons_prefix_cons.mpr
        ⟨rfl, prefix_of_prefix_append_cons (fun hm => hx (by simp [hm])) hs⟩

-- Where a character or a piece stands in two texts put together.

theorem append_eq_append_cons {c : Char} {a b before after : Text}
    (h : a ++ b = before ++ c :: after) :
    (∃ t, a = before ++ c :: t ∧ after = t ++ b) ∨ ∃ t, before = a ++ t ∧ b = t ++ c :: after := by
  rcases List.append_eq_append_iff.mp h with ⟨t, hbefore, hb⟩ | ⟨t, ha, hafter⟩
  · exact .inr ⟨t, hbefore, hb⟩
  · cases t with
    | nil => exact .inr ⟨[], by simpa using ha.symm, by simpa using hafter.symm⟩
    | cons d t =>
      obtain ⟨rfl, htail⟩ := List.cons.inj hafter
      exact .inl ⟨t, ha, htail⟩

theorem append_eq_of_not_mem_left {c : Char} {a b before after : Text} (hc : c ∉ a)
    (h : a ++ b = before ++ c :: after) : ∃ t, before = a ++ t ∧ b = t ++ c :: after := by
  refine (append_eq_append_cons h).resolve_left ?_
  rintro ⟨t, rfl, -⟩
  simp at hc

theorem append_eq_of_not_mem_right {c : Char} {a b before after : Text} (hc : c ∉ b)
    (h : a ++ b = before ++ c :: after) : ∃ t, a = before ++ c :: t ∧ after = t ++ b := by
  refine (append_eq_append_cons h).resolve_right ?_
  rintro ⟨t, -, rfl⟩
  simp at hc

/-- A piece that shares no character with the first part stands in the second. -/
theorem append_eq_of_disjoint_left {a b before piece after : Text} (hne : piece ≠ [])
    (hpiece : ∀ c ∈ piece, c ∉ a) (h : a ++ b = before ++ (piece ++ after)) :
    ∃ t, before = a ++ t ∧ b = t ++ (piece ++ after) := by
  obtain ⟨c, rest, rfl⟩ := List.exists_cons_of_ne_nil hne
  exact append_eq_of_not_mem_left (hpiece c (by simp)) h

theorem append_eq_of_disjoint_right {a b before piece after : Text} (hne : piece ≠ [])
    (hpiece : ∀ c ∈ piece, c ∉ b) (h : a ++ b = before ++ (piece ++ after)) :
    ∃ t, a = before ++ (piece ++ t) ∧ after = t ++ b := by
  obtain ⟨init, c, rfl⟩ : ∃ init c, piece = init ++ [c] :=
    ⟨_, _, (List.dropLast_concat_getLast hne).symm⟩
  have hlast : a ++ b = (before ++ init) ++ c :: after := by simpa using h
  obtain ⟨t, ha, hafter⟩ := append_eq_of_not_mem_right (hpiece c (by simp)) hlast
  exact ⟨t, by simpa using ha, hafter⟩

/-- A piece without the mark stands before the mark or after it. -/
theorem append_cons_eq_append {x : Char} {a b before piece after : Text} (hx : x ∉ piece)
    (h : a ++ x :: b = before ++ (piece ++ after)) :
    (∃ t, a = before ++ (piece ++ t) ∧ after = t ++ x :: b) ∨
      ∃ t, before = a ++ x :: t ∧ b = t ++ (piece ++ after) := by
  rcases List.append_eq_append_iff.mp h.symm with ⟨t, ha, hpiece⟩ | ⟨t, hbefore, hb⟩
  · obtain ⟨u, rfl, hafter⟩ := append_eq_of_not_mem_left hx hpiece
    exact .inl ⟨u, ha, hafter⟩
  · cases t with
    | nil =>
      have hpiece : piece ++ after = [] ++ x :: b := hb.symm
      obtain ⟨u, hnil, hafter⟩ := append_eq_of_not_mem_left hx hpiece
      obtain ⟨rfl, rfl⟩ := List.append_eq_nil_iff.mp hnil.symm
      exact .inl ⟨[], by simpa using hbefore.symm, hafter⟩
    | cons d t =>
      obtain ⟨rfl, htail⟩ := List.cons.inj hb
      exact .inr ⟨t, hbefore, htail⟩

/-- A text is cut in one way into a run of characters of a class and what
follows it. -/
theorem append_inj_of_head {p : Char → Bool} {a b u v : Text} (h : a ++ u = b ++ v)
    (ha : ∀ c ∈ a, p c = true) (hb : ∀ c ∈ b, p c = true) (hu : ∀ c ∈ u.head?, p c = false)
    (hv : ∀ c ∈ v.head?, p c = false) : a = b ∧ u = v := by
  have hstop : ∀ t : Text, (∀ c ∈ t.head?, p c = false) → t.takeWhile p = [] := by
    intro t ht
    cases t with
    | nil => rfl
    | cons c t => simp [ht c rfl]
  have htake := congrArg (List.takeWhile p) h
  rw [List.takeWhile_append_of_pos ha, List.takeWhile_append_of_pos hb, hstop u hu, hstop v hv,
    List.append_nil, List.append_nil] at htake
  exact ⟨htake, List.append_cancel_left (htake ▸ h)⟩

-- A scan stops at a character it does not take, whatever follows.

theorem takeWhile_append_cons {p : Char → Bool} {c : Char} (hc : p c = false) (rest : Text) :
    ∀ t : Text, (t ++ c :: rest).takeWhile p = t.takeWhile p
  | [] => by simp [hc]
  | x :: t => by
      rw [List.cons_append, List.takeWhile_cons, List.takeWhile_cons, takeWhile_append_cons hc rest t]

theorem dropWhile_append_cons {p : Char → Bool} {c : Char} (hc : p c = false) (rest : Text) :
    ∀ t : Text, (t ++ c :: rest).dropWhile p = t.dropWhile p ++ c :: rest
  | [] => by simp [hc]
  | x :: t => by
      rw [List.cons_append, List.dropWhile_cons, List.dropWhile_cons]
      split
      · exact dropWhile_append_cons hc rest t
      · rfl

theorem cutAt_append {mark : Char} {a : Text} (h : mark ∉ a) (b : Text) :
    cutAt mark (a ++ mark :: b) = some (a, b) := by
  have ha : ∀ c ∈ a, (c != mark) = true :=
    fun c hc => bne_iff_ne.mpr fun hcm => h (hcm ▸ hc)
  rw [cutAt, List.dropWhile_append_of_pos ha, List.takeWhile_append_of_pos ha]
  simp

theorem cutAt_eq_none {mark : Char} {t : Text} (h : mark ∉ t) : cutAt mark t = none := by
  have hall : ∀ c ∈ t, (c != mark) = true :=
    fun c hc => bne_iff_ne.mpr fun hcm => h (hcm ▸ hc)
  rw [cutAt, List.dropWhile_eq_nil_iff.mpr hall]

/-- What `cutAt` returns, with the mark between, is the text. -/
theorem cutAt_eq_some {mark : Char} {t a b : Text} (h : cutAt mark t = some (a, b)) :
    t = a ++ mark :: b := by
  unfold cutAt at h
  cases hdrop : t.dropWhile (· != mark) with
  | nil => simp [hdrop] at h
  | cons x rest =>
    have hx := List.head?_dropWhile_not (· != mark) t
    simp only [hdrop, List.head?_cons, bne_eq_false_iff_eq] at hx
    simp only [hdrop, Option.some.injEq, Prod.mk.injEq] at h
    obtain ⟨rfl, rfl⟩ := h
    rw [hx] at hdrop
    rw [← hdrop, List.takeWhile_append_dropWhile]

-- What a scanner leaves over is the end of its input.

theorem suffix_of_cutAt {mark : Char} {t a b : Text} (h : cutAt mark t = some (a, b)) : b <:+ t :=
  ⟨a ++ [mark], by simp [cutAt_eq_some h]⟩

theorem suffix_of_after? {piece t rest : Text} (h : after? piece t = some rest) : rest <:+ t :=
  ⟨piece, (after?_eq_some_iff.mp h).symm⟩

theorem suffix_trimStart (t : Text) : trimStart t <:+ t := List.dropWhile_suffix isBlank

/-- A piece at the start of a text is the first one. -/
theorem cut_append_self (piece rest : Text) : cut piece (piece ++ rest) = some ([], rest) := by
  cases h : piece ++ rest with
  | nil =>
    obtain ⟨rfl, rfl⟩ := List.append_eq_nil_iff.mp h
    rfl
  | cons c t =>
    rw [cut, if_pos (List.isPrefixOf_iff_prefix.mpr ⟨rest, h⟩), ← h]
    simp

/-- A piece that is no part of a name and has no space in it is looked
for after the name and the space that follows it. -/
theorem cut_name_append {piece : Text} (hs : ' ' ∉ piece) (hw : piece.all isWord = false)
    (rest : Text) : ∀ {a : Text}, (∀ c ∈ a, isWord c = true) →
    cut piece (a ++ ' ' :: rest) = (cut piece rest).map (fun s => (a ++ ' ' :: s.1, s.2))
  | [], _ => by
      have hne : ¬ piece.isPrefixOf (' ' :: rest) = true := by
        intro h
        have hnil : piece <+: [] :=
          prefix_of_prefix_append_cons (u := []) hs (List.isPrefixOf_iff_prefix.mp h)
        rw [List.prefix_nil.mp hnil] at hw
        simp at hw
      simp only [List.nil_append, cut, hne, Bool.false_eq_true, if_false]
  | c :: a, ha => by
      have hne : ¬ piece.isPrefixOf (c :: (a ++ ' ' :: rest)) = true := by
        intro h
        have hpre : piece <+: c :: a :=
          prefix_of_prefix_append_cons hs (List.isPrefixOf_iff_prefix.mp h)
        obtain ⟨d, hd, hdw⟩ := List.all_eq_false.mp hw
        exact hdw (ha d (hpre.subset hd))
      rw [List.cons_append, cut, if_neg hne,
        cut_name_append hs hw rest (fun d hd => ha d (by simp [hd]))]
      simp [Function.comp_def]

/-! ## §5 Lines -/

/-- After a replacement the old character is gone, and the new one stands for it. -/
theorem mem_replaceChar {old new c : Char} {t : Text} :
    c ∈ replaceChar old new t ↔ c ≠ old ∧ c ∈ t ∨ c = new ∧ old ∈ t := by
  rw [replaceChar, List.mem_map]
  constructor
  · rintro ⟨x, hx, rfl⟩
    split
    · next he => exact .inr ⟨rfl, he ▸ hx⟩
    · next hne => exact .inl ⟨hne, hx⟩
  · rintro (⟨hne, hc⟩ | ⟨rfl, hold⟩)
    · exact ⟨c, hc, if_neg hne⟩
    · exact ⟨old, hold, if_pos rfl⟩

theorem replaceChar_eq_self {old : Char} {t : Text} (h : old ∉ t) (new : Char) :
    replaceChar old new t = t := by
  have hsame : ∀ c ∈ t, (if c = old then new else c) = c := by
    intro c hc
    rw [if_neg]
    rintro rfl
    exact h hc
  rw [replaceChar, List.map_congr_left hsame, List.map_id']

/-- A text without carriage returns has unified line ends already. -/
theorem unifyNewlines_eq_self : ∀ {t : Text}, '\r' ∉ t → unifyNewlines t = t
  | [], _ => rfl
  | c :: t, h => by
      have hc : c ≠ '\r' := fun hc => h (by simp [hc])
      rw [unifyNewlines.eq_2 _ _ (by rintro r rfl; exact absurd rfl hc), if_neg hc,
        unifyNewlines_eq_self (fun hm => h (by simp [hm]))]

/-- No carriage return is left once the line ends are unified. -/
theorem not_mem_unifyNewlines (t : Text) : '\r' ∉ unifyNewlines t := by
  fun_induction unifyNewlines t with
  | case1 rest ih => simpa using ih
  | case2 c rest _ ih =>
    by_cases hc : c = '\r'
    · simpa [hc] using ih
    · simpa [hc, Ne.symm hc] using ih
  | case3 => simp

theorem mem_of_mem_dropMark {t : Text} {c : Char} (h : c ∈ dropMark t) : c ∈ t := by
  cases t with
  | nil => exact h
  | cons x t =>
    simp only [dropMark] at h
    split at h
    · exact List.mem_cons_of_mem x h
    · exact h

/-- The lines of a text are trimmed and hold no line end. -/
theorem of_mem_trimmedLines {t line : Text} (h : line ∈ trimmedLines t) :
    Trimmed line ∧ OneLine line := by
  obtain ⟨raw, hraw, rfl⟩ := List.mem_map.mp h
  have hpiece := mem_and_eq_false_of_mem_splitOnP (· == '\n') _ raw hraw
  refine ⟨trimmed_trim raw, fun hm => ?_, fun hm => ?_⟩
  · simpa using (hpiece _ (mem_of_mem_trim hm)).2
  · exact not_mem_unifyNewlines t (mem_of_mem_dropMark (hpiece _ (mem_of_mem_trim hm)).1)

end DiagramGraph.Text
