/-
DiagramGraph.Proofs.StableLabels — the labels that cleaning leaves alone.

  §1 Spacing  — `Spaced`: no blank at either end, and no blank inside but
                single spaces. These are the squeezed texts, said
                without squeezing (`Squeezed.spaced`, `Spaced.squeezed`).
  §2 Lengths  — no stage of cleaning makes a text longer. Taking off
                quotes and replacing a line-break tag makes it shorter.
  §3 Labels   — `clean_eq_self_iff_stable`: a label stays as it is exactly
                if it is spaced, has no quotes around it and holds no tag.

Cleaning once more can change a cleaned label, because a stage can lay
bare what an earlier one looks for: the quotes inside of `"'a'"` go at
once, those of `'"a"'` only in a second cleaning. So a label is not
stable because it was cleaned. What a changed label has lost is length:
each stage that changes a spaced text shortens it, and no later stage
makes up for that.
-/
import DiagramGraph.Proofs.LabelTheorems

namespace DiagramGraph.Text

/-! ## §1 Spacing -/

/-- Words are set apart by single spaces: no blank stands at either end,
no blank but the space stands inside, and no two spaces in a row. -/
structure Spaced (t : Text) : Prop where
  start : ∀ c ∈ t.head?, isBlank c = false
  stop : ∀ c ∈ t.getLast?, isBlank c = false
  space : ∀ c ∈ t, isBlank c = true → c = ' '
  single : ¬ [' ', ' '] <:+: t

/-- Induction along the words of a text: it has no blank, or it is a run
without blanks, then a blank, then a text of which the statement holds. -/
@[elab_as_elim]
theorem blankInduction {motive : Text → Prop}
    (solid : ∀ t, (∀ c ∈ t, isBlank c = false) → motive t)
    (blank : ∀ w c rest, (∀ d ∈ w, isBlank d = false) → isBlank c = true → motive rest →
      motive (w ++ c :: rest)) (t : Text) : motive t := by
  induction hn : t.length using Nat.strongRecOn generalizing t with
  | ind n ih =>
    have hsplit : t = t.takeWhile (!isBlank ·) ++ t.dropWhile (!isBlank ·) :=
      List.takeWhile_append_dropWhile.symm
    have hrun : ∀ c ∈ t.takeWhile (!isBlank ·), isBlank c = false := fun c hc => by
      simpa using List.mem_takeWhile_imp hc
    cases hdrop : t.dropWhile (!isBlank ·) with
    | nil =>
      rw [hdrop, List.append_nil] at hsplit
      exact solid t (hsplit ▸ hrun)
    | cons c rest =>
      have hc := List.head?_dropWhile_not (!isBlank ·) t
      simp only [hdrop, List.head?_cons, Bool.not_eq_false'] at hc
      rw [hdrop] at hsplit
      have hlength := congrArg List.length hsplit
      rw [List.length_append, List.length_cons] at hlength
      rw [hsplit]
      exact blank _ c rest hrun hc (ih rest.length (by omega) rest rfl)

/-- The words of a run without blanks: the run itself, or nothing. -/
theorem words_solid {w : Text} (h : ∀ c ∈ w, isBlank c = false) :
    words w = if w.isEmpty then [] else [w] := by
  cases w with
  | nil => rfl
  | cons c w => exact words_eq_singleton (by simp) h

theorem length_intercalate_cons_le (w : Text) (ws : List Text) :
    ([' '].intercalate (w :: ws)).length ≤ w.length + 1 + ([' '].intercalate ws).length := by
  cases ws with
  | nil => simp
  | cons v ws =>
    rw [List.intercalate_cons_cons, List.length_append, List.length_append]
    rfl

/-- Squeezing does not make a text longer. -/
theorem length_squeeze_le (t : Text) : (squeeze t).length ≤ t.length := by
  induction t using blankInduction with
  | solid t h => rw [squeezed_of_isBlank h]
  | blank w c rest hw hc ih =>
    have hwords := words_append_blank hc w rest
    rw [words_solid hw] at hwords
    unfold squeeze at ih ⊢
    rw [hwords, List.length_append, List.length_cons]
    split
    · rw [List.nil_append]
      omega
    · have hcons := length_intercalate_cons_le w (words rest)
      rw [List.singleton_append]
      omega

/-- Two spaces in a row are squeezed into one. -/
theorem not_squeezed_of_double {t : Text} (h : [' ', ' '] <:+: t) : ¬ Squeezed t := by
  obtain ⟨before, after, rfl⟩ := h
  intro hsqueezed
  have hspace : isBlank ' ' = true := by decide
  have htwo : words (before ++ [' ', ' '] ++ after) = words (before ++ ' ' :: after) := by
    rw [List.append_assoc, List.cons_append, words_append_blank hspace, words_append_blank hspace,
      List.singleton_append, ← List.nil_append (' ' :: after), words_append_blank hspace]
    rfl
  have hshort := length_squeeze_le (before ++ ' ' :: after)
  rw [squeeze, ← htwo, ← squeeze, hsqueezed] at hshort
  simp only [List.length_append, List.length_cons, List.length_nil] at hshort
  omega

theorem Squeezed.spaced {t : Text} (h : Squeezed t) : Spaced t where
  start := (trim_eq_self_iff.mp h.trimmed).1
  stop := (trim_eq_self_iff.mp h.trimmed).2
  space _ hc hb := h.eq_space hc hb
  single hdouble := not_squeezed_of_double hdouble h

/-- What follows the first blank of a spaced text is spaced, and neither
it nor what stands before the blank is empty. -/
theorem Spaced.of_append {w rest : Text} {c : Char} (h : Spaced (w ++ c :: rest))
    (hc : isBlank c = true) : c = ' ' ∧ w ≠ [] ∧ rest ≠ [] ∧ Spaced rest := by
  obtain rfl : c = ' ' := h.space c (by simp) hc
  have hw : w ≠ [] := by
    rintro rfl
    exact absurd (h.start ' ' (by simp)) (by decide)
  have hrest : rest ≠ [] := by
    rintro rfl
    exact absurd (h.stop ' ' (by simp)) (by decide)
  have hspace : ∀ d ∈ rest, isBlank d = true → d = ' ' := fun d hd => h.space d (by simp [hd])
  refine ⟨rfl, hw, hrest, ⟨fun d hd => ?_, fun d hd => h.stop d ?_, hspace, fun hdouble => ?_⟩⟩
  · cases hblank : isBlank d with
    | false => rfl
    | true =>
      obtain ⟨tail, htail⟩ := List.head?_eq_some_iff.mp hd
      obtain rfl := hspace d (by simp [htail]) hblank
      exact absurd ⟨w, tail, by simp [htail]⟩ h.single
  · rw [List.getLast?_append, List.getLast?_cons, List.getLast?_eq_some_getLast hrest] at *
    simpa using hd
  · refine h.single (hdouble.trans ?_)
    exact ⟨w ++ [' '], [], by simp⟩

/-- A spaced text is its words with one space between each two. -/
theorem Spaced.squeezed {t : Text} (h : Spaced t) : Squeezed t := by
  induction t using blankInduction with
  | solid t hsolid => exact squeezed_of_isBlank hsolid
  | blank w c rest hw hc ih =>
    obtain ⟨rfl, hne, hrest, hspaced⟩ := h.of_append hc
    have hsqueezed : [' '].intercalate (words rest) = rest := ih hspaced
    have hwords : words rest ≠ [] := by
      intro hnil
      rw [hnil] at hsqueezed
      exact hrest hsqueezed.symm
    obtain ⟨v, vs, hv⟩ := List.exists_cons_of_ne_nil hwords
    rw [Squeezed, squeeze, words_append_blank hc, words_eq_singleton hne hw, hv,
      List.singleton_append, List.intercalate_cons_cons, ← hv, hsqueezed]
    simp

/-! ## §2 Lengths -/

theorem length_trim_le (t : Text) : (trim t).length ≤ t.length :=
  (prefix_trimEnd (trimStart t)).length_le.trans (length_trimStart_le t)

end DiagramGraph.Text

namespace DiagramGraph.Mermaid.Label

open Text

theorem length_unwrap_of_wrapped {mark : Char} {t : Text} (h : Wrapped mark t) :
    (unwrap mark t).length + 2 = t.length := by
  have hinside : unwrap mark t = t.tail.dropLast := if_pos h
  have hlength := h.2.2
  rw [hinside, List.length_dropLast, List.length_tail]
  omega

theorem length_unwrap_le (mark : Char) (t : Text) : (unwrap mark t).length ≤ t.length := by
  by_cases h : Wrapped mark t
  · have hlength := length_unwrap_of_wrapped h
    omega
  · rw [unwrap_eq_self h]

/-- A tag has at least four characters. -/
theorem four_le_of_breakLength? {t : Text} {n : Nat} (h : breakLength? t = some n) :
    4 ≤ n ∧ 4 ≤ t.length := by
  unfold breakLength? at h
  split at h
  · next b r rest =>
    split at h
    · dsimp only at h
      have hrest := (List.dropWhile_sublist isBlank (l := rest)).length_le
      split at h
      · next hd =>
        rw [hd] at hrest
        cases h
        simp only [List.length_cons] at hrest ⊢
        omega
      · next hd =>
        rw [hd] at hrest
        cases h
        simp only [List.length_cons] at hrest ⊢
        omega
      · simp at h
    · simp at h
  · simp at h

theorem length_dropBreaksFrom_le (skip : Nat) (t : Text) :
    (dropBreaksFrom skip t).length ≤ t.length - skip := by
  fun_induction dropBreaksFrom skip t with
  | case1 => simp
  | case2 skip c rest ih =>
    rw [List.length_cons]
    omega
  | case3 c rest n hbreak ih =>
    simp only [List.length_cons]
    omega
  | case4 c rest hbreak ih =>
    simp only [List.length_cons]
    omega

theorem length_dropBreaks_le (t : Text) : (dropBreaks t).length ≤ t.length :=
  length_dropBreaksFrom_le 0 t

/-- A space is shorter than the tag that it replaces. -/
theorem length_dropBreaks_lt {t : Text} (h : HasBreak t) : (dropBreaks t).length < t.length := by
  unfold dropBreaks
  induction t with
  | nil => exact absurd h (by decide)
  | cons c t ih =>
    rw [dropBreaksFrom, List.length_cons]
    split
    · next n hbreak =>
      obtain ⟨hn, ht⟩ := four_le_of_breakLength? hbreak
      have hrest := length_dropBreaksFrom_le (n - 1) t
      rw [List.length_cons] at ht ⊢
      omega
    · next hnone =>
      have hrest := ih ((hasBreak_cons_iff.mp h).resolve_left (by simp [hnone]))
      rw [List.length_cons]
      omega

/-! ## §3 Labels -/

/-- Once the quotes are off, the rest of the cleaning does not make a
label longer. -/
theorem length_squeeze_dropBreaks_le (t : Text) : (squeeze (dropBreaks t)).length ≤ t.length :=
  (length_squeeze_le _).trans (length_dropBreaks_le t)

theorem length_clean_le (t : Text) : (clean t).length ≤ t.length := by
  have hbreaks := length_squeeze_dropBreaks_le (unwrap '\'' (unwrap '"' (trim t)))
  have hsingle := length_unwrap_le '\'' (unwrap '"' (trim t))
  have hdouble := length_unwrap_le '"' (trim t)
  have htrim := length_trim_le t
  unfold clean
  omega

/-- The label is such that no stage of cleaning finds anything to change. -/
@[mk_iff] structure Stable (t : Text) : Prop where
  spaced : Spaced t
  notDouble : ¬ Wrapped '"' t
  notSingle : ¬ Wrapped '\'' t
  noBreak : ¬ HasBreak t

theorem Stable.clean_eq {t : Text} (h : Stable t) : clean t = t := by
  have hsqueezed := h.spaced.squeezed
  rw [clean, hsqueezed.trimmed, unwrap_eq_self h.notDouble, unwrap_eq_self h.notSingle,
    dropBreaks_eq_self h.noBreak, hsqueezed]

/-- A label that cleaning leaves alone is stable: it is spaced as every
cleaned label is, and what cleaning takes off would be missing. -/
theorem stable_of_clean_eq {t : Text} (h : clean t = t) : Stable t := by
  have hsqueezed : Squeezed t := h ▸ squeezed_clean t
  rw [clean, hsqueezed.trimmed] at h
  have hlength := congrArg List.length h
  have hbreaks := length_squeeze_dropBreaks_le (unwrap '\'' (unwrap '"' t))
  have hsingle := length_unwrap_le '\'' (unwrap '"' t)
  have hnotDouble : ¬ Wrapped '"' t := by
    intro hw
    have hshort := length_unwrap_of_wrapped hw
    omega
  rw [unwrap_eq_self hnotDouble] at h hlength hbreaks hsingle
  have hnotSingle : ¬ Wrapped '\'' t := by
    intro hw
    have hshort := length_unwrap_of_wrapped hw
    omega
  rw [unwrap_eq_self hnotSingle] at hlength
  refine ⟨hsqueezed.spaced, hnotDouble, hnotSingle, fun hbreak => ?_⟩
  have hshort := length_dropBreaks_lt hbreak
  have hsqueeze := length_squeeze_le (dropBreaks t)
  omega

/-- A cleaned label is spaced and no longer than the label. Cleaning
leaves a label alone exactly if it is spaced, has neither double nor
single quotes around it and holds no line-break tag. -/
theorem clean_eq_self_iff_stable (t : Text) :
    Spaced (clean t) ∧ (clean t).length ≤ t.length ∧
      (clean t = t ↔ Spaced t ∧ ¬ Wrapped '"' t ∧ ¬ Wrapped '\'' t ∧ ¬ HasBreak t) := by
  refine ⟨(squeezed_clean t).spaced, length_clean_le t, ?_⟩
  rw [← stable_iff]
  exact ⟨stable_of_clean_eq, Stable.clean_eq⟩

example : clean "'\"a\"'".toList = "\"a\"".toList ∧ clean "\"a\"".toList = "a".toList := by decide

end DiagramGraph.Mermaid.Label
