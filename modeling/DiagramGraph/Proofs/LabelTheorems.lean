/-
DiagramGraph.Proofs.LabelTheorems — what cleaning does to a label.

The main statements are `squeezed_clean`, a cleaned label is squeezed,
and `PlainLabel.clean_eq`, cleaning leaves a plain label alone. Plain
labels are also what the printers can put between double quotes without
changing it, so `PlainLabel.clean_quoted` reads a printed label back.
-/
import DiagramGraph.Mermaid.Label
import DiagramGraph.Proofs.TextTheorems

namespace DiagramGraph.Mermaid.Label

open Text

/-! ## §1 Line-break tags -/

/-- A line-break tag stands somewhere in the text. -/
def HasBreak (t : Text) : Prop :=
  ∃ before b r blanks slash after,
    t = before ++ '<' :: b :: r :: (blanks ++ slash ++ '>' :: after) ∧
      b.toLower = 'b' ∧ r.toLower = 'r' ∧ (∀ c ∈ blanks, isBlank c = true) ∧
      (slash = [] ∨ slash = ['/'])

theorem hasBreak_of_breakLength? {t : Text} {n : Nat} (h : breakLength? t = some n) :
    HasBreak t := by
  unfold breakLength? at h
  split at h
  · next b r rest =>
    split at h
    · next hbr =>
      have hblanks : ∀ c ∈ rest.takeWhile isBlank, isBlank c = true :=
        List.all_eq_true.mp List.all_takeWhile
      have hrest : rest = rest.takeWhile isBlank ++ rest.dropWhile isBlank :=
        List.takeWhile_append_dropWhile.symm
      dsimp only at h
      split at h
      · next after hd =>
        refine ⟨[], b, r, _, ['/'], after, ?_, hbr.1, hbr.2, hblanks, .inr rfl⟩
        rw [hd] at hrest
        simpa using hrest
      · next after hd =>
        refine ⟨[], b, r, _, [], after, ?_, hbr.1, hbr.2, hblanks, .inl rfl⟩
        rw [hd] at hrest
        simpa using hrest
      · simp at h
    · simp at h
  · simp at h

theorem breakLength?_tag {b r : Char} (hb : b.toLower = 'b') (hr : r.toLower = 'r')
    {blanks slash : Text} (hblanks : ∀ c ∈ blanks, isBlank c = true)
    (hslash : slash = [] ∨ slash = ['/']) (after : Text) :
    (breakLength? ('<' :: b :: r :: (blanks ++ slash ++ '>' :: after))).isSome = true := by
  have hmarks : isBlank '/' = false ∧ isBlank '>' = false := by decide
  have hdrop : (blanks ++ slash ++ '>' :: after).dropWhile isBlank = slash ++ '>' :: after := by
    rw [List.append_assoc, List.dropWhile_append_of_pos hblanks]
    rcases hslash with rfl | rfl <;> simp [hmarks]
  simp only [breakLength?, hb, hr, and_self, if_true, hdrop]
  rcases hslash with rfl | rfl <;> rfl

theorem HasBreak.cons {t : Text} (c : Char) (h : HasBreak t) : HasBreak (c :: t) := by
  obtain ⟨before, b, r, blanks, slash, after, rfl, h⟩ := h
  exact ⟨c :: before, b, r, blanks, slash, after, rfl, h⟩

/-- A tag stands at the start of the text or after it. -/
theorem hasBreak_cons_iff {c : Char} {t : Text} :
    HasBreak (c :: t) ↔ (breakLength? (c :: t)).isSome = true ∨ HasBreak t := by
  constructor
  · rintro ⟨before, b, r, blanks, slash, after, ht, hb, hr, hblanks, hslash⟩
    cases before with
    | nil =>
      rw [ht]
      exact .inl (breakLength?_tag hb hr hblanks hslash after)
    | cons d before =>
      obtain ⟨rfl, rfl⟩ := List.cons.inj ht
      exact .inr ⟨before, b, r, blanks, slash, after, rfl, hb, hr, hblanks, hslash⟩
  · rintro (h | h)
    · obtain ⟨n, hn⟩ := Option.isSome_iff_exists.mp h
      exact hasBreak_of_breakLength? hn
    · exact h.cons c

instance decidableHasBreak : (t : Text) → Decidable (HasBreak t)
  | [] => .isFalse (by simp [HasBreak])
  | c :: t =>
    have := decidableHasBreak t
    decidable_of_iff _ hasBreak_cons_iff.symm

/-- A text without line-break tags is left alone. -/
theorem dropBreaks_eq_self {t : Text} (h : ¬ HasBreak t) : dropBreaks t = t := by
  unfold dropBreaks
  induction t with
  | nil => rfl
  | cons c t ih =>
    obtain ⟨hnone, ht⟩ := not_or.mp (mt hasBreak_cons_iff.mpr h)
    rw [dropBreaksFrom, Option.not_isSome_iff_eq_none.mp hnone]
    dsimp only
    rw [ih ht]

/-! ## §2 Quotes -/

/-- A pair of `mark`s stands around the text. -/
def Wrapped (mark : Char) (t : Text) : Prop :=
  t.head? = some mark ∧ t.getLast? = some mark ∧ 2 ≤ t.length

instance (mark : Char) (t : Text) : Decidable (Wrapped mark t) :=
  inferInstanceAs (Decidable (_ ∧ _ ∧ _))

theorem unwrap_eq_self {mark : Char} {t : Text} (h : ¬ Wrapped mark t) : unwrap mark t = t :=
  if_neg h

theorem unwrap_wrapped (mark : Char) (t : Text) : unwrap mark (mark :: (t ++ [mark])) = t := by
  rw [unwrap, if_pos ⟨rfl, by simp [List.getLast?_cons], by simp⟩]
  simp

/-! ## §3 Plain labels -/

/-- A label that says what it shows: squeezed, without double quotes,
without single quotes around it and without line-break tags. -/
@[mk_iff] structure PlainLabel (t : Text) : Prop where
  squeezed : Squeezed t
  noQuote : '"' ∉ t
  unwrapped : ¬ Wrapped '\'' t
  noBreak : ¬ HasBreak t

instance (t : Text) : Decidable (PlainLabel t) := decidable_of_iff _ (plainLabel_iff t).symm

/-- A cleaned label is squeezed. -/
theorem squeezed_clean (t : Text) : Squeezed (clean t) := squeeze_squeeze _

/-- Once the double quotes are off, the rest of the cleaning leaves a
plain label alone. -/
theorem PlainLabel.squeeze_dropBreaks {t : Text} (h : PlainLabel t) :
    squeeze (dropBreaks (unwrap '\'' t)) = t := by
  rw [unwrap_eq_self h.unwrapped, dropBreaks_eq_self h.noBreak, h.squeezed]

/-- Cleaning leaves a plain label alone. -/
theorem PlainLabel.clean_eq {t : Text} (h : PlainLabel t) : clean t = t := by
  have hquote : ¬ Wrapped '"' t := fun hw => h.noQuote (List.mem_of_mem_head? hw.1)
  rw [clean, h.squeezed.trimmed, unwrap_eq_self hquote, h.squeeze_dropBreaks]

/-- A plain label between double quotes is read back. -/
theorem PlainLabel.clean_quoted {t : Text} (h : PlainLabel t) :
    clean ('"' :: (t ++ ['"'])) = t := by
  have htrim : trim ('"' :: (t ++ ['"'])) = '"' :: (t ++ ['"']) := by
    refine trim_eq_self_iff.mpr ⟨fun c hc => ?_, fun c hc => ?_⟩
    · obtain rfl : '"' = c := by simpa using hc
      decide
    · obtain rfl : '"' = c := by simpa [List.getLast?_cons] using hc
      decide
  rw [clean, htrim, unwrap_wrapped, h.squeeze_dropBreaks]

end DiagramGraph.Mermaid.Label
