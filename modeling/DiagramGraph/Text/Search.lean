/-
DiagramGraph.Text.Search — finding, cutting and replacing pieces of a
text.

* `cut` — the text before and after the first occurrence of a piece;
* `after?` — the rest of a text that starts with a given piece;
* `unwrap` — the text inside one pair of surrounding marks.

Each scanner returns what it took and what is left, and the small
lemmas here say that nothing is lost: `cut_eq_some` and
`after?_eq_some_iff` put the input together again.
-/
import DiagramGraph.Text.Basic

namespace DiagramGraph.Text

/-! ## §1 Pieces at the start and at the end -/

/-- The rest of a text that starts with `piece`. -/
def after? (piece t : Text) : Option Text :=
  if piece.isPrefixOf t then some (t.drop piece.length) else none

theorem after?_eq_some_iff {piece t rest : Text} :
    after? piece t = some rest ↔ t = piece ++ rest := by
  unfold after?
  constructor
  · intro h
    split at h
    · next hp =>
      obtain ⟨r, rfl⟩ := List.isPrefixOf_iff_prefix.mp hp
      simpa using h
    · simp at h
  · rintro rfl
    rw [if_pos (List.isPrefixOf_iff_prefix.mpr ⟨rest, rfl⟩)]
    simp

@[simp] theorem after?_append (piece rest : Text) : after? piece (piece ++ rest) = some rest :=
  after?_eq_some_iff.mpr rfl

/-- Does the text start with one of the pieces? -/
def startsWithAny (pieces : List Text) (t : Text) : Bool :=
  pieces.any (fun p => p.isPrefixOf t)

/-- The text inside one pair of `mark`s around it, the text itself if
there is no such pair. A mark alone is no pair. -/
def unwrap (mark : Char) (t : Text) : Text :=
  if t.head? = some mark ∧ t.getLast? = some mark ∧ 2 ≤ t.length then t.tail.dropLast else t

/-! ## §2 First occurrences -/

/-- The text before and after the first occurrence of `piece`. -/
def cut (piece : Text) : Text → Option (Text × Text)
  | [] => if piece.isEmpty then some ([], []) else none
  | c :: rest =>
    if piece.isPrefixOf (c :: rest) then some ([], (c :: rest).drop piece.length)
    else (cut piece rest).map (fun s => (c :: s.1, s.2))

/-- What `cut` returns, with the piece between, is the text. -/
theorem cut_eq_some {piece t before rest : Text} (h : cut piece t = some (before, rest)) :
    t = before ++ piece ++ rest := by
  induction t generalizing before with
  | nil =>
    simp only [cut] at h
    split at h
    · next hp => simp_all
    · simp at h
  | cons c t ih =>
    simp only [cut] at h
    split at h
    · next hp =>
      obtain ⟨r, hr⟩ := List.isPrefixOf_iff_prefix.mp hp
      simp only [Option.some.injEq, Prod.mk.injEq] at h
      obtain ⟨rfl, rfl⟩ := h
      simp [← hr]
    · obtain ⟨s, hs, he⟩ := Option.map_eq_some_iff.mp h
      obtain ⟨s₁, s₂⟩ := s
      simp only [Prod.mk.injEq] at he
      obtain ⟨rfl, rfl⟩ := he
      simp [ih hs]

/-- The text before and after the first `mark`. -/
def cutAt (mark : Char) (t : Text) : Option (Text × Text) :=
  match t.dropWhile (· != mark) with
  | [] => none
  | _ :: rest => some (t.takeWhile (· != mark), rest)

/-! ## §3 Replacement -/

/-- Every `old` replaced by `new`. -/
def replaceChar (old new : Char) (t : Text) : Text :=
  t.map (fun c => if c = old then new else c)

/-- The lower-case form of an ASCII word; `K` (U+212A) is an upper-case `k`. -/
def lower (t : Text) : Text :=
  t.map (fun c => if c = '\u212A' then 'k' else c.toLower)

/-- The upper-case form of an ASCII word. -/
def upper (t : Text) : Text := t.map Char.toUpper

end DiagramGraph.Text
