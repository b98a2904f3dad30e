/-
DiagramGraph.Mermaid.NodeToken — how a flowchart writes a node.

A node token is an identifier, then perhaps a text in one of six
shapes, then perhaps a style `:::name`:

    A      A[text]      A((text)):::bold

Two definitions deal with it. `tokens` recognises: it lists every way
in which a text can start with a token, in the order in which the ways
are tried — shapes before no shape, the shapes in the order of their
table, and for one shape the nearest closing mark first. `tokenParts`
takes a token apart into identifier and label.
-/
import DiagramGraph.Mermaid.Label
import DiagramGraph.Mermaid.Style

namespace DiagramGraph.Mermaid

open Text

/-! ## §1 Shapes -/

/-- The marks around the text of a shape. -/
structure Shape where
  opening : Text
  closing : Text
  deriving DecidableEq, Repr

/-- The shapes; one with two marks stands before the one it starts with. -/
def shapes : List Shape :=
  [⟨"[[".toList, "]]".toList⟩,
   ⟨"([".toList, "])".toList⟩,
   ⟨"((".toList, "))".toList⟩,
   ⟨"[".toList, "]".toList⟩,
   ⟨"(".toList, ")".toList⟩,
   ⟨"\x7b".toList, "\x7d".toList⟩]

/-- The places where `closing` stands in the first line of the text, the
nearest first: what comes before each of them, and the rest after it. -/
def closingsOf (closing : Text) : Text → List (Text × Text)
  | [] => []
  | c :: rest =>
    if c = '\n' then []
    else
      ((after? closing (c :: rest)).map (fun r => (([] : Text), r))).toList ++
        (closingsOf closing rest).map (fun s => (c :: s.1, s.2))

/-- The ways in which the text starts with the shape: the shape with
its text, and the rest. -/
def Shape.starts (t : Text) (s : Shape) : List (Text × Text) :=
  match after? s.opening t with
  | none => []
  | some inner =>
    (closingsOf s.closing inner).map (fun (text, rest) => (s.opening ++ text ++ s.closing, rest))

/-- A closing mark cuts the text in two and nothing is lost. -/
theorem append_of_mem_closingsOf {closing t : Text} {inner rest : Text}
    (h : (inner, rest) ∈ closingsOf closing t) : t = inner ++ closing ++ rest := by
  induction t generalizing inner with
  | nil => simp [closingsOf] at h
  | cons c t ih =>
    simp only [closingsOf] at h
    split at h
    · simp at h
    · rcases List.mem_append.mp h with h | h
      · simp only [Option.mem_toList, Option.map_eq_some_iff, Prod.mk.injEq] at h
        obtain ⟨r, hr, rfl, rfl⟩ := h
        simpa using after?_eq_some_iff.mp hr
      · obtain ⟨s, hs, he⟩ := List.mem_map.mp h
        obtain ⟨rfl, rfl⟩ := Prod.mk.injEq .. ▸ he
        simp [ih hs]

/-- A shape and the rest after it make up the text. -/
theorem append_of_mem_starts {t : Text} {s : Shape} {shape rest : Text}
    (h : (shape, rest) ∈ s.starts t) : t = shape ++ rest := by
  unfold Shape.starts at h
  cases ho : after? s.opening t with
  | none => simp [ho] at h
  | some inner =>
    simp only [ho, List.mem_map] at h
    obtain ⟨⟨i, r⟩, hm, he⟩ := h
    simp only [Prod.mk.injEq] at he
    obtain ⟨rfl, rfl⟩ := he
    rw [after?_eq_some_iff.mp ho, append_of_mem_closingsOf hm]
    simp

/-! ## §2 Recognising tokens -/

/-- The ways in which the text starts with a node token, in the order
in which they are tried: the token and the rest. -/
def tokens (t : Text) : List (Text × Text) :=
  let id := t.takeWhile isWord
  if id.isEmpty then []
  else
    let more := t.dropWhile isWord
    (shapes.flatMap (Shape.starts more) ++ [([], more)]).map fun (shape, rest) =>
      let (style, rest) := takeStyle rest
      (id ++ shape ++ style, rest)

/-- A token and the rest after it make up the text. -/
theorem append_of_mem_tokens {t token rest : Text} (h : (token, rest) ∈ tokens t) :
    t = token ++ rest := by
  simp only [tokens] at h
  split at h
  · simp at h
  · obtain ⟨⟨shape, r⟩, hm, he⟩ := List.mem_map.mp h
    simp only [Prod.mk.injEq] at he
    obtain ⟨rfl, rfl⟩ := he
    have hr : t.dropWhile isWord = shape ++ r := by
      rcases List.mem_append.mp hm with hm | hm
      · obtain ⟨s, _, hs⟩ := List.mem_flatMap.mp hm
        exact append_of_mem_starts hs
      · simp only [List.mem_singleton, Prod.mk.injEq] at hm
        simp [hm.1, hm.2]
    rw [List.append_assoc, takeStyle_append, List.append_assoc, ← hr,
      List.takeWhile_append_dropWhile]

/-- Is the text at its end: empty, or one line feed? -/
def atEnd (t : Text) : Bool := t.isEmpty || t = ['\n']

/-- The first token that reaches to the end of the text. -/
def lastToken? (t : Text) : Option Text :=
  ((tokens t).find? (fun s => atEnd s.2)).map (·.1)

/-! ## §3 Taking tokens apart -/

/-- The text inside the shape, if its marks stand at both ends. -/
def Shape.inside? (t : Text) (s : Shape) : Option Text :=
  if s.opening.isPrefixOf t && s.closing.isSuffixOf t then
    some ((t.drop s.opening.length).take (t.length - s.opening.length - s.closing.length))
  else none

/-- The identifier and the label of a token. A text that starts with no
word character is its own identifier. -/
def tokenParts (token : Text) : Text × Text :=
  let t := dropStyle (trim token)
  let id := t.takeWhile isWord
  if id.isEmpty then (t, [])
  else
    match shapes.findSome? (Shape.inside? (t.dropWhile isWord)) with
    | some text => (id, Label.clean text)
    | none => (id, [])

end DiagramGraph.Mermaid
