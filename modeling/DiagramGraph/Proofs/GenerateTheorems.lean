/-
DiagramGraph.Proofs.GenerateTheorems — what a run of the generator
changes, and which files it has an answer to.

  §1 Runs      — `Ends`: all that a run can come to (`ends_body`). Code is
                 printed or written only after all of it was generated.
  §2 Changes   — `run_changes_output_only`: a run that fails changes
                 nothing, and one that succeeds at most the file that it
                 was asked to write.
  §3 Messages  — what is reported fits on one line.
  §4 Answers   — `Answerable`: the contents of a file that end in code or
                 in a message. A run breaks off at all others
                 (`run_answers_iff`), so a file that is no text or has a
                 value of the wrong kind is never reported.
-/
import DiagramGraph.Proofs.FileTheorems
import DiagramGraph.Proofs.HandOver
import DiagramGraph.Proofs.PrinterDomain

namespace DiagramGraph.Cli.Generate

open Text Files

/-! ## §1 Runs -/

/-- The orientation that the arguments ask for. -/
def orientation (taken : Taken) : Text :=
  (taken.given "--orientation".toList).value?.getD "TB".toList

/-- The file that the code is to be written to, empty if it is printed. -/
def output (taken : Taken) : Text := (taken.given "--out".toList).value?.getD []

/-- The text is the code that the arguments ask for. -/
def Generated (taken : Taken) (w : Workspace) (t : Text) : Prop :=
  ∃ format path document,
    (taken.given "--fmt".toList).value? = some format ∧
    (taken.given "--in".toList).value? = some path ∧
    readDocument w (Path.parse path) = .ok document ∧
    code format document (orientation taken) = .ok t

/-- The ways in which a run can end. -/
inductive Ends (taken : Taken) (w : Workspace) : Outcome → Prop
  | reported (f : Failure) : Ends taken w (.reported w [] f.message)
  | brokenOff (f : Failure) : Ends taken w (.brokenOff w [] f)
  | printed {t : Text} (h : Generated taken w t) (hout : output taken = []) :
    Ends taken w (.success w t [])
  | written {t : Text} {w' : Workspace} (h : Generated taken w t) (hout : output taken ≠ [])
    (hwrite : w.write (Path.parse (output taken)) (Utf8.encode t) = .ok w') :
    Ends taken w (.success w' [] [])

theorem needed_eq_ok_iff {taken : Taken} {name t : Text} :
    needed taken name = .ok t ↔ (taken.given name).value? = some t := by
  unfold needed
  cases (taken.given name).value? <;> simp

theorem request_eq_ok {taken : Taken} {format : Text} {path : Path}
    (h : request taken = .ok (format, path)) :
    (taken.given "--fmt".toList).value? = some format ∧
      ∃ t, (taken.given "--in".toList).value? = some t ∧ Path.parse t = path := by
  unfold request at h
  split at h
  · cases h
  · cases h
  · next t t' hfmt hin =>
    cases h
    exact ⟨needed_eq_ok_iff.mp hfmt, t', needed_eq_ok_iff.mp hin, rfl⟩

/-- Code that was generated is printed, or written if that is possible. -/
theorem ends_emit {taken : Taken} {w : Workspace} {t : Text} (h : Generated taken w t) :
    Ends taken w (emit w (output taken) t) := by
  unfold emit
  split
  · next hout => exact .printed h (List.isEmpty_iff.mp hout)
  · next hout =>
    split
    · next w' hwrite =>
      exact .written h (fun hnil => hout (List.isEmpty_iff.mpr hnil)) (write_of_writeText hwrite)
    · exact .brokenOff _

/-- Nothing else can come of a run. -/
theorem ends_body (taken : Taken) (stdin : Text) (w : Workspace) :
    Ends taken w (body taken stdin w) := by
  unfold body
  split
  · exact .brokenOff _
  · next format path hrequest =>
    obtain ⟨hfmt, source, hin, rfl⟩ := request_eq_ok hrequest
    unfold generate
    split
    · split
      · exact .reported _
      · exact .brokenOff _
    · next document hdocument =>
      split
      · exact .brokenOff _
      · next t hcode => exact ends_emit ⟨format, source, document, hfmt, hin, hdocument, hcode⟩

/-! ## §2 Changes -/

/-- A file can be written at the path. -/
def Writable (w : Workspace) (p : Path) : Prop :=
  ∃ place, w.locate p = .ok place ∧ w.tree.get? place ≠ some .directory

/-- The file at the path, and nothing else, is new: it holds the text. -/
def Replaced (w : Workspace) (p : Path) (t : Text) (w' : Workspace) : Prop :=
  ∃ place, w.locate p = .ok place ∧ Workspace.Written (· = place) w w' ∧
    w'.tree.get? place = some (.file (Utf8.encode t))

/-- What is generated and can be written comes of the run. -/
theorem exitCode_body {taken : Taken} {w : Workspace} {t : Text} (h : Generated taken w t)
    (hout : output taken ≠ [] → Writable w (Path.parse (output taken))) (stdin : Text) :
    (body taken stdin w).exitCode = 0 := by
  obtain ⟨format, path, document, hfmt, hin, hdocument, hcode⟩ := h
  have hrequest : request taken = .ok (format, Path.parse path) := by
    simp only [request, needed, hfmt, hin]
  have hbody : body taken stdin w = emit w (output taken) t := by
    unfold orientation at hcode
    simp only [body, hrequest, generate, hdocument, hcode, output]
  rw [hbody, emit]
  split
  · rfl
  · next hne =>
    obtain ⟨place, hplace, hfile⟩ := hout fun hnil => hne (List.isEmpty_iff.mpr hnil)
    have hwrite : writeText w (Path.parse (output taken)) t =
        .ok { w with tree := w.tree.put place (.file (Utf8.encode t)) } := by
      simp only [writeText, Workspace.write, hplace]
    rw [hwrite]
    rfl

/-- A run that fails reports an error or breaks off, and changes nothing. -/
theorem Ends.of_failed {taken : Taken} {w : Workspace} {o : Outcome} (h : Ends taken w o)
    (hfailed : o.exitCode ≠ 0) :
    o.workspace = w ∧ ((∃ message, o = .reported w [] message) ∨ ∃ f, o = .brokenOff w [] f) := by
  cases h with
  | reported f => exact ⟨rfl, .inl ⟨_, rfl⟩⟩
  | brokenOff f => exact ⟨rfl, .inr ⟨f, rfl⟩⟩
  | printed h hout => exact absurd rfl hfailed
  | written h hout hwrite => exact absurd rfl hfailed

/-- A run that succeeds writes its code to the file, or prints it. -/
theorem Ends.of_succeeded {taken : Taken} {w : Workspace} {o : Outcome} (h : Ends taken w o)
    (hsucceeded : o.exitCode = 0) :
    ∃ t, Generated taken w t ∧
      (output taken ≠ [] → o.stdout = [] ∧ Replaced w (Path.parse (output taken)) t o.workspace) ∧
      (output taken = [] → o.stdout = t ∧ o.workspace = w) := by
  cases h with
  | reported f => cases hsucceeded
  | brokenOff f => cases hsucceeded
  | printed h hout => exact ⟨_, h, fun hne => absurd hout hne, fun _ => ⟨rfl, rfl⟩⟩
  | written h hout hwrite =>
    obtain ⟨place, hplace, -, -⟩ := Workspace.write_eq_ok hwrite
    have hreplaced := Workspace.written_of_write hwrite hplace
    exact ⟨_, h, fun _ => ⟨rfl, place, hplace, hreplaced⟩, fun hnil => absurd hnil hout⟩

theorem run_eq_body {arguments : List Text} {taken : Taken}
    (hparse : parse grammar arguments = .ok taken) (stdin : Text) (w : Workspace) :
    command.run arguments stdin w = body taken stdin w :=
  Command.run_of_parse command hparse stdin w

/-- A run that fails leaves the workspace as it is, whether it reports an
error or breaks off. One that succeeds has generated code: it replaces
the file that was asked for with the code and prints nothing, or changes
nothing and prints the code. It succeeds whenever there is code, and a
place for it. -/
theorem run_changes_output_only {arguments : List Text} {taken : Taken}
    (hparse : parse grammar arguments = .ok taken) (stdin : Text) (w : Workspace) :
    ((command.run arguments stdin w).exitCode ≠ 0 →
      (command.run arguments stdin w).workspace = w ∧
        ((∃ message, command.run arguments stdin w = .reported w [] message) ∨
          ∃ f, command.run arguments stdin w = .brokenOff w [] f)) ∧
    ((command.run arguments stdin w).exitCode = 0 → ∃ t, Generated taken w t ∧
      (output taken ≠ [] → (command.run arguments stdin w).stdout = [] ∧
        Replaced w (Path.parse (output taken)) t (command.run arguments stdin w).workspace) ∧
      (output taken = [] → (command.run arguments stdin w).stdout = t ∧
        (command.run arguments stdin w).workspace = w)) ∧
    ∀ t, Generated taken w t →
      (output taken ≠ [] → Writable w (Path.parse (output taken))) →
        (command.run arguments stdin w).exitCode = 0 := by
  rw [run_eq_body hparse]
  exact ⟨(ends_body taken stdin w).of_failed, (ends_body taken stdin w).of_succeeded,
    fun t h hout => exitCode_body h hout stdin⟩

/-- A file with a document of one node. -/
def oneNode : Workspace :=
  ⟨⟨[(["g.json".toList], .file (Utf8.encode
    "\x7b\"nodes\": [\x7b\"id\": \"A\"\x7d], \"links\": []\x7d".toList))]⟩, []⟩

/-- Arguments that ask for the code of that document in a file. -/
def asking (out : Text) : List Text :=
  ["--in".toList, "g.json".toList, "--fmt".toList, "mermaid".toList, "--out".toList, out]

/-- What is taken from these arguments. -/
def asked (out : Text) : Taken :=
  ⟨[("--out".toList, some out), ("--fmt".toList, some "mermaid".toList),
    ("--in".toList, some "g.json".toList)], [], none, []⟩

/-- Code may take the place of its own document, but not of a file in a
directory that is missing. -/
theorem run_changes_output_only_inPlace :
    (parse grammar (asking "g.json".toList) = .ok (asked "g.json".toList) ∧
      (∃ t, Generated (asked "g.json".toList) oneNode t ∧
        Replaced oneNode (Path.parse "g.json".toList) t
          (command.run (asking "g.json".toList) [] oneNode).workspace) ∧
      (command.run (asking "g.json".toList) [] oneNode).workspace.read ⟨[], ["g.json".toList]⟩ =
        .ok (Utf8.encode "flowchart TB\n  A\n".toList)) ∧
    parse grammar (asking "d/g.mmd".toList) = .ok (asked "d/g.mmd".toList) ∧
      (command.run (asking "d/g.mmd".toList) [] oneNode).exitCode ≠ 0 ∧
      (command.run (asking "d/g.mmd".toList) [] oneNode).workspace = oneNode := by
  have hhere : parse grammar (asking "g.json".toList) = .ok (asked "g.json".toList) := by decide
  have hmissing : parse grammar (asking "d/g.mmd".toList) = .ok (asked "d/g.mmd".toList) := by decide
  have hsucceeds : (command.run (asking "g.json".toList) [] oneNode).exitCode = 0 := by
    decide +kernel
  have hfails : (command.run (asking "d/g.mmd".toList) [] oneNode).exitCode ≠ 0 := by
    decide +kernel
  obtain ⟨t, hgenerated, hreplaced, -⟩ :=
    (run_changes_output_only hhere [] oneNode).2.1 hsucceeds
  have hunchanged := ((run_changes_output_only hmissing [] oneNode).1 hfails).1
  exact ⟨⟨hhere, ⟨t, hgenerated, (hreplaced (by decide)).2⟩, by decide +kernel⟩, hmissing, hfails,
    hunchanged⟩

end DiagramGraph.Cli.Generate

namespace DiagramGraph.Text

/-! ## §3 Messages -/

theorem oneLine_flatMap {f : Char → Text} {t : Text} (h : ∀ c ∈ t, OneLine (f c)) :
    OneLine (t.flatMap f) := by
  constructor
  · intro hmem
    obtain ⟨c, hc, hline⟩ := List.mem_flatMap.mp hmem
    exact (h c hc).1 hline
  · intro hmem
    obtain ⟨c, hc, hline⟩ := List.mem_flatMap.mp hmem
    exact (h c hc).2 hline

theorem oneLine_digitChar (n : Nat) : OneLine [n.digitChar] := by
  by_cases h : n < 16
  · interval_cases n <;> decide
  · rw [Nat.digitChar_eq_star.mpr (Nat.le_of_not_lt h)]
    decide

theorem oneLine_toDigits {b : Nat} (hb : 1 < b) (n : Nat) : OneLine (Nat.toDigits b n) := by
  induction n using Nat.strong_induction_on with
  | _ n ih =>
    rcases Nat.lt_or_ge n b with hlt | hge
    · rw [Nat.toDigits_of_lt_base hlt]
      exact oneLine_digitChar n
    · rw [Nat.toDigits_of_base_le hb hge, oneLine_append]
      exact ⟨ih (n / b) (Nat.div_lt_self (by omega) hb), oneLine_digitChar _⟩

theorem oneLine_hex (width n : Nat) : OneLine (hex width n) := by
  have hzeros : OneLine (List.replicate (width - (Nat.toDigits 16 n).length) '0') := by
    constructor <;> exact fun h => absurd (List.eq_of_mem_replicate h) (by decide)
  exact oneLine_append.mpr ⟨hzeros, oneLine_toDigits (by decide) n⟩

/-- Line ends are escaped, and so is all else that is not shown. -/
theorem oneLine_quoteChar {mark : Char} (hmark : OneLine [mark]) (c : Char) :
    OneLine (quoteChar mark c) := by
  unfold quoteChar
  split_ifs with hescaped hlf hcr
  · rcases hescaped with rfl | rfl
    · exact oneLine_cons.mpr ⟨by decide, hmark⟩
    · decide
  · decide
  · decide
  · decide
  · simpa [OneLine] using ⟨Ne.symm hlf, Ne.symm hcr⟩
  all_goals exact oneLine_append.mpr ⟨by decide, oneLine_hex _ _⟩

theorem oneLine_quoted (t : Text) : OneLine (quoted t) := by
  have hmark : OneLine [quoteMark t] := by
    unfold quoteMark
    split <;> decide
  have hinside : OneLine (t.flatMap (quoteChar (quoteMark t))) :=
    oneLine_flatMap fun c _ => oneLine_quoteChar hmark c
  exact oneLine_append.mpr ⟨oneLine_cons.mpr ⟨hmark, hinside⟩, hmark⟩

end DiagramGraph.Text

namespace DiagramGraph.Cli.Generate

open Text Files

theorem oneLine_fileError (e : FileError) : OneLine e.message := by
  have hwords : OneLine e.cause.words := by
    cases e.cause <;> decide +kernel
  unfold FileError.message
  split
  · exact hwords
  · rw [oneLine_append, oneLine_append]
    exact ⟨⟨hwords, by decide +kernel⟩, oneLine_quoted _⟩

theorem oneLine_malformed (problem : Json.Problem) (line column offset : Nat) :
    OneLine (Json.ReadError.malformed problem line column offset).message := by
  have hproblem : OneLine problem.message := by
    cases problem <;> decide +kernel
  have hnumber (n : Nat) : OneLine (Nat.toDigits 10 n) := oneLine_toDigits (by decide) n
  unfold Json.ReadError.message
  iterate 7 rw [oneLine_append]
  refine ⟨⟨⟨⟨⟨⟨⟨hproblem, ?_⟩, hnumber _⟩, ?_⟩, hnumber _⟩, ?_⟩, hnumber _⟩, ?_⟩
  all_goals decide +kernel

theorem oneLine_invalid {v : Json.Value} {e : Document.Invalid}
    (h : Document.validate v = .error e) : OneLine e.message := by
  unfold Document.validate at h
  split at h
  · split at h
    · next key hkey =>
      cases h
      have hmem := List.mem_of_find?_eq_some hkey
      have hkeys : ∀ key ∈ ["nodes".toList, "links".toList],
          OneLine (Document.Invalid.missingList key).message := by decide +kernel
      exact hkeys key hmem
    · cases h
  · cases h
    decide +kernel

/-! ## §4 Answers -/

/-- The printer of the format accepts a document with these lists. -/
def Accepts (format : Text) (nodes links : List Json.Value) : Prop :=
  if format = "dot".toList then Dot.Accepts nodes links else Mermaid.Accepts nodes links

/-- What reading a file can give for a run to end in code or in a message:
an error of the system, or a text that is no JSON, no document, or a
document that the printer accepts. -/
inductive Answerable (format : Text) : Except FileError (List UInt8) → Prop
  | refused {e : FileError} (h : e.cause ≠ .nullCharacter) : Answerable format (.error e)
  | malformed {bytes : List UInt8} {t : Text} {problem : Json.Problem} {line column offset : Nat}
    (ht : Utf8.decode bytes = .ok t)
    (h : Json.read (unifyNewlines t) = .error (.malformed problem line column offset)) :
    Answerable format (.ok bytes)
  | document {bytes : List UInt8} {t : Text} {v : Json.Value} (ht : Utf8.decode bytes = .ok t)
    (hv : Json.read (unifyNewlines t) = .ok v)
    (h : ∀ nodes links, Document.Lists v nodes links → Accepts format nodes links) :
    Answerable format (.ok bytes)

/-- Bytes that are a text are answered by what is read from it. -/
theorem answerable_ok_iff {bytes : List UInt8} {t : Text} (ht : Utf8.decode bytes = .ok t)
    (format : Text) : Answerable format (.ok bytes) ↔
      match Json.read (unifyNewlines t) with
      | .error (.malformed ..) => True
      | .error _ => False
      | .ok v => ∀ nodes links, Document.Lists v nodes links → Accepts format nodes links := by
  constructor
  · rintro (_ | ⟨ht', h⟩ | ⟨ht', hv, h⟩)
    · cases ht.symm.trans ht'
      simp only [h]
    · cases ht.symm.trans ht'
      simp only [hv]
      exact h
  · split
    · next h => exact fun _ => .malformed ht h
    · exact False.elim
    · next v hv => exact .document ht hv

/-- The run printed code, or one line that says what is wrong. -/
def Answered (taken : Taken) (w : Workspace) (o : Outcome) : Prop :=
  (∃ t, Generated taken w t ∧ o = .success w t []) ∨
    ∃ message, OneLine message ∧ o = .reported w [] message

theorem not_answered_brokenOff (taken : Taken) (w : Workspace) (f : Failure) :
    ¬ Answered taken w (.brokenOff w [] f) := by
  rintro (⟨t, -, h⟩ | ⟨message, -, h⟩)
  · cases h
  · cases h

/-- Code is generated if the printer accepts the document. -/
theorem succeeds_code_iff {v : Json.Value} {nodes links : List Json.Value}
    (h : Document.Lists v nodes links) (format orientation : Text) :
    Document.Succeeds (code format v orientation) ↔ Accepts format nodes links := by
  unfold code Accepts
  split_ifs
  · rw [← Dot.succeeds_write_iff h orientation]
    cases Dot.write v orientation <;> simp
  · rw [← Mermaid.succeeds_write_iff h orientation]
    cases Mermaid.write v none orientation <;> simp

section Run

variable {taken : Taken} {path format : Text} (hin : taken.given "--in".toList = .value path)
  (hfmt : taken.given "--fmt".toList = .value format) (hout : output taken = [])

include hin hfmt hout

/-- A run that is to print its code generates it or fails before. -/
theorem body_eq (stdin : Text) (w : Workspace) :
    body taken stdin w = generate w format (Path.parse path) (orientation taken) [] := by
  have hrequest : request taken = .ok (format, Path.parse path) := by
    simp only [request, needed, hin, hfmt, Given.value?]
  unfold output at hout
  simp only [body, hrequest, hout, orientation]

/-- A text that is read as JSON is answered, unless the printer meets a
value of the wrong kind. -/
theorem body_of_json {w : Workspace} {t : Text} {v : Json.Value}
    (ht : readText w (Path.parse path) = .ok t) (hv : Json.read t = .ok v) (stdin : Text) :
    ((∀ nodes links, Document.Lists v nodes links → Accepts format nodes links) ∧
        Answered taken w (body taken stdin w)) ∨
      (∃ nodes links, Document.Lists v nodes links ∧ ¬ Accepts format nodes links) ∧
        ∃ f, body taken stdin w = .brokenOff w [] f := by
  rw [body_eq hin hfmt hout, generate]
  cases hvalid : Document.validate v with
  | error e =>
    have hdocument : readDocument w (Path.parse path) = .error (.notGraph e) := by
      simp only [readDocument, ht, hv, hvalid]
    refine .inl ⟨fun nodes links hlists => ?_, .inr ⟨e.message, oneLine_invalid hvalid, ?_⟩⟩
    · have hok := Document.validate_eq_ok_iff.mpr ⟨rfl, nodes, links, hlists⟩
      rw [hok] at hvalid
      cases hvalid
    · rw [hdocument]
      rfl
  | ok document =>
    obtain ⟨rfl, nodes, links, hlists⟩ := Document.validate_eq_ok_iff.mp hvalid
    have hdocument : readDocument w (Path.parse path) = .ok v := by
      simp only [readDocument, ht, hv, hvalid]
    have haccepts := succeeds_code_iff hlists format (orientation taken)
    rw [hdocument]
    cases hcode : code format v (orientation taken) with
    | error f =>
      refine .inr ⟨⟨nodes, links, hlists, ?_⟩, f, by simp only [hcode]⟩
      rw [← haccepts, hcode]
      exact Document.not_succeeds_error f
    | ok t =>
      refine .inl ⟨fun nodes' links' hlists' => ?_, .inl ⟨t, ?_, by simp only [hcode]; rfl⟩⟩
      · rw [← succeeds_code_iff hlists' format (orientation taken), hcode]
        exact Document.succeeds_ok t
      · exact ⟨format, path, v, by rw [hfmt]; rfl, by rw [hin]; rfl, hdocument, hcode⟩

/-- What the reader does not get through is reported or breaks the run off. -/
theorem body_of_readDocument {w : Workspace} {f : Failure}
    (h : readDocument w (Path.parse path) = .error f) (stdin : Text) :
    body taken stdin w = if isReported f then .reported w [] f.message else .brokenOff w [] f := by
  rw [body_eq hin hfmt hout, generate, h]

/-- The contents of the file decide whether a run answers or breaks off. -/
theorem answered_or_brokenOff (stdin : Text) (w : Workspace) :
    (Answerable format (w.read (Path.parse path)) ∧ Answered taken w (body taken stdin w)) ∨
      ¬ Answerable format (w.read (Path.parse path)) ∧
        ∃ f, body taken stdin w = .brokenOff w [] f := by
  cases hread : w.read (Path.parse path) with
  | error e =>
    have hdocument : readDocument w (Path.parse path) = .error (.file e) := by
      simp only [readDocument, readText, hread]
    rw [body_of_readDocument hin hfmt hout hdocument]
    by_cases hcause : e.cause = .nullCharacter
    · refine .inr ⟨?_, .file e, if_neg (by simp [isReported, Failure.isSystem, hcause])⟩
      rintro ⟨h⟩
      exact h hcause
    · refine .inl ⟨.refused hcause, .inr ⟨e.message, oneLine_fileError e, ?_⟩⟩
      exact if_pos (by simp [isReported, Failure.isSystem, hcause])
  | ok bytes =>
    cases hdecode : Utf8.decode bytes with
    | error f =>
      have hdocument : readDocument w (Path.parse path) = .error (.notUtf8 f) := by
        simp only [readDocument, readText, hread, hdecode]
      refine .inr ⟨?_, .notUtf8 f, body_of_readDocument hin hfmt hout hdocument stdin⟩
      rintro (_ | ⟨ht, _⟩ | ⟨ht, _, _⟩)
      · cases hdecode.symm.trans ht
      · cases hdecode.symm.trans ht
    | ok t =>
      have htext : readText w (Path.parse path) = .ok (unifyNewlines t) := by
        simp only [readText, hread, hdecode]
      rw [answerable_ok_iff hdecode]
      cases hjson : Json.read (unifyNewlines t) with
      | error e =>
        have hdocument : readDocument w (Path.parse path) = .error (.notJson e) := by
          simp only [readDocument, htext, hjson]
        rw [body_of_readDocument hin hfmt hout hdocument]
        cases e with
        | malformed problem line column offset =>
          exact .inl ⟨trivial, .inr ⟨_, oneLine_malformed .., rfl⟩⟩
        | longInteger digits => exact .inr ⟨id, _, rfl⟩
        | tooDeep c => exact .inr ⟨id, _, rfl⟩
      | ok v =>
        rcases body_of_json hin hfmt hout htext hjson stdin with
          hanswered | ⟨⟨nodes, links, hlists, hrejects⟩, hbroken⟩
        · exact .inl hanswered
        · exact .inr ⟨fun haccepts => hrejects (haccepts nodes links hlists), hbroken⟩

end Run

/-- A run that is to print its code answers exactly the files that are
answerable, with code or with one line; at any other one it breaks off. -/
theorem run_answers_iff {arguments : List Text} {taken : Taken} {path format : Text}
    (hparse : parse grammar arguments = .ok taken)
    (hin : taken.given "--in".toList = .value path)
    (hfmt : taken.given "--fmt".toList = .value format) (hout : output taken = [])
    (stdin : Text) (w : Workspace) :
    (Answered taken w (command.run arguments stdin w) ↔
      Answerable format (w.read (Path.parse path))) ∧
    (¬ Answerable format (w.read (Path.parse path)) →
      ∃ f, command.run arguments stdin w = .brokenOff w [] f) := by
  rw [run_eq_body hparse]
  rcases answered_or_brokenOff hin hfmt hout stdin w with
    ⟨hanswerable, hanswered⟩ | ⟨hnot, f, hbroken⟩
  · exact ⟨iff_of_true hanswered hanswerable, fun hnot => absurd hanswerable hnot⟩
  · rw [hbroken]
    exact ⟨iff_of_false (not_answered_brokenOff taken w f) hnot, fun _ => ⟨f, rfl⟩⟩

/-- A file with the given bytes. -/
def oneFile (bytes : List UInt8) : Workspace := ⟨⟨[(["g.json".toList], .file bytes)]⟩, []⟩

/-- Arguments that ask for the DOT code of the file. -/
def printing : List Text := ["--in".toList, "g.json".toList, "--fmt".toList, "dot".toList]

/-- What is taken from these arguments. -/
def askedToPrint : Taken :=
  ⟨[("--fmt".toList, some "dot".toList), ("--in".toList, some "g.json".toList)], [], none, []⟩

/-- A node without an identifier, which is passed over whatever it holds. -/
def unnamedDocument : Json.Value :=
  .obj [("nodes".toList, .arr [.obj [("members".toList, .bool true)]]), ("links".toList, .arr [])]

/-- The text of that document. -/
def unnamed : Text :=
  ['\n'].intercalate
    ["\x7b".toList, "  \"nodes\": [".toList, "    \x7b".toList, "      \"members\": true".toList,
     "    \x7d".toList, "  ],".toList, "  \"links\": []".toList, "\x7d".toList]

theorem read_unnamed : Json.read (unifyNewlines unnamed) = .ok unnamedDocument := by
  have hnode : Json.Textual 988 (.obj [("members".toList, .bool true)]) :=
    .obj (by decide) (List.forall_mem_singleton.mpr (.bool true))
  have htextual : Json.Textual Json.maxDepth unnamedDocument := by
    refine .obj (by decide) ?_
    simp only [List.forall_mem_cons]
    exact ⟨.arr (List.forall_mem_singleton.mpr hnode), .arr (by simp), by simp⟩
  have hwritten : unifyNewlines unnamed = Json.write unnamedDocument ++ [] := by decide +kernel
  rw [hwritten, Json.read_write htextual rfl]

/-- Text that is no JSON is answered, and so is a document with a value of
the wrong kind that no printer looks at. -/
theorem run_answers_iff_unnamed :
    parse grammar printing = .ok askedToPrint ∧ ∀ t ∈ ["[1,".toList, unnamed],
      Answered askedToPrint (oneFile (Utf8.encode t))
        (command.run printing [] (oneFile (Utf8.encode t))) := by
  have hparse : parse grammar printing = .ok askedToPrint := by decide
  have hin : askedToPrint.given "--in".toList = .value "g.json".toList := by decide
  have hfmt : askedToPrint.given "--fmt".toList = .value "dot".toList := by decide
  have hmalformed : Json.read (unifyNewlines "[1,".toList) =
      .error (.malformed .expectedValue 1 4 3) := by rfl
  refine ⟨hparse, ?_⟩
  intro t ht
  have hread : (oneFile (Utf8.encode t)).read (Path.parse "g.json".toList) =
      .ok (Utf8.encode t) := rfl
  rw [(run_answers_iff hparse hin hfmt rfl [] _).1, hread, answerable_ok_iff (Utf8.decode_encode t)]
  simp only [List.mem_cons, List.not_mem_nil, or_false] at ht
  rcases ht with rfl | rfl
  · rw [hmalformed]
    trivial
  · rw [read_unnamed]
    rintro nodes links ⟨fs, hfs, hnodes, hlinks⟩
    cases hfs
    cases hnodes
    cases hlinks
    have hpassed : Dot.DrawsNode [("members".toList, .bool true)] := by
      intro hid
      exact absurd hid (by decide)
    rw [Accepts, if_pos rfl]
    exact ⟨by simpa using hpassed, by simp⟩

/-- A byte that begins no character, and a node that is a number, break
the run off: there is neither code nor a message. -/
theorem run_breaks_off_unreported :
    parse grammar printing = .ok askedToPrint ∧
      (command.run printing [] (oneFile [0xFF]) =
          .brokenOff (oneFile [0xFF]) [] (.notUtf8 ⟨0, 1, 0xFF, .invalidStart⟩) ∧
        ¬ Answered askedToPrint (oneFile [0xFF]) (command.run printing [] (oneFile [0xFF]))) ∧
      let w := oneFile (Utf8.encode "\x7b\"nodes\": [1], \"links\": []\x7d".toList)
      command.run printing [] w = .brokenOff w [] (.document .notRecord) ∧
        ¬ Answered askedToPrint w (command.run printing [] w) := by
  have hbytes : command.run printing [] (oneFile [0xFF]) =
      .brokenOff (oneFile [0xFF]) [] (.notUtf8 ⟨0, 1, 0xFF, .invalidStart⟩) := by decide +kernel
  have hnumber : let w := oneFile (Utf8.encode "\x7b\"nodes\": [1], \"links\": []\x7d".toList)
      command.run printing [] w = .brokenOff w [] (.document .notRecord) := by decide +kernel
  refine ⟨by decide, ⟨hbytes, ?_⟩, hnumber, ?_⟩
  · rw [hbytes]
    exact not_answered_brokenOff _ _ _
  · rw [hnumber]
    exact not_answered_brokenOff _ _ _

end DiagramGraph.Cli.Generate
