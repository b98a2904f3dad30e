/-
DiagramGraph.Cli.Arguments — the arguments of a command.

A `Grammar` says which options a command knows and whether it takes an
operand. Arguments are first sorted one by one (`sort`): options are
recognised by name, by a long name's unique beginning, with a value
after `=`, or as a cluster of short ones, and all that follows `--` is
no option. Then they are taken from left to right (`take`). Options
that the grammar demands are missed only after all arguments were
taken, and arguments that nothing took are refused last.
-/
import DiagramGraph.Text.Digit
import DiagramGraph.Text.Quoted
import DiagramGraph.Text.Search

namespace DiagramGraph.Cli

open Text

/-! ## §1 Grammars -/

/-- What an option asks for. -/
inductive Asks
  | nothing
  | value
  | help
  deriving DecidableEq, Repr

/-- An option: its names, what it asks for, whether it must be given and,
if not empty, the values it can take. -/
structure Flag where
  names : List Text
  asks : Asks := .nothing
  required : Bool := false
  choices : List Text := []
  deriving DecidableEq, Repr

/-- The name of an option in messages. -/
def Flag.title (f : Flag) : Text := ['/'].intercalate f.names

/-- The options of a command, and the name of its operand if it has one. -/
structure Grammar where
  operand : Option Text := none
  flags : List Flag
  deriving DecidableEq, Repr

/-- The option that every command knows. -/
def helpFlag : Flag := ⟨["-h".toList, "--help".toList], .help, false, []⟩

/-- All options of a command, the one for help first. -/
def Grammar.allFlags (g : Grammar) : List Flag := helpFlag :: g.flags

/-- All names of options, each with its option. -/
def Grammar.names (g : Grammar) : List (Text × Flag) :=
  g.allFlags.flatMap (fun f => f.names.map (fun n => (n, f)))

/-- The option with the given name. -/
def Grammar.flag? (g : Grammar) (name : Text) : Option Flag :=
  (g.names.find? (fun n => n.1 = name)).map (·.2)

/-! ## §2 Errors -/

/-- Why arguments are refused. -/
inductive ArgumentError
  | ambiguous (argument : Text) (candidates : List Text)
  | expectedValue (f : Flag)
  | ignoredValue (f : Flag) (value : Text)
  | invalidChoice (f : Flag) (value : Text)
  | missing (names : List Text)
  | unrecognized (arguments : List Text)
  deriving DecidableEq, Repr

/-- The wording of an error. -/
def ArgumentError.message : ArgumentError → Text
  | .ambiguous argument candidates =>
    "ambiguous option: ".toList ++ argument ++ " could match ".toList ++
      ", ".toList.intercalate candidates
  | .expectedValue f => "argument ".toList ++ f.title ++ ": expected one argument".toList
  | .ignoredValue f value =>
    "argument ".toList ++ f.title ++ ": ignored explicit argument ".toList ++ quoted value
  | .invalidChoice f value =>
    "argument ".toList ++ f.title ++ ": invalid choice: ".toList ++ quoted value ++
      " (choose from ".toList ++ ", ".toList.intercalate (f.choices.map quoted) ++ [')']
  | .missing names =>
    "the following arguments are required: ".toList ++ ", ".toList.intercalate names
  | .unrecognized arguments =>
    "unrecognized arguments: ".toList ++ [' '].intercalate arguments

/-! ## §3 Sorting -/

/-- The argument after which no argument is an option. -/
def dividerMark : Text := "--".toList

/-- What an argument is. An option may have a text attached to it, after
an equals sign or directly. -/
inductive Sorted
  | operand (t : Text)
  | divider
  | option (f : Flag) (long : Bool) (attached : Option Text)
  | unknown (t : Text)
  deriving DecidableEq, Repr

/-- A negative number: it is an operand, though it starts with a dash. -/
def isNegativeNumber (t : Text) : Bool :=
  match dropFinalNewline t with
  | '-' :: rest =>
    match rest.dropWhile isDecimal with
    | [] => !rest.isEmpty
    | '.' :: fraction => !fraction.isEmpty && fraction.all isDecimal
    | _ => false
  | _ => false

/-- Is the argument written as a long name, with two dashes? -/
def isLong (t : Text) : Bool := "--".toList.isPrefixOf t

/-- An argument before and after its first equals sign. -/
def splitEquals (t : Text) : Text × Option Text :=
  match cutAt '=' t with
  | some (name, value) => (name, some value)
  | none => (t, none)

/-- The options whose long names start as the argument does. -/
def longMatches (g : Grammar) (t : Text) : List (Text × Sorted) :=
  let (start, attached) := splitEquals t
  (g.names.filter (fun n => start.isPrefixOf n.1)).map
    (fun n => (n.1, .option n.2 true attached))

/-- The short option that the argument starts with; the rest is attached. -/
def shortMatches (g : Grammar) (t : Text) : List (Text × Sorted) :=
  (g.names.filter (fun n => n.1 = t.take 2)).map
    (fun n => (n.1, .option n.2 false (some (t.drop 2))))

/-- An argument that starts with a dash and is no option. -/
def sortUnknown (t : Text) : Sorted :=
  if isNegativeNumber t || t.contains ' ' then .operand t else .unknown t

/-- Sorts one argument that does not follow a divider. -/
def sortOne (g : Grammar) (t : Text) : Except ArgumentError Sorted :=
  if t.head? ≠ some '-' then .ok (.operand t)
  else
    match g.flag? t with
    | some f => .ok (.option f (isLong t) none)
    | none =>
      if t.length = 1 then .ok (.operand t)
      else
        let (name, attached) := splitEquals t
        match attached, g.flag? name with
        | some a, some f => .ok (.option f (isLong t) (some a))
        | _, _ =>
          match if isLong t then longMatches g t else shortMatches g t with
          | [] => .ok (sortUnknown t)
          | [(_, s)] => .ok s
          | several => .error (.ambiguous t (several.map (·.1)))

/-- Sorts the arguments; after a divider all are operands. -/
def sort (g : Grammar) : List Text → Except ArgumentError (List Sorted)
  | [] => .ok []
  | t :: rest =>
    if t = dividerMark then .ok (.divider :: rest.map .operand)
    else
      match sortOne g t with
      | .error e => .error e
      | .ok s => (sort g rest).map (s :: ·)

/-! ## §4 Taking -/

/-- What was taken so far: the values of options, none for a blank one,
and the options that ask for none, by their first names and the latest
first; the operand; and the arguments that nothing took, in order. -/
structure Taken where
  values : List (Text × Option Text) := []
  switches : List Text := []
  operand : Option Text := none
  extra : List Text := []
  deriving DecidableEq, Repr

/-- Why taking stopped. -/
inductive Halt
  | help
  | error (e : ArgumentError)
  deriving DecidableEq, Repr

/-- The name under which an option is kept. -/
def Flag.key (f : Flag) : Text := f.names.headD []

/-- Takes an option without a value. -/
def Taken.switch (s : Taken) (f : Flag) : Except Halt Taken :=
  if f.asks = .help then .error .help else .ok { s with switches := f.key :: s.switches }

/-- Takes an option with its value. A divider stands for no value: the
option then is given, but blank, and no choice is looked at. -/
def Taken.set (s : Taken) (f : Flag) (value : Text) : Except Halt Taken :=
  if value = dividerMark then .ok { s with values := (f.key, none) :: s.values }
  else if f.choices.isEmpty || f.choices.contains value then
    .ok { s with values := (f.key, some value) :: s.values }
  else .error (.error (.invalidChoice f value))

/-- What follows the short options of one argument. -/
inductive ClusterEnd
  /-- Nothing. -/
  | done
  /-- An option with its value. -/
  | value (f : Flag) (value : Text)
  /-- An option whose value is the next argument. -/
  | awaits (f : Flag)
  deriving DecidableEq, Repr

/-- Takes apart what is attached to the short option `f`, which asks for
no value: each character names a further short option, and all that
follows one that asks for a value is its value. -/
def cluster (g : Grammar) (f : Flag) : Text → Except ArgumentError (List Flag × ClusterEnd)
  | [] => .error (.ignoredValue f [])
  | c :: rest =>
    match g.flag? ['-', c], rest with
    | none, _ => .error (.ignoredValue f (c :: rest))
    | some next, [] =>
      .ok (if next.asks = .value then ([f], .awaits next) else ([f, next], .done))
    | some next, d :: more =>
      if next.asks = .value then .ok ([f], .value next (d :: more))
      else (cluster g next (d :: more)).map (fun r => (f :: r.1, r.2))

/-- What an option comes to: options without a value and what follows them. -/
def resolve (g : Grammar) (f : Flag) (long : Bool) (attached : Option Text) :
    Except ArgumentError (List Flag × ClusterEnd) :=
  match attached with
  | none => .ok (if f.asks = .value then ([], .awaits f) else ([f], .done))
  | some t =>
    if f.asks = .value then .ok ([], .value f t)
    else if long then .error (.ignoredValue f t)
    else cluster g f t

/-- How far taking has come: the options whose value is the next
argument, with those before them in the same argument, and whether the
argument before was the operand. -/
structure Progress where
  taken : Taken := {}
  waiting : Option (List Flag × Flag) := none
  fresh : Bool := false
  deriving DecidableEq, Repr

/-- Takes options without a value, then one with a value if there is one. -/
def Taken.apply (s : Taken) (switches : List Flag) (value : Option (Flag × Text)) :
    Except Halt Taken :=
  match switches.foldlM Taken.switch s with
  | .error halt => .error halt
  | .ok s' =>
    match value with
    | none => .ok s'
    | some (f, v) => s'.set f v

/-- Keeps an argument that nothing took. -/
def Taken.leave (s : Taken) (t : Text) : Taken := { s with extra := s.extra ++ [t] }

/-- Takes one argument where no value is awaited. The first operand is
the command's, and a divider goes with it that stands directly after it
or, if more follows, before it. -/
def takeFree (g : Grammar) (p : Progress) (last : Bool) : Sorted → Except Halt Progress
  | .operand t =>
    if g.operand.isSome && p.taken.operand.isNone then
      .ok { taken := { p.taken with operand := some t }, fresh := true }
    else .ok { taken := p.taken.leave t }
  | .divider =>
    if p.fresh || (g.operand.isSome && p.taken.operand.isNone && !last) then
      .ok { taken := p.taken }
    else .ok { taken := p.taken.leave dividerMark }
  | .unknown t => .ok { taken := p.taken.leave t }
  | .option f long attached =>
    match resolve g f long attached with
    | .error e => .error (.error e)
    | .ok (switches, .done) => (p.taken.apply switches none).map ({ taken := · })
    | .ok (switches, .value f v) => (p.taken.apply switches (some (f, v))).map ({ taken := · })
    | .ok (switches, .awaits f) => .ok { taken := p.taken, waiting := some (switches, f) }

/-- Takes one argument; `last` says whether it is the last one. -/
def takeOne (g : Grammar) (p : Progress) (last : Bool) (x : Sorted) : Except Halt Progress :=
  match p.waiting, x with
  | none, _ => takeFree g p last x
  | some (switches, f), .operand v =>
    (p.taken.apply switches (some (f, v))).map ({ taken := · })
  | some (_, f), _ => .error (.error (.expectedValue f))

/-- Takes the sorted arguments from left to right. -/
def take (g : Grammar) (p : Progress) : List Sorted → Except Halt Taken
  | [] =>
    match p.waiting with
    | some (_, f) => .error (.error (.expectedValue f))
    | none => .ok p.taken
  | x :: rest =>
    match takeOne g p rest.isEmpty x with
    | .error halt => .error halt
    | .ok p' => take g p' rest

/-! ## §5 Parsing -/

/-- What the grammar demands and was not given. -/
def missing (g : Grammar) (s : Taken) : List Text :=
  (if s.operand.isNone then g.operand.toList else []) ++
    (g.flags.filter (fun f => f.required && !s.values.any (fun v => v.1 = f.key))).map Flag.title

/-- What the arguments say. -/
def parse (g : Grammar) (arguments : List Text) : Except Halt Taken :=
  match sort g arguments with
  | .error e => .error (.error e)
  | .ok sorted =>
    match take g {} sorted with
    | .error halt => .error halt
    | .ok s =>
      if !(missing g s).isEmpty then .error (.error (.missing (missing g s)))
      else if !s.extra.isEmpty then .error (.error (.unrecognized s.extra))
      else .ok s

/-! ## §6 What was given -/

/-- What was given for an option. -/
inductive Given
  /-- The option is not among the arguments. -/
  | absent
  /-- The option is there, with a divider for its value. -/
  | blank
  /-- The option has a value. -/
  | value (t : Text)
  deriving DecidableEq, Repr

/-- The value, if there is one. -/
def Given.value? : Given → Option Text
  | .value t => some t
  | _ => none

/-- What was given last for an option. -/
def Taken.given (s : Taken) (key : Text) : Given :=
  match s.values.find? (fun v => v.1 = key) with
  | none => .absent
  | some (_, none) => .blank
  | some (_, some t) => .value t

/-- Was the option given? -/
def Taken.has (s : Taken) (key : Text) : Bool := s.switches.contains key

end DiagramGraph.Cli
