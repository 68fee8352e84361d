/-
The arguments of the command line. Every argument is first taken for an
option or for a path, then they are consumed from the left: options with
their values, and the first unbroken run of paths. Long options can be
abbreviated, short ones share a dash, and a double dash makes paths of all
that follow.

Consumed by the command line.
-/
import Purity.Files.Path
import Purity.Text.CharClass
import Purity.Text.Quoted

namespace Purity.CommandLine

-- ============================================================== options

/-- The options. -/
inductive Opt where
  | help
  | config
  | explain
  | verbose
  deriving DecidableEq

namespace Opt

/-- The spellings of all options. -/
def spellings : List (String × Opt) := [
  ("-h", help), ("--help", help), ("--config", config), ("--explain", explain),
  ("--verbose", verbose), ("-v", verbose)]

/-- An option as it is named in messages. -/
def label : Opt → String
  | help => "-h/--help"
  | config => "--config"
  | explain => "--explain"
  | verbose => "--verbose/-v"

/-- Does an option take a value? -/
def takesValue : Opt → Bool
  | config | explain => true
  | help | verbose => false

end Opt

/-- The value of an option. -/
inductive Setting (α : Type) where
  /-- The option is not used. -/
  | absent
  /-- A double dash stands in place of the value, and there is none. -/
  | hollow
  | given (value : α)
  deriving DecidableEq

/-- The value, if there is one. -/
def Setting.value? {α : Type} : Setting α → Option α
  | given a => some a
  | absent | hollow => none

/-- What the command line asks for. -/
structure Arguments where
  paths : List Path := []
  config : Setting Path := .absent
  explain : Setting String := .absent
  verbose : Bool := false
  deriving DecidableEq

/-- What comes out of reading the command line. -/
inductive Request where
  | help
  /-- The arguments make no sense, with the reason. -/
  | misuse (message : String)
  | run (arguments : Arguments)
  deriving DecidableEq

-- ======================================================= classification

/-- An option in an argument: how it is spelled, and the value or further
options that stand in the same argument. -/
structure Use where
  opt : Opt
  spelling : String
  attached : Option String

/-- What an argument is taken for. -/
inductive Mark where
  | path
  /-- The double dash. -/
  | divider
  | option (use : Use)
  /-- It looks like an option, but there is none of that name. -/
  | unknown

/-- Cuts an argument at its first sign of equality. -/
def splitEqual (arg : String) : Option (String × String) :=
  let cs := arg.toList
  if '=' ∈ cs then
    some (String.ofList (cs.takeWhile (· ≠ '=')),
      String.ofList ((cs.dropWhile (· ≠ '=')).drop 1))
  else none

/-- The options that an argument may stand for by its beginning. -/
def candidates (arg : String) : List Use :=
  if arg.startsWith "--" then
    let (start, attached) := match splitEqual arg with
      | some (start, value) => (start, some value)
      | none => (arg, none)
    Opt.spellings.filterMap fun (spelling, opt) =>
      if spelling.startsWith start then some { opt, spelling, attached }
      else none
  else
    let cs := arg.toList
    let short := String.ofList (cs.take 2)
    Opt.spellings.filterMap fun (spelling, opt) =>
      if spelling = short then
        some { opt, spelling, attached := some (String.ofList (cs.drop 2)) }
      else if spelling.startsWith arg then
        some { opt, spelling, attached := none }
      else none

/-- Is it a negative number, in the digits of any script? A line end may
follow. -/
def isNegativeNumber (arg : String) : Bool :=
  let cs := arg.toList
  let cs := if cs.getLast? = some '\n' then cs.dropLast else cs
  match cs with
  | '-' :: cs =>
      let whole := cs.takeWhile Text.isDecimalDigit
      match cs.drop whole.length with
      | [] => !whole.isEmpty
      | '.' :: fraction =>
          !fraction.isEmpty && fraction.all Text.isDecimalDigit
      | _ => false
  | _ => false

/-- What an argument is taken for, before any double dash. An abbreviation
of several options is an error. -/
def classifyArgument (arg : String) : Except String Mark :=
  if !arg.startsWith "-" then .ok .path
  else match Opt.spellings.lookup arg with
    | some opt => .ok (.option { opt, spelling := arg, attached := none })
    | none =>
        if arg.length = 1 then .ok .path
        else
          let exact := (splitEqual arg).bind fun (start, value) =>
            (Opt.spellings.lookup start).map fun opt =>
              { opt, spelling := start, attached := some value }
          match exact, candidates arg with
          | some use, _ => .ok (.option use)
          | none, [use] => .ok (.option use)
          | none, [] =>
              if isNegativeNumber arg || arg.toList.contains ' ' then .ok .path
              else .ok .unknown
          | none, uses =>
              .error ("ambiguous option: " ++ arg ++ " could match "
                ++ ", ".intercalate (uses.map Use.spelling))

/-- All arguments with what they are taken for. -/
def classifyAll : List String → Except String (List (String × Mark))
  | [] => .ok []
  | "--" :: rest => .ok (("--", .divider) :: rest.map fun arg => (arg, .path))
  | arg :: rest => do
      let mark ← classifyArgument arg
      let marks ← classifyAll rest
      return (arg, mark) :: marks

-- ========================================================== consumption

/-- The message about a value that an option does not take. -/
def ignoredValue (opt : Opt) (value : String) : String :=
  "argument " ++ opt.label ++ ": ignored explicit argument " ++
    Text.quoted value

/-- The options that follow a short one in the same argument. All but the
last come without a value. -/
def cluster (opt : Opt) (done : List (Opt × Option String)) :
    List Char → Except String (List (Opt × Option String))
  | [] => .ok (done ++ [(opt, none)])
  | c :: cs =>
      let attached := String.ofList (c :: cs)
      if opt.takesValue then .ok (done ++ [(opt, some attached)])
      else match Opt.spellings.lookup (String.ofList ['-', c]) with
        | some next => cluster next (done ++ [(opt, none)]) cs
        | none => .error (ignoredValue opt attached)

/-- The options in one argument, with the values that stand in it. -/
def Use.expand (u : Use) : Except String (List (Opt × Option String)) :=
  match u.attached with
  | none => .ok [(u.opt, none)]
  | some value =>
      if u.opt.takesValue then .ok [(u.opt, some value)]
      else if u.spelling.startsWith "--" || value = "" then
        .error (ignoredValue u.opt value)
      else cluster u.opt [] value.toList

/-- The setting that a value text makes. -/
def settingOf {α : Type} (read : String → α) (value : String) : Setting α :=
  if value = "--" then .hollow else .given (read value)

/-- The request after an option has taken effect. Asking for help ends the
reading. -/
def Opt.apply (args : Arguments) (opt : Opt) (value : String) :
    Option Arguments :=
  match opt with
  | .help => none
  | .config => some { args with config := settingOf Path.ofString value }
  | .explain => some { args with explain := settingOf id value }
  | .verbose => some { args with verbose := true }

/-- What has been consumed so far. -/
structure Progress where
  args : Arguments := {}
  /-- The paths have been taken. -/
  done : Bool := false
  /-- Arguments that have no place. -/
  extras : List String := []

/-- Takes a run of arguments as the paths, unless there have been some. The
first double dash among them only divides. -/
def Progress.take (p : Progress) (run : List String) : Progress :=
  if p.done then { p with extras := p.extras ++ run }
  else { p with
    done := true,
    args := { p.args with paths := (run.erase "--").map Path.ofString } }

/-- Is an argument taken for an option? -/
def Mark.isOption : Mark → Bool
  | option _ | unknown => true
  | path | divider => false

/-- Lets options take effect, the last of which may take its value from
the arguments behind. Gives the arguments left. -/
def applyAll (args : Arguments) (rest : List (String × Mark)) :
    List (Opt × Option String) →
    Except Request (Arguments × List (String × Mark))
  | [] => .ok (args, rest)
  | (opt, value) :: others =>
      let found : Except Request (String × List (String × Mark)) :=
        match value, opt.takesValue, rest with
        | some v, _, _ => .ok (v, rest)
        | none, false, _ => .ok ("", rest)
        | none, true, (v, .path) :: left => .ok (v, left)
        | none, true, _ =>
            .error (.misuse ("argument " ++ opt.label ++
              ": expected one argument"))
      match found with
      | .error r => .error r
      | .ok (v, rest) =>
          match opt.apply args v with
          | none => .error .help
          | some args => applyAll args rest others

/-- Consumes classified arguments from the left. -/
def consume : (steps : Nat) → Progress → List (String × Mark) → Request
  | 0, p, _ => .run p.args
  | steps + 1, p, marks =>
      match marks with
      | (_, .option u) :: rest =>
          match u.expand with
          | .error message => .misuse message
          | .ok opts =>
              match applyAll p.args rest opts with
              | .error r => r
              | .ok (args, rest) => consume steps { p with args } rest
      | (arg, .unknown) :: rest =>
          consume steps { p with extras := p.extras ++ [arg] } rest
      | _ =>
          let run := marks.takeWhile fun (_, m) => !m.isOption
          let p := p.take (run.map Prod.fst)
          match marks.drop run.length with
          | [] =>
              if p.extras.isEmpty then .run p.args
              else .misuse ("unrecognized arguments: " ++
                " ".intercalate p.extras)
          | left => consume steps p left

/-- Reads the command line. -/
def readArguments (argv : List String) : Request :=
  match classifyAll argv with
  | .error message => .misuse message
  | .ok marks => consume (marks.length + 1) {} marks

end Purity.CommandLine
