/-
The configuration of a check: the marker to look for, the library modules
that count as pure, the impure functions of partially pure modules,
whether repeated names are reported, and the paths to check.

Settings come as a table of values. Every setting may be left out; one
that is there is read leniently, and all faults of all settings are
reported together, in a fixed order. Consumed by the report of a run and
by the command line.
-/
import Purity.Config.Value
import Purity.Map
import Purity.Text.Quoted

namespace Purity

-- ======================================================== configuration

/-- The configuration of a check. -/
structure Config where
  /-- The dotted name of the marker. -/
  marker : String := "pure_module_check.pure_module"
  /-- Library modules that count as pure. An entry that ends in `.*` stands
  for everything below a module. -/
  standardPure : List String := [
    "__future__", "abc", "bisect", "collections", "collections.*",
    "contextlib", "copy", "dataclasses", "datetime", "datetime.*", "decimal",
    "enum", "fractions", "functools", "heapq", "itertools", "json",
    "math", "numbers", "operator", "re", "statistics", "string", "textwrap",
    "types", "typing", "typing.*", "typing_extensions", "logging", "importlib"]
  /-- Further modules that count as pure. -/
  extraPure : List String := []
  /-- Partially pure modules, with their impure functions. -/
  impureFunctions : Map (List String) :=
    .ofList [("datetime", ["now", "utcnow", "today"])]
  /-- Report names that are defined twice. -/
  reportDuplicates : Bool := false
  /-- The paths to check when none are given. -/
  paths : List String := ["src"]

/-- All entries of modules that count as pure. -/
def Config.library (c : Config) : List String := c.standardPure ++ c.extraPure

-- =============================================================== faults

/-- What is wrong with a value. -/
inductive FaultKind where
  | notText
  | notList
  | notTable
  /-- An integer or a text that stands for neither truth value. -/
  | unclearBool
  | notBool
  /-- A list without any valid item where one is needed. -/
  | tooShort
  /-- A marker that is not a dotted name. -/
  | notDotted (marker : String)
  | unknownKey

namespace FaultKind

/-- The short name of a fault. -/
def code : FaultKind → String
  | notText => "string_type"
  | notList => "tuple_type"
  | notTable => "dict_type"
  | unclearBool => "bool_parsing"
  | notBool => "bool_type"
  | tooShort => "too_short"
  | notDotted _ => "value_error"
  | unknownKey => "extra_forbidden"

/-- The wording of a fault. -/
def message : FaultKind → String
  | notText => "Input should be a valid string"
  | notList => "Input should be a valid tuple"
  | notTable => "Input should be a valid dictionary"
  | unclearBool => "Input should be a valid boolean, unable to interpret input"
  | notBool => "Input should be a valid boolean"
  | tooShort => "Tuple should have at least 1 item after validation, not 0"
  | notDotted marker =>
      "Value error, pure_mod_marker must be a dotted name, got " ++
        Text.quoted marker
  | unknownKey => "Extra inputs are not permitted"

end FaultKind

/-- A fault and where it is: the key of the setting, then keys and indices
inside its value. -/
structure Fault where
  location : List String
  kind : FaultKind

/-- The order in which faults are listed: by location, then by name. -/
def Fault.noLater (a b : Fault) : Bool :=
  a.location < b.location ||
    (a.location == b.location && a.kind.code ≤ b.kind.code)

/-- Why a table of settings is refused. -/
inductive ConfigFault where
  /-- A key that no table of settings can hold, since its name is taken. -/
  | reservedKey
  /-- Faults of single settings, at least one. -/
  | invalid (faults : List Fault)

-- ============================================================== reading

namespace Config

/-- Reading gives a value or faults. -/
abbrev Reading (α : Type) := Except (List Fault) α

/-- The faults of a reading. -/
def Reading.faults {α : Type} : Reading α → List Fault
  | .ok _ => []
  | .error fs => fs

/-- All of several readings, or the faults of all. -/
def allOf {α : Type} (readings : List (Reading α)) : Reading (List α) :=
  match readings.flatMap Reading.faults with
  | [] => .ok (readings.filterMap Except.toOption)
  | fs => .error fs

/-- A text. -/
def readText (location : List String) : Value → Reading String
  | .text s => .ok s
  | _ => .error [{ location, kind := .notText }]

/-- The readings of the items of a list. -/
def readItems (location : List String) (items : List Value) :
    List (Reading String) :=
  items.zipIdx.map fun (item, i) => readText (location ++ [toString i]) item

/-- A list of texts. -/
def readTexts (location : List String) : Value → Reading (List String)
  | .list items => allOf (readItems location items)
  | _ => .error [{ location, kind := .notList }]

/-- A list with at least one text. -/
def readSomeTexts (location : List String) : Value → Reading (List String)
  | .list items =>
      let readings := readItems location items
      if readings.any (·.isOk) then allOf readings
      else .error (readings.flatMap Reading.faults ++
        [{ location, kind := .tooShort }])
  | _ => .error [{ location, kind := .notList }]

/-- A table whose values are lists of texts. -/
def readTextTable (location : List String) :
    Value → Reading (Map (List String))
  | .table entries => do
      let read ← allOf (entries.map fun (key, value) =>
        (readTexts (location ++ [key]) value).map fun texts => (key, texts))
      return .ofList read
  | _ => .error [{ location, kind := .notTable }]

/-- The texts that stand for a truth value, in any case of letters. -/
def boolWords : List (String × Bool) := [
  ("0", false), ("off", false), ("f", false), ("false", false), ("n", false),
  ("no", false), ("1", true), ("on", true), ("t", true), ("true", true),
  ("y", true), ("yes", true)]

/-- The truth value that an integer stands for. One beyond 64 bits is not
even considered, nor is the least one of them unless it is written as an
integer. -/
def boolOfInt (location : List String) (written : Bool) (n : Int) :
    Reading Bool :=
  let bound := Int.pow 2 63
  if n = 0 then .ok false
  else if n = 1 then .ok true
  else if (-bound < n ∧ n < bound) ∨ (written ∧ n = -bound) then
    .error [{ location, kind := .unclearBool }]
  else .error [{ location, kind := .notBool }]

/-- A truth value, or a number or text that stands for one. -/
def readBool (location : List String) : Value → Reading Bool
  | .bool b => .ok b
  | .int n => boolOfInt location true n
  | .text s =>
      match boolWords.lookup (s.map Char.toLower) with
      | some b => .ok b
      | none => .error [{ location, kind := .unclearBool }]
  | .float negative x =>
      match x.whole? with
      | some n => boolOfInt location false (if negative then -n else n)
      | none => .error [{ location, kind := .notBool }]
  | _ => .error [{ location, kind := .notBool }]

/-- May a word start with this character: a letter or an underscore? -/
def startsWord (c : Char) : Bool := c.isAlpha || c = '_'

/-- May a word go on with this character: a letter, a digit or an
underscore? -/
def continuesWord (c : Char) : Bool := c.isAlphanum || c = '_'

/-- Is a text words with dots between them? It is read from left to right;
`started` says that a word has been started, which may end here. A line end
may follow the last word. -/
def isDotted : (started : Bool) → List Char → Bool
  | started, [] => started
  | false, c :: cs => startsWord c && isDotted true cs
  | true, c :: cs =>
      if continuesWord c then isDotted true cs
      else if c = '.' then isDotted false cs
      else c = '\n' && cs.isEmpty

/-- Can a text be the name of the marker? -/
def isMarker (marker : String) : Bool := isDotted false marker.toList

/-- The name of a marker. -/
def readMarker (location : List String) (value : Value) : Reading String := do
  let marker ← readText location value
  if isMarker marker then .ok marker
  else .error [{ location, kind := .notDotted marker }]

-- ============================================================= settings

/-- The keys of all settings. -/
def keys : List String := [
  "pure_mod_marker", "stdlib_pure_mods", "extra_pure_mods",
  "stdlib_partial_pure_mods_impure_functions", "report_duplicate_modules",
  "paths"]

/-- One setting: what its value reads as, or the default. -/
def setting {α : Type} (table : List (String × Value)) (key : String)
    (read : List String → Value → Reading α) (default : α) : Reading α :=
  match table.lookup key with
  | some value => read [key] value
  | none => .ok default

/-- The configuration that a table of settings describes. -/
def ofTable (table : List (String × Value)) : Except ConfigFault Config :=
  let default : Config := {}
  let marker := setting table "pure_mod_marker" readMarker default.marker
  let standardPure :=
    setting table "stdlib_pure_mods" readTexts default.standardPure
  let extraPure := setting table "extra_pure_mods" readTexts default.extraPure
  let impureFunctions :=
    setting table "stdlib_partial_pure_mods_impure_functions" readTextTable
      default.impureFunctions
  let reportDuplicates :=
    setting table "report_duplicate_modules" readBool default.reportDuplicates
  let paths := setting table "paths" readSomeTexts default.paths
  let unknown := (table.filter fun (key, _) => key ∉ keys).map fun (key, _) =>
    { location := [key], kind := .unknownKey : Fault }
  if (table.map Prod.fst).contains "cls" then .error .reservedKey
  else match marker, standardPure, extraPure, impureFunctions,
    reportDuplicates, paths, unknown with
    | .ok marker, .ok standardPure, .ok extraPure, .ok impureFunctions,
        .ok reportDuplicates, .ok paths, [] =>
        .ok {
          marker, standardPure, extraPure, impureFunctions, reportDuplicates,
          paths }
    | _, _, _, _, _, _, _ =>
        let found :=
          marker.faults ++ standardPure.faults ++ extraPure.faults ++
            impureFunctions.faults
          ++ reportDuplicates.faults ++ paths.faults ++ unknown
        .error (.invalid (found.mergeSort Fault.noLater))

end Config

end Purity
