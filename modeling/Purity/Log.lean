/-
The log of a run, as data. Each record says what happened; its level,
the part of the program it comes from and its wording are functions of
the record. Consumed by every step that has something to report, and
written out by the command line.
-/
import Purity.Text.Quoted

namespace Purity

/-- How serious a record is. -/
inductive Level where
  | debug
  | warning
  deriving DecidableEq

/-- The name a level is shown with. -/
def Level.label : Level → String
  | debug => "DEBUG"
  | warning => "WARNING"

/-- Something worth noting that happened during a run. -/
inductive LogRecord where
  /-- A class whose line is not in a file or class body. -/
  | noScope (name location : String)
  /-- A second definition of a name in one file. -/
  | redefined (name location : String) (previousLine : Int)
  /-- A marker in a function, or outside every registered definition. -/
  | markerIgnored (location : String)
  /-- A marker option whose value is not a literal. -/
  | unreadableForce (expression : String)
  /-- An impure call that is made while its module is loaded. -/
  | callOutsideFunction (module function location : String)
  /-- An impure call that no definition answers for. -/
  | callWithoutOwner (scope module function : String)
  /-- A name that two files define. -/
  | definedTwice (name firstFile : String) (firstLine : Int)
      (lastFile : String) (lastLine : Int)
  /-- A path that is neither a source file nor a directory. -/
  | notSource (path : String)
  /-- A file that could not be read or parsed. -/
  | unparsable (failure : String)
  /-- The end of a run, with its counts. -/
  | checked (files modules marked diagnostics : Nat)

namespace LogRecord

/-- Only replaced definitions and skipped paths are warnings. -/
def level : LogRecord → Level
  | redefined .. | definedTwice .. | notSource .. | unparsable .. => .warning
  | _ => .debug

/-- The part of the program that speaks. -/
def origin : LogRecord → String
  | definedTwice .. => "pure_module_check.registry"
  | notSource .. => "pure_module_check.sources"
  | unparsable .. | checked .. => "pure_module_check.runner"
  | _ => "pure_module_check.walker"

/-- The wording of a record. -/
def message : LogRecord → String
  | noScope name location =>
      "No module scope for class " ++ name ++ " at " ++ location
  | redefined name location previousLine =>
      "Module " ++ name ++ " redefined at " ++ location ++
        "; definition at line "
        ++ toString previousLine ++ " is overwritten"
  | markerIgnored location =>
      "Purity marker at " ++ location ++
        " is not in a module or class body; ignored"
  | unreadableForce expression =>
      "Non-literal force option " ++ Text.quoted expression ++
        " treated as False"
  | callOutsideFunction module function location =>
      "Call " ++ module ++ "." ++ function ++ " at " ++ location ++
        " is outside a function; skipped"
  | callWithoutOwner scope module function =>
      "No module state for scope " ++ scope ++ "; call " ++ module ++ "." ++
        function ++ " skipped"
  | definedTwice name firstFile firstLine lastFile lastLine =>
      "Module " ++ name ++ " is defined in both " ++ firstFile ++ ":" ++
        toString firstLine ++ " and "
        ++ lastFile ++ ":" ++ toString lastLine ++ "; keeping the latter"
  | notSource path => "Skipping " ++ path ++ ": not a Python file or directory"
  | unparsable failure => "Skipping unparsable file " ++ failure
  | checked files modules marked diagnostics =>
      "Checked " ++ toString files ++ " files: " ++ toString modules ++
        " modules, "
        ++ toString marked ++ " marked pure, " ++ toString diagnostics ++
          " diagnostics"

/-- A record as one line of the log. -/
def render (r : LogRecord) : String :=
  r.level.label ++ " " ++ r.origin ++ ": " ++ r.message

end LogRecord

end Purity
