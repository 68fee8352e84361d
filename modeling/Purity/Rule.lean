/-
The three rules, with every text that names them: the one-line message
of a finding, and the explanation with an example before and after.
Consumed by the classification and by the command line.
-/
import Purity.Text.CodePoint

namespace Purity

/-- What a finding can be about. -/
inductive Rule where
  /-- A pure definition depends on something that is not known to be pure. -/
  | impureDependencies
  /-- A pure definition calls a function known to be impure. -/
  | impureCalls
  /-- A name is defined more than once. -/
  | duplicateDefinition
  deriving DecidableEq

namespace Rule

/-- All rules, in the order of their codes. -/
def all : List Rule := [impureDependencies, impureCalls, duplicateDefinition]

/-- The code a rule is known by. -/
def code : Rule → String
  | impureDependencies => "PMC001"
  | impureCalls => "PMC002"
  | duplicateDefinition => "PMC003"

/-- The rule with exactly this code. -/
def ofCode? (code : String) : Option Rule := all.find? (·.code == code)

/-- What a finding says about a module, without its items. -/
def complaint : Rule → String
  | impureDependencies => " marked as pure but has impure dependencies: "
  | impureCalls => " marked as pure but calls impure functions: "
  | duplicateDefinition => " is defined more than once: "

/-- The message of a finding about a module, listing the items at fault. -/
def message (rule : Rule) (module : String) (items : List RawText) : String :=
  "Module " ++ module ++ rule.complaint ++ Text.quotedList items

-- ======================================================== explanations

/-- The rule in a few words. -/
def summary : Rule → String
  | impureDependencies => "pure module has impure dependencies"
  | impureCalls => "pure module calls impure functions"
  | duplicateDefinition => "module defined more than once"

/-- Text given line by line. -/
def lines (texts : List String) : String := "\n".intercalate texts

/-- What the rule demands, and what to do about a finding. -/
def explanation : Rule → String
  | impureDependencies =>
      lines [
        "A module marked with the purity marker may only depend on:",
        "  - modules listed in stdlib_pure_mods or extra_pure_mods " ++
          "(exact or `pkg.*`)",
        "  - other modules of the project that are marked pure",
        "  - protocol definitions",
        "Mark the dependency pure, move the impure code out of the module, or",
        "list a trusted library in extra_pure_mods."]
  | impureCalls =>
      lines [
        "Some library modules are pure except for a few functions, listed in",
        "stdlib_partial_pure_mods_impure_functions. By default these are the",
        "clock readings datetime.now, datetime.utcnow and datetime.today.",
        "Calling one of them makes the result depend on when it runs."]
  | duplicateDefinition =>
      lines [
        "Module states are keyed by fully-qualified name. " ++
          "When two definitions",
        "share a name only the last one is checked. Reported only when",
        "report_duplicate_modules is enabled."]

/-- Code that breaks the rule. -/
def before : Rule → String
  | impureDependencies =>
      lines [
        "# ❌ FLAGGED",
        "import pure_module_check",
        "import os",
        "",
        "pure_module_check.pure_module()",
        "",
        "def config_dir() -> str:",
        "    return os.getcwd()"]
  | impureCalls =>
      lines [
        "# ❌ FLAGGED",
        "from datetime import datetime",
        "",
        "def is_expired(deadline: datetime) -> bool:",
        "    return datetime.now() > deadline"]
  | duplicateDefinition =>
      lines [
        "# ❌ FLAGGED",
        "if sys.version_info >= (3, 12):",
        "    class Compat: ...",
        "else:",
        "    class Compat: ..."]

/-- The same code with the fault mended. -/
def after : Rule → String
  | impureDependencies =>
      lines [
        "# ✅ CORRECT - pass the value in",
        "import pure_module_check",
        "",
        "pure_module_check.pure_module()",
        "",
        "def config_dir(cwd: str) -> str:",
        "    return cwd"]
  | impureCalls =>
      lines [
        "# ✅ CORRECT - take the current time as an argument",
        "from datetime import datetime",
        "",
        "def is_expired(deadline: datetime, now: datetime) -> bool:",
        "    return now > deadline"]
  | duplicateDefinition =>
      lines [
        "# ✅ CORRECT - a single definition",
        "class Compat:",
        "    ..."]

/-- The explanation with both examples. -/
def details (rule : Rule) : String :=
  rule.explanation ++ "\n\nBefore:\n" ++ rule.before ++ "\n\nAfter:\n" ++
    rule.after

/-- The page shown for a rule code, in whatever case it is written. Only
the ASCII letters have upper-case forms that occur in a code. -/
def explain (code : String) : String :=
  match ofCode? code.toUpper with
  | none => "Unknown rule: " ++ code
  | some rule =>
      "Rule " ++ rule.code ++ ": " ++ rule.summary ++ "\n\n" ++ rule.details

end Rule

end Purity
