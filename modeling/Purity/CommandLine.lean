/-
The command line as a function: arguments and a file tree in, texts and an
exit code out. It explains a rule, or loads the configuration and checks
the given paths, or the configured ones when none are given.

Consumed by the program, which does the reading and printing.
-/
import Purity.Check
import Purity.CommandLine.Arguments
import Purity.Config.Load

namespace Purity.CommandLine

/-- What a run prints, and how it ends: 0 without findings, 1 with some, 2
for a wrong configuration or wrong arguments. -/
structure Output where
  exit : Nat
  out : String := ""
  err : String := ""

/-- Text given line by line, each of them ended. -/
def endedLines (texts : List String) : String :=
  String.join (texts.map (· ++ "\n"))

-- ================================================================= help

/-- The short description of the arguments. -/
def usage : String := endedLines [
  "usage: check-pure-modules [-h] [--config FILE] [--explain RULE] " ++
    "[--verbose]",
  "                          [paths ...]"]

/-- The long description. -/
def help : String := usage ++ endedLines [
  "",
  "Check that modules marked pure only depend on pure modules",
  "",
  "positional arguments:",
  "  paths           Files or directories to check " ++
    "(default: configured paths,",
  "                  relative to the configuration file)",
  "",
  "options:",
  "  -h, --help      show this help message and exit",
  "  --config FILE   TOML file with a [tool.pure-module-check] table " ++
    "(default:",
  "                  nearest pyproject.toml)",
  "  --explain RULE  Show detailed explanation for a rule (PMC001, PMC002,",
  "                  PMC003)",
  "  --verbose, -v   Enable debug logging and detailed messages",
  "",
  "Examples:",
  "  check-pure-modules                        # Check the configured paths",
  "  check-pure-modules src/myproject/pricing  " ++
    "# Check specific files or directories",
  "  check-pure-modules --explain PMC002       # Show rule details",
  "",
  "Exit codes:",
  "  0 - No diagnostics",
  "  1 - Diagnostics found",
  "  2 - Configuration error",
  "        "]

/-- What is printed about arguments that make no sense. -/
def misuse (message : String) : Output where
  exit := 2
  err := usage ++ "check-pure-modules: error: " ++ message ++ "\n"

-- =============================================================== checks

/-- The log as it is printed. Details are printed on demand only. -/
def logText (verbose : Bool) (log : List LogRecord) : String :=
  endedLines ((log.filter fun r => verbose ||
    r.level = .warning).map LogRecord.render)

/-- The number of definitions that are marked, apart from protocols. -/
def pureCount (registry : Registry) : Nat :=
  (registry.values.filter fun d => d.marked && !d.protocol).length

/-- A finding as it is printed. -/
def findingLines (verbose : Bool) (d : Diagnostic) : List String :=
  d.render verbose :: (if verbose then [""] else [])

/-- What is printed at the end of a check. -/
def closingLines (r : Report) : List String :=
  ["", "✅ Found " ++ toString (pureCount r.registry) ++ " modules marked pure",
    "❌ Found " ++ toString r.diagnostics.length ++ " violations", ""] ++
    (if r.passed then ["🎉 No pure module violations found!"]
     else ["Run with --verbose for detailed messages and examples:",
      "  check-pure-modules --verbose"])

/-- What is printed about a check. -/
def resultOutput (verbose : Bool) (c : CheckResult) : Output :=
  let err := logText verbose c.log
  if c.report.fileCount = 0 && c.skipped.isEmpty then
    { exit := 0, out := endedLines ["No Python files found to check"], err }
  else
    let checked :=
      "🔍 Checked " ++ toString c.report.fileCount ++
        " files for pure module violations..."
    let skipped := c.skipped.map fun f => "⚪ SKIP: " ++ f.render
    let findings := c.report.diagnostics.flatMap (findingLines verbose)
    { exit := if c.report.passed then 0 else 1
      out :=
        endedLines (checked :: skipped ++ findings ++ closingLines c.report)
      err }

/-- The configuration file that is asked for. -/
def configFile : Setting Path → Except Escape (Option Path)
  | .absent => .ok none
  | .hollow => .error .noFile
  | .given path => .ok (some path)

/-- The paths to check: those given, else those of the configuration, which
are seen from the directory of the configuration file. -/
def checkedPaths (t : FileTree) (given : List Path) (file : Option Path)
    (config : Config) :
    Except Escape (List Path) := do
  if given.isEmpty then
    let base ← t.configBase none file
    return config.paths.map fun p => base.join (Path.ofString p)
  else return given

/-- Loads the configuration and checks. -/
def runCheck (t : FileTree) (args : Arguments) : Except Escape Output := do
  let file ← configFile args.config
  match ← t.configuration none file with
  | .error e =>
      return { exit := 2,
               err :=
                 "ERROR: Failed to load configuration: " ++ e.render ++ "\n" }
  | .ok config =>
      let result ← t.check config (← checkedPaths t args.paths file config)
      return resultOutput args.verbose result

/-- Runs the command line. -/
def run (t : FileTree) (argv : List String) : Except Escape Output :=
  match readArguments argv with
  | .help => .ok { exit := 0, out := help }
  | .misuse message => .ok (misuse message)
  | .run args =>
      match args.explain with
      | .given code =>
          if code = "" then runCheck t args
          else .ok { exit := 0, out := Rule.explain code ++ "\n" }
      | .absent | .hollow => runCheck t args

end Purity.CommandLine
