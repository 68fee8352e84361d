/-
A check of paths: the source files below them are read and parsed, those
that fail are skipped with a warning, and the others are reported on.
Consumed by the command line.
-/
import Purity.Report

namespace Purity

/-- The outcome of a check of paths. -/
structure CheckResult where
  report : Report
  /-- The files that could not be read or parsed. -/
  skipped : List SourceFailure
  log : List LogRecord

/-- The successes and the failures of several attempts, in order. -/
def splitOutcomes {α ε : Type} (results : List (Except ε α)) :
    List α × List ε :=
  (results.filterMap Except.toOption,
    results.filterMap fun
      | .ok _ => none
      | .error e => some e)

/-- Checks every source file below some paths. -/
def FileTree.check (t : FileTree) (config : Config) (paths : List Path) :
    Except Escape CheckResult := do
  let (found, missing) ← t.findSources paths
  let (files, skipped) := splitOutcomes (← found.mapM t.parse)
  let (report, log) ← checkFiles config files
  return {
    report, skipped
    log := missing ++ skipped.map (fun f => .unparsable f.render) ++ log }

end Purity
