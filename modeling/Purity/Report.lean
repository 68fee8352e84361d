/-
The report of a run. Every file is collected on its own, knowing which
modules and classes the whole project defines; the registries are merged
in the order of the files, and the merged registry is classified once.

Consumed by the check of paths and by the command line.
-/
import Purity.Verdict
import Purity.Collector
import Purity.Config
import Purity.Source

namespace Purity

/-- The outcome of a run over parsed files. -/
structure Report where
  /-- Findings, those about repeated names last. -/
  diagnostics : List Diagnostic
  registry : Registry
  collisions : List Collision
  /-- The number of files that were collected. -/
  fileCount : Nat

/-- A run without findings passes. -/
def Report.passed (r : Report) : Bool := r.diagnostics.isEmpty

/-- The modules and classes that some files define. -/
def definedNames (files : List Source) : NameSet :=
  .ofList (files.flatMap fun f =>
    f.moduleName :: (f.tree.importableClasses f.moduleName).toList)

/-- What is fixed while one of the files is collected. -/
def Source.context (f : Source) (config : Config) (project : NameSet) :
    Context :=
  Context.ofTree config.marker config.impureFunctions f.tree f.moduleName
    f.package f.path.render project

/-- What keeps some files from being reported on: the first obstacle in the
order of the files. -/
def obstacle? (config : Config) (files : List Source) : Option Escape :=
  files.findSome? fun f => (f.context config (definedNames files)).obstacle?

/-- Collects one more file into the merged registry. -/
def collectInto (config : Config) (project : NameSet)
    (merged : Collected × List LogRecord) (f : Source) :
    Collected × List LogRecord :=
  let (part, log) := (f.context config project).collect
  Collected.absorb (merged.1, merged.2 ++ log) part

/-- The report on parsed files, in the given order. -/
def runChecks (config : Config) (files : List Source) :
    Report × List LogRecord :=
  let (merged, log) :=
    files.foldl (collectInto config (definedNames files)) ({}, [])
  let diagnostics := merged.registry.verdict config.library ++
      (if config.reportDuplicates then merged.collisions.map Collision.finding
       else [])
  let marked := (merged.registry.values.filter Definition.marked).length
  let report : Report := {
    diagnostics
    registry := merged.registry
    collisions := merged.collisions
    fileCount := files.length }
  (report, log ++
    [.checked files.length merged.registry.size marked diagnostics.length])

/-- Checks parsed files that nothing keeps from being reported on. -/
def checkFiles (config : Config) (files : List Source) :
    Except Escape (Report × List LogRecord) :=
  match obstacle? config files with
  | some e => .error e
  | none => .ok (runChecks config files)

end Purity
