/-
Source files: found below the given paths, named after the packages they
lie in, read and parsed. A file that cannot be read or parsed is a value
of its own, which says why. Consumed by the report of a run and by the
check of paths.
-/
import Purity.Files.Tree
import Purity.Log
import Purity.Name
import Purity.Syntax.Parser
import Purity.Text.Utf8

namespace Purity

/-- A source file that was read and parsed. -/
structure Source where
  path : Path
  /-- The module that the file defines. -/
  moduleName : String
  /-- The package that its relative imports start from. -/
  package : String
  tree : Module

-- ============================================================= failures

/-- Why a file is not a source file. -/
inductive SourceFault where
  | unreadable (fault : PathFault)
  | undecodable (fault : Text.Utf8Fault)
  | malformed (fault : SyntaxFault)

/-- A path that gives no source file. -/
structure SourceFailure where
  path : Path
  fault : SourceFault

namespace SourceFailure

/-- The text of a failure, with the line if it has one. -/
def describe (p : Path) (line : Option Int) (message : String) : String :=
  match line with
  | none => p.render ++ ": " ++ message
  | some n => p.render ++ ":" ++ toString n ++ ": " ++ message

/-- The line of a failure. Only faults of the grammar have one. -/
def line? (f : SourceFailure) : Option Int :=
  match f.fault with
  | .malformed (.malformed line) => some line
  | _ => none

/-- The wording of a failure, without its place. -/
def message (f : SourceFailure) : String :=
  match f.fault with
  | .unreadable fault => fault.message f.path
  | .undecodable fault => fault.message
  | .malformed .nul => "source code string cannot contain null bytes"
  | .malformed (.malformed _) => "<syntax error>"

/-- The text of a failure. -/
def render (f : SourceFailure) : String := describe f.path f.line? f.message

end SourceFailure

-- ============================================================ discovery

/-- How the names of source files end. -/
def pythonSuffix : String := ".py"

/-- The source files that one of the given paths stands for, and a warning
when it stands for none. -/
def FileTree.sourcesAt (t : FileTree) (p : Path) :
    List Path × List LogRecord :=
  if t.isFile p && p.suffix == pythonSuffix then ([p], [])
  else match t.find p with
    | .ok (.directory entries) =>
        (pathsBelow pythonSuffix p (.directory entries), [])
    | _ => ([], [.notSource p.render])

/-- The source files that the given paths stand for, sorted, each once. -/
def FileTree.sources (t : FileTree) (paths : List Path) :
    List Path × List LogRecord :=
  let found := paths.map t.sourcesAt
  (((found.flatMap Prod.fst).mergeSort Path.noLater).eraseDups,
    found.flatMap Prod.snd)

/-- The same, when all paths can be asked about. -/
def FileTree.findSources (t : FileTree) (paths : List Path) :
    Except Escape (List Path × List LogRecord) := do
  paths.forM t.probe
  return t.sources paths

-- =============================================================== naming

/-- The file that makes a directory a package. -/
def packageFile : String := "__init__.py"

/-- Is a directory a package? -/
def FileTree.isPackage (t : FileTree) (directory : Path) : Bool :=
  t.isFile (directory.child packageFile)

/-- The module at a canonical path: its packages, which are the directories
around it that are packages without a gap, and its own name unless it is
the file of a package. -/
def FileTree.nameAt (t : FileTree) (resolved : Path) : String :=
  let own := if resolved.stem = "__init__" then [] else [resolved.stem]
  let packages := resolved.parent.ancestry.takeWhile t.isPackage
  Name.join ((packages.map Path.name).reverse ++ own)

/-- The module that a file defines. The way up has to leave its packages. -/
def FileTree.moduleName (t : FileTree) (p : Path) : Except Escape String := do
  let resolved ← t.resolve p
  t.probe (resolved.parent.child packageFile)
  if resolved.parent.ancestry.all t.isPackage then throw .rootPackage
  return t.nameAt resolved

/-- The package that the relative imports of a file start from. -/
def packageOf (p : Path) (moduleName : String) : String :=
  if p.name = packageFile then moduleName else Name.parent moduleName

-- ============================================================== reading

/-- The tree of a file. All kinds of line ending are the same in it. -/
def FileTree.readModule (t : FileTree) (p : Path) :
    Except SourceFailure Module := do
  let bytes ← (t.read p).mapError fun f =>
      { path := p, fault := .unreadable f }
  let text ← (Text.decodeUtf8 bytes).mapError fun f =>
      { path := p, fault := .undecodable f }
  let lines := String.ofList (Lexer.unifyNewlines text.toList)
  (Module.parse lines).mapError fun f => { path := p, fault := .malformed f }

/-- Reads and parses one file. -/
def FileTree.parse (t : FileTree) (p : Path) :
    Except Escape (Except SourceFailure Source) := do
  if p.hasNul then throw .nulInPath
  match t.readModule p with
  | .error failure => return .error failure
  | .ok tree =>
      let moduleName ← t.moduleName p
      return .ok { path := p,
                   moduleName,
                   package := packageOf p moduleName,
                   tree }

end Purity
