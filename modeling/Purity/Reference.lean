/-
References: the modules that a piece of source text uses. Every imported
module counts, and every dotted call whose first name is bound to a module
by an import of the file. A method call on an object looks the same in the
text, so names that no import binds do not count.

References come in the order of the source text. Consumed by the
collector, which turns them into the dependencies of a definition.
-/
import Purity.Context
import Purity.Escape
import Purity.Syntax.Printer

namespace Purity

/-- The modules that a piece of text refers to. -/
structure References where
  /-- Modules named by imports, already absolute. -/
  imported : List RawText
  /-- The paths before the last dot of calls, to be resolved by aliases. -/
  called : List String

-- ============================================================== imports

/-- The module that one imported member of `base` refers to: itself when the
project defines it, else the module it is taken from. -/
def memberModule (project : NameSet) (base : String) (i : ImportName) :
    String :=
  let member := Name.join [base, i.name]
  if member ∈ project then member else base

/-- The modules that an import statement refers to. -/
def Node.importTargets (c : Context) : Node → List String
  | .stmt (.importModules _ names) => names.map ImportName.name
  | .stmt (.importFrom _ source names level) =>
      names.map (memberModule c.project (Name.relative source level c.package))
  | _ => []

/-- The paths of the function that imports a module by a name given when
the program runs. -/
def importFunctions : List (List String) :=
  [["importlib", "import_module"], ["import_module"]]

/-- The absolute name of a module that stands in the text of an argument,
code point by code point. -/
def namedModule? : Expr → Option RawText
  | .constant _ (.text value _) =>
      if value = [] || value.head? = some (.char '.') then none
      else some ⟨value⟩
  | _ => none

/-- The module that such a call imports, seen from its first argument. A
name that does not stand in the text is marked as dynamic. -/
def importedBy (argument : Expr) : RawText :=
  (namedModule? argument).getD
    (RawText.ofString (Name.dynamicMark ++ "(" ++ argument.render ++ ")"))

-- ================================================================ calls

/-- The modules that a call imports when it runs. -/
def calledImports (path : List String) (args : List Expr) : List RawText :=
  if path ∈ importFunctions then (args.head?.map importedBy).toList else []

/-- The modules that one node imports, leaving the nodes below it aside. -/
def Node.imported (c : Context) : Node → List RawText
  | .expr (.call _ func args _) =>
      match func.path? with
      | some path => calledImports path args
      | none => []
  | n => (n.importTargets c).map RawText.ofString

/-- The module path that one node calls a function of, if the first name is
bound to a module. -/
def Node.called (c : Context) : Node → List String
  | .expr (.call _ func _ _) =>
      match func.path? with
      | some (head :: rest) =>
          if !rest.isEmpty && head ∈ c.boundNames then
            [Name.join (head :: rest).dropLast]
          else []
      | _ => []
  | _ => []

/-- The references made anywhere below a node. -/
def Node.references (c : Context) (n : Node) : References :=
  let nodes := Node.textOrder n.walk
  { imported := nodes.flatMap (Node.imported c),
    called := nodes.flatMap (Node.called c) }

-- ============================================================ obstacles

/-- Does a node import a module whose name would have to be written as an
expression that has no written form? -/
def Node.importsUnwritable : Node → Bool
  | .expr (.call _ func (argument :: _) _) =>
      func.path?.any (· ∈ importFunctions) && (namedModule? argument).isNone &&
        !argument.isWritable
  | _ => false

/-- What keeps the references below a node from being told. -/
def Node.obstacle? (n : Node) : Option Escape :=
  if n.walk.any Node.importsUnwritable then some .unwritable else none

-- ========================================================= dependencies

/-- The modules that the text of a definition depends on. Its own aliases
come before those of the definitions around it. -/
def Node.dependencies (c : Context) (visible : List Alias) (n : Node) :
    SortedSet RawText :=
  let found := n.references c
  let aliases := n.aliases c.package ++ visible
  let called :=
    found.called.map fun path => RawText.ofString (Alias.resolve aliases path)
  .ofList ((found.imported ++ called).filter (· ≠ RawText.ofString ""))

end Purity
