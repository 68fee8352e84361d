/-
Aliases: the local names that imports bind. `import a.b` binds `a` to
itself, `import a.b as c` binds `c` to `a.b`, and `from a import b as c`
binds `c` to `a.b`.

Two collections are taken from a node. One holds the aliases made anywhere
below it; the other only those that the definitions nested in it can see,
which leaves out imports inside nested classes, functions and lambdas.
Consumed by references and by the collector.
-/
import Purity.Name
import Purity.SortedSet
import Purity.Syntax.Node

namespace Purity

/-- A local name bound to a fully-qualified one. -/
structure Alias where
  short : String
  target : String
  deriving DecidableEq

-- ============================================================== imports

/-- Is a node an import? -/
def Node.isImport : Node → Bool
  | .stmt (.importModules ..) | .stmt (.importFrom ..) => true
  | _ => false

/-- The imports below a node, in the order of the source text. -/
def Node.imports (n : Node) : List Node :=
  Node.textOrder (n.walk.filter Node.isImport)

/-- Does a node open a body of its own, whose imports stay inside? -/
def Node.isBody : Node → Bool
  | .stmt (.classDef ..) | .stmt (.functionDef ..) | .expr (.lambda ..) => true
  | _ => false

/-- The imports below a node that stand in no nested body. -/
def Node.directImports (n : Node) : List Node :=
  n.children.attach.flatMap fun ⟨c, _⟩ =>
    if c.isBody then []
    else if c.isImport then [c]
    else Node.directImports c
termination_by sizeOf n
decreasing_by exact Node.sizeOf_lt_of_mem_children ‹_›

-- ============================================================== aliases

/-- The alias of one imported module. Without a name of its own it binds
its first segment. -/
def ImportName.moduleAlias (i : ImportName) : Alias :=
  match i.asName with
  | some short => { short, target := i.name }
  | none =>
      let head := (Name.segments i.name).headD ""
      { short := head, target := head }

/-- The alias of one imported member of `base`. A star binds no name that
is known here. -/
def ImportName.memberAlias? (base : String) (i : ImportName) : Option Alias :=
  if i.name = "*" then none
  else some { short := i.asName.getD i.name,
              target := Name.join [base, i.name] }

/-- The aliases that an import makes inside a package. -/
def Node.bindings (package : String) : Node → List Alias
  | .stmt (.importModules _ names) => names.map ImportName.moduleAlias
  | .stmt (.importFrom _ source names level) =>
      names.filterMap
        (ImportName.memberAlias? (Name.relative source level package))
  | _ => []

/-- The aliases of some imports, in the order of the source text, each
once. -/
def bindingsOf (package : String) (imports : List Node) : List Alias :=
  ((Node.textOrder imports).flatMap (Node.bindings package)).eraseDups

/-- The aliases made anywhere below a node. -/
def Node.aliases (package : String) (n : Node) : List Alias :=
  bindingsOf package n.imports

/-- The aliases that a node shows to the definitions nested in it. -/
def Node.shownAliases (package : String) (n : Node) : List Alias :=
  bindingsOf package n.directImports

-- ========================================================== bound names

/-- The aliases of an import that are known to stand for modules. Importing
a module always makes one; an imported member is one when the project
defines it. -/
def Node.moduleAliases (package : String) (project : NameSet) (n : Node) :
    List Alias :=
  match n with
  | .stmt (.importFrom ..) =>
      (n.bindings package).filter fun a => a.target ∈ project
  | _ => n.bindings package

/-- The names that imports anywhere below a node bind to modules. -/
def Node.boundNames (package : String) (project : NameSet) (n : Node) :
    NameSet :=
  .ofList ((n.imports.flatMap (Node.moduleAliases package project)).map
    Alias.short)

-- =========================================================== resolution

/-- The fully-qualified form of a name: the first alias that binds its head
stands for the head. A name without an alias stays as it is. -/
def Alias.resolve (aliases : List Alias) (name : String) : String :=
  let (head, tail) := Name.headTail name
  match aliases.find? (·.short = head) with
  | none => name
  | some a => Name.join [a.target, tail]

end Purity
