/-
Scopes: which definition stands around a line of source text. A class is
a definition of its own, named after everything around it. Of nested
functions only the outermost one below the innermost class counts, so a
line in `pkg.mod.Outer.method` belongs to that name however deep it is.

The definitions around a line are found by line alone (`definitionsAround`).
Consumed by the collector, which asks for the scope of classes, markers
and calls.
-/
import Purity.SortedSet
import Purity.Name
import Purity.Syntax.Node

namespace Purity

-- ========================================================== definitions

/-- Does a statement define a class? -/
def Stmt.isClass : Stmt → Bool
  | .classDef .. => true
  | _ => false

/-- Does a statement define a function? -/
def Stmt.isFunction : Stmt → Bool
  | .functionDef .. => true
  | _ => false

/-- Does a statement define a class or a function? -/
def Stmt.isDefinition (s : Stmt) : Bool := s.isClass || s.isFunction

/-- The name that a definition gives. -/
def Stmt.definedName : Stmt → String
  | .classDef _ name .. => name
  | .functionDef _ _ name .. => name
  | _ => ""

/-- The definition that a node is, if it is one. -/
def Node.definition? : Node → Option Stmt
  | .stmt s => if s.isDefinition then some s else none
  | _ => none

-- ================================================= definitions by line

/-- Does a span hold a line? -/
def Span.holds (s : Span) (line : Int) : Bool :=
  s.line ≤ line && line ≤ s.endLine

/-- Can a line be below a node? A node without a span may hold any. -/
def Node.mayHold (n : Node) (line : Int) : Bool :=
  match n.span? with
  | some s => s.holds line
  | none => true

/-- The definitions around a line below a node, the outermost first. -/
def Node.definitionsAround (line : Int) (n : Node) : List Stmt :=
  (n.children.attach.findSome? fun ⟨c, _⟩ =>
    if !c.mayHold line then none
    else match c.definition? with
      | some s => some (s :: Node.definitionsAround line c)
      | none =>
          match Node.definitionsAround line c with
          | [] => none
          | chain => some chain).getD []
termination_by sizeOf n
decreasing_by all_goals exact Node.sizeOf_lt_of_mem_children ‹_›

/-- Does a line lie between the first and the last line of a file? -/
def Module.holds (m : Module) (line : Int) : Bool :=
  1 ≤ line && m.body.any fun s => line ≤ s.span.endLine

-- =============================================================== scopes

/-- What a scope belongs to: a file or class, or a function. -/
inductive ScopeKind where
  | module
  | function
  deriving DecidableEq

/-- A scope. -/
structure Scope where
  kind : ScopeKind
  name : String
  deriving DecidableEq

/-- The scope inside one more definition. A function in a function keeps
the scope it is in. -/
def Scope.enter (scope : Scope) (definition : Stmt) : Scope :=
  if definition.isClass then
    ⟨.module, Name.join [scope.name, definition.definedName]⟩
  else match scope.kind with
    | .function => scope
    | .module => ⟨.function, Name.join [scope.name, definition.definedName]⟩

/-- The scope inside a chain of definitions of a file. -/
def Scope.ofChain (moduleName : String) (chain : List Stmt) : Scope :=
  chain.foldl Scope.enter ⟨.module, Name.join [moduleName]⟩

/-- The scope that a line is in, unless it lies outside the statements of
the file. -/
def Module.scopeAt (m : Module) (moduleName : String) (line : Int) :
    Option Scope :=
  if m.holds line then
    some (.ofChain moduleName (m.node.definitionsAround line))
  else none

-- ============================================================== classes

/-- The names of the classes below a node that lies in `around`. Those
inside functions cannot be named from elsewhere and are left out. -/
def Node.classNames (around : String) (n : Node) : List String :=
  n.children.attach.flatMap fun ⟨c, _⟩ =>
    match c with
    | .stmt (.classDef _ name ..) =>
        let qualified := Name.join [around, name]
        qualified :: Node.classNames qualified c
    | .stmt (.functionDef ..) | .expr (.lambda ..) => []
    | _ => Node.classNames around c
termination_by sizeOf n
decreasing_by all_goals exact Node.sizeOf_lt_of_mem_children (by simp_all)

/-- The names of the classes that can be imported from a file. -/
def Module.importableClasses (m : Module) (moduleName : String) : NameSet :=
  .ofList (m.node.classNames moduleName)

end Purity
