/-
The collector: one walk over a source file that fills its registry. It
knows four things when it meets them:

- a definition, which is the file itself or a class, and its dependencies;
- a protocol, which is a class that only describes what others have, and
  is pure without a check;
- a purity marker, which marks the definition whose body it stands in;
- a call of an impure function of a partially pure module, which is kept
  until the end of the walk, when all marks are known, and is then charged
  to a definition around it.

A node is dealt with before the nodes below it. While the walk is inside a
definition, the aliases that the definition shows to nested ones are on a
stack. Consumed by the report of a run.
-/
import Purity.Reference
import Purity.Registry
import Purity.Scope
import Purity.Syntax.Literal

namespace Purity

-- ===================================================== marker and bases

/-- Can the marker be called, when a checked program runs, with so many
arguments by position and with arguments of these names? It takes one
option, by name only. -/
def Marker.accepts (positional : Nat) (named : List String) : Bool :=
  positional = 0 && named.all (· = "force")

/-- The base classes that make a class a protocol. -/
def protocolPaths : List (List String) :=
  [["Protocol"], ["typing", "Protocol"], ["typing_extensions", "Protocol"]]

/-- Is one of the bases, with or without a subscript, that of protocols? -/
def hasProtocolBase (bases : List Expr) : Bool :=
  bases.any fun base =>
    let path? := match base with
      | .subscript _ value _ => value.path?
      | _ => base.path?
    path?.any protocolPaths.contains

/-- The wish of a marker to skip the check, given by its first argument of
that name. A value that is not a literal counts as no wish and is logged. -/
def markerForce (keywords : List (Keyword Expr)) :
    Except Escape (Bool × List LogRecord) :=
  match keywords.find? (·.name = some "force") with
  | none => .ok (false, [])
  | some k =>
      match k.value.literal with
      | .ok l => .ok (l.truthy, [])
      | .error .overflow => .error .overflow
      | .error .notLiteral =>
          if k.value.isWritable then
            .ok (false, [.unreadableForce k.value.render])
          else .error .unwritable

-- ================================================================ state

/-- An impure call that waits for the end of the walk. -/
structure PendingCall where
  /-- The function that the call is made in. -/
  scope : String
  module : String
  function : String

/-- What a walk has found so far. -/
structure Collector where
  registry : Registry := {}
  collisions : List Collision := []
  /-- The aliases of the definitions around the current node, the innermost
  first. -/
  enclosing : List (List Alias) := []
  /-- The impure calls met, in order. -/
  pending : List PendingCall := []
  log : List LogRecord := []
  /-- What ended the walk first, if anything did. The rest of the record is
  then of no use. -/
  obstacle : Option Escape := none

namespace Collector

/-- Adds a record to the log. -/
def note (s : Collector) (r : LogRecord) : Collector :=
  { s with log := s.log ++ [r] }

/-- Registers a definition. An earlier one of the same name is replaced
and leaves a collision. -/
def register (c : Context) (d : Definition) (s : Collector) : Collector :=
  match s.registry.get? d.name with
  | none => { s with registry := s.registry.insert d.name d }
  | some previous =>
      { s.note (.redefined d.name (c.location d.line) previous.line) with
        registry := s.registry.insert d.name d
        collisions :=
          s.collisions ++
            [{ name := d.name, replaced := previous, kept := d }] }

/-- The record of a definition whose text is below a node. -/
def definitionOf (c : Context) (name : String) (n : Node) (line : Int)
    (s : Collector) : Definition where
  name
  filename := c.filename
  line
  dependencies := (n.dependencies c s.enclosing.flatten).filter
    fun dependency => dependency ≠ c.dottedMarker && dependency ≠ c.markerHome

/-- The record of a protocol, which is pure whatever its text says. -/
def protocolOf (c : Context) (name : String) (line : Int) : Definition where
  name
  filename := c.filename
  line
  marked := true
  protocol := true

/-- Registers a class under the scope that its line is in. -/
def defineClass (c : Context) (n : Node) (name : String) (bases : List Expr)
    (line : Int) (s : Collector) : Collector :=
  match c.tree.scopeAt c.moduleName line with
  | some ⟨.module, scope⟩ =>
      if hasProtocolBase bases then s.register c (protocolOf c scope line)
      else s.register c (s.definitionOf c scope n line)
  | _ => s.note (.noScope name (c.location line))

/-- Marks the definition whose body holds a marker. -/
def markAround (c : Context) (keywords : List (Keyword Expr)) (line : Int)
    (s : Collector) : Collector :=
  let marked := match c.tree.scopeAt c.moduleName line with
    | some ⟨.module, scope⟩ => s.registry.get? scope
    | _ => none
  match marked with
  | none => s.note (.markerIgnored (c.location line))
  | some d =>
      match markerForce keywords with
      | .ok (force, log) =>
          { s with
            registry := s.registry.insert d.name (d.mark force),
            log := s.log ++ log }
      | .error e =>
          { s with
            registry := s.registry.insert d.name (d.mark false),
            obstacle := s.obstacle.or (some e) }

/-- Keeps an impure call that is made in a function. One that is made while
the module is loaded is left out. -/
def keepCall (c : Context) (module function : String) (line : Int)
    (s : Collector) : Collector :=
  match c.tree.scopeAt c.moduleName line with
  | some ⟨.function, scope⟩ =>
      { s with pending := s.pending ++ [{ scope, module, function }] }
  | _ => s.note (.callOutsideFunction module function (c.location line))

-- ================================================================= walk

/-- Deals with one node, before the nodes below it. -/
def meet (c : Context) (n : Node) (s : Collector) : Collector :=
  match n with
  | .module _ => s.register c (s.definitionOf c c.moduleName n 1)
  | .stmt (.classDef span name bases ..) =>
      s.defineClass c n name bases span.line
  | .stmt (.expression span (.call _ func _ keywords)) =>
      if func.path? = some c.marker then s.markAround c keywords span.line
      else s
  | .expr (.call span (.member _ (.name _ module) function) ..) =>
      if function ∈ c.impureOf module then
        s.keepCall c module function span.line
      else s
  | _ => s

/-- Is a node a definition, whose aliases the nested ones can see? -/
def opensScope : Node → Bool
  | .module _ | .stmt (.classDef ..) | .stmt (.functionDef ..) => true
  | _ => false

/-- Goes below a node. A definition puts the aliases that it shows on the
stack. -/
def goBelow (c : Context) (n : Node) (s : Collector) : Collector :=
  if opensScope n then
    { s with enclosing := n.shownAliases c.package :: s.enclosing }
  else s

/-- Comes back from below a node. A definition takes one entry off the
stack. -/
def comeBack (n : Node) (s : Collector) : Collector :=
  if opensScope n then { s with enclosing := s.enclosing.tail } else s

/-- Walks over a node and everything below it. -/
def walk (c : Context) (n : Node) (s : Collector) : Collector :=
  comeBack n
    (n.children.attach.foldl (fun s ⟨child, _⟩ =>
      walk c child s) (goBelow c n (s.meet c n)))
termination_by sizeOf n
decreasing_by exact Node.sizeOf_lt_of_mem_children ‹_›

-- ============================================================== charges

/-- The definitions around a scope that can answer for a call in it, the
innermost first: those inside the nearest protocol. -/
def answerable (registry : Registry) (scope : String) :
    List (String × Definition) :=
  ((Name.outer scope).filterMap fun name => (registry.get? name).map fun d =>
    (name, d)).takeWhile
    fun (_, d) => !d.protocol

/-- The definition that answers for the calls in a scope: the innermost one
that is marked, else the innermost one. -/
def owner? (registry : Registry) (scope : String) :
    Option (String × Definition) :=
  let around := answerable registry scope
  (around.find? fun (_, d) => d.marked).or around.head?

/-- Charges one call. -/
def charge (s : Registry × List LogRecord) (call : PendingCall) :
    Registry × List LogRecord :=
  let (registry, log) := s
  match owner? registry call.scope with
  | none =>
      (registry, log ++
        [.callWithoutOwner call.scope call.module call.function])
  | some (name, d) =>
      (registry.insert name (d.addCall call.module call.function), log)

end Collector

/-- What the walk over a file finds. -/
def Context.survey (c : Context) : Collector := Collector.walk c c.tree.node {}

/-- The definitions of a file, with the log of the walk. -/
def Context.collect (c : Context) : Collected × List LogRecord :=
  let s := c.survey
  let (registry, log) := s.pending.foldl Collector.charge (s.registry, s.log)
  ({ registry, collisions := s.collisions }, log)

/-- What keeps the definitions of a file from being told. The references of
the whole file are written before the walk comes to any marker. -/
def Context.obstacle? (c : Context) : Option Escape :=
  c.tree.node.obstacle?.or c.survey.obstacle

end Purity
