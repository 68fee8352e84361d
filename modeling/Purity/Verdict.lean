/-
The verdict on a finished registry. A definition that is marked pure and
not forced may depend on library entries, on definitions accepted as
pure, and on references that only exist when the program runs; anything
else is reported, and so is every impure call charged to it.

Accepting a definition as pure looks at marks only: a definition that is
itself reported still counts as pure for others. For an unmarked class the
names around its own are looked up from the inside out, as long as the
same file has registered them, and the first marked record found decides:
the class is accepted unless that is a protocol. A function has no record,
so a class inside one is not accepted, whatever is marked further out. The
record that decides is reported for its own dependencies only; these need
not be those of the class.
-/
import Purity.Definition
import Purity.Diagnostic
import Purity.Name

namespace Purity

-- ====================================================== dependencies

/-- Is a single dependency acceptable in a pure definition? -/
def isTrusted (dependency : RawText) (project : NameSet)
    (library : List String) : Bool :=
  project.toList.any (dependency = RawText.ofString ·)
    || library.any (Name.acceptedBy dependency) || Name.isDynamic dependency

-- ========================================== purity from the outside in

/-- How the walk from a definition to those around it ends. -/
inductive Climb where
  /-- At the nearest definition that is marked. -/
  | marked (d : Definition)
  /-- At a name that is not registered, or registered by another file. -/
  | outside
  /-- Not within the steps allowed. -/
  | unfinished

namespace Registry

/-- Walks outwards from a definition, name by name and within one file,
to the first marked one, in at most `steps` looks. -/
def climb (registry : Registry) : (steps : Nat) → Definition → Climb
  | 0, _ => .unfinished
  | steps + 1, d =>
      if d.marked then .marked d
      else match registry.get? (Name.parent d.name) with
        | none => .outside
        | some around => if around.filename = d.filename then
            climb registry steps around else .outside

/-- Is a definition accepted as pure: marked itself, or unmarked and
inside a marked definition of its file that is not a protocol? A name
has fewer segments than characters, so the walk has room to end. -/
def isAccepted (registry : Registry) (d : Definition) : Bool :=
  d.marked ||
    match climb registry (d.name.length + 1) d with
    | .marked around => !around.protocol
    | _ => false

/-- The names accepted as pure dependencies. -/
def accepted (registry : Registry) : NameSet :=
  .ofList ((registry.entries.filter fun (_, d) =>
    isAccepted registry d).map Prod.fst)

end Registry

-- =========================================================== findings

/-- The dependencies of a definition that are not acceptable. -/
def Definition.untrusted (d : Definition) (project : NameSet)
    (library : List String) :
    SortedSet RawText :=
  d.dependencies.filter fun dependency => !isTrusted dependency project library

/-- A finding of a rule about a definition, with the items at fault. -/
def Definition.finding (d : Definition) (rule : Rule) (items : List RawText) :
    Diagnostic where
  module := d.name
  message := rule.message d.name items
  code := rule.code
  filename := d.filename
  line := d.line
  details := items

/-- The findings about one definition: dependencies before calls. -/
def Definition.findings (d : Definition) (project : NameSet)
    (library : List String) :
    List Diagnostic :=
  let impure := (d.untrusted project library).toList
  let calls := d.calls.map fun (module, function) =>
    RawText.ofString (module ++ "." ++ function)
  (if impure.isEmpty then [] else [d.finding .impureDependencies impure])
    ++ (if calls.isEmpty then [] else [d.finding .impureCalls calls])

/-- The definitions to be checked, by ascending name: those marked pure
and not forced. -/
def Registry.checkedDefinitions (registry : Registry) : List Definition :=
  ((SortedSet.ofList registry.keys).toList.filterMap registry.get?).filter
    fun d => d.marked && !d.forced

/-- The findings about a registry, ordered by the name of the definition. -/
def Registry.verdict (registry : Registry) (library : List String) :
    List Diagnostic :=
  let project := registry.accepted
  registry.checkedDefinitions.flatMap fun d => d.findings project library

/-- Where a definition stands, as shown. -/
def Definition.location (d : Definition) : String :=
  d.filename ++ ":" ++ toString d.line

/-- The finding about a name that is defined twice, located at the
definition that stayed. -/
def Collision.finding (c : Collision) : Diagnostic where
  module := c.name
  message :=
    Rule.message .duplicateDefinition c.name [c.replaced.location,
      c.kept.location]
  code := Rule.code .duplicateDefinition
  filename := c.kept.filename
  line := c.kept.line

end Purity
