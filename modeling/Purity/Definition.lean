/-
What the checker knows of one definition, and the registry of all of
them. A definition is a source file or a class; its record is never
changed in place, marking it pure or charging a call to it gives a new
record. Two definitions that share a name leave a collision behind.

Consumed by the collector, which fills the registry, and by the
classification, which reads it.
-/
import Purity.Map
import Purity.SortedSet
import Purity.Text.CodePoint

namespace Purity

/-- The record of one definition: a file, or a class. -/
structure Definition where
  /-- Fully-qualified name, under which it is registered. -/
  name : String
  /-- File it was found in. -/
  filename : String
  /-- Line of the definition, 1 for a file. -/
  line : Int
  /-- The modules its text refers to. -/
  dependencies : SortedSet RawText := {}
  /-- A purity marker stands directly in it. -/
  marked : Bool := false
  /-- The marker asks for the check to be skipped. -/
  forced : Bool := false
  /-- Calls of impure functions charged to it, as module and function, in
  the order in which they were met. -/
  calls : List (String × String) := []
  /-- It is a protocol: a class without code of its own. -/
  protocol : Bool := false

namespace Definition

/-- The record after a marker. A later marker replaces the wish to skip. -/
def mark (d : Definition) (forced : Bool) : Definition :=
  { d with marked := true, forced := forced }

/-- The record after one more impure call. -/
def addCall (d : Definition) (module function : String) : Definition :=
  { d with calls := d.calls ++ [(module, function)] }

end Definition

/-- Definitions by name, in the order in which the names were first met. -/
abbrev Registry := Map Definition

/-- Two definitions of one name. The later one stays registered. -/
structure Collision where
  name : String
  replaced : Definition
  kept : Definition

end Purity
