/-
The merge of per-file registries into the registry of the project. The
files are merged in order, as if they had been read one after the other
into a single registry: a name keeps its first place and its last
record, and each overwrite leaves a collision and a warning.

Consumed by the report of a run.
-/
import Purity.Definition
import Purity.Log

namespace Purity

/-- The definitions of one file, or of several merged files. -/
structure Collected where
  registry : Registry := {}
  collisions : List Collision := []

namespace Collected

/-- Adds one definition of a further file. -/
def add (merged : Collected × List LogRecord) (entry : String × Definition) :
    Collected × List LogRecord :=
  let (c, log) := merged
  let (name, d) := entry
  match c.registry.get? name with
  | none => ({ c with registry := c.registry.insert name d }, log)
  | some previous =>
      ({ registry := c.registry.insert name d
         collisions :=
           c.collisions ++ [{ name, replaced := previous, kept := d }] },
       log ++ [.definedTwice name previous.filename previous.line d.filename
         d.line])

/-- Adds the collisions and then the definitions of a further file. -/
def absorb (merged : Collected × List LogRecord) (part : Collected) :
    Collected × List LogRecord :=
  let (c, log) := merged
  part.registry.entries.foldl add
    ({ c with collisions := c.collisions ++ part.collisions }, log)

/-- The union of several files, in order, with the warnings it gives. -/
def merge (parts : List Collected) : Collected × List LogRecord :=
  parts.foldl absorb ({}, [])

end Collected

end Purity
