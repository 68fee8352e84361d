/-
What is fixed while one source file is analysed: its tree and names, the
marker that is looked for, the impure functions of partially pure modules,
and the names that belong to the project.

Consumed by references and by the collector.
-/
import Purity.Alias
import Purity.Map

namespace Purity

/-- The fixed inputs of the analysis of one file. -/
structure Context where
  /-- The path of the marker. -/
  marker : List String
  /-- Partially pure modules, with their impure functions. -/
  impureFunctions : Map (List String)
  tree : Module
  moduleName : String
  /-- The package that relative imports start from. -/
  package : String
  filename : String
  /-- The modules and classes that the checked files define. -/
  project : NameSet
  /-- The names that imports of the file bind to modules. -/
  boundNames : NameSet

namespace Context

/-- The context of a file, with the names that its imports bind. -/
def ofTree (marker : String) (impureFunctions : Map (List String))
    (tree : Module) (moduleName package filename : String)
    (project : NameSet) : Context where
  marker := Name.segments marker
  impureFunctions
  tree
  moduleName
  package
  filename
  project
  boundNames := tree.node.boundNames package project

/-- The dotted name of the marker. -/
def dottedMarker (c : Context) : String := Name.join c.marker

/-- The module that the marker is a member of, empty for a bare name. -/
def markerHome (c : Context) : String := Name.parent c.dottedMarker

/-- A place in the file, as shown. -/
def location (c : Context) (line : Int) : String :=
  c.filename ++ ":" ++ toString line

/-- The functions of a module that are not pure. -/
def impureOf (c : Context) (module : String) : List String :=
  (c.impureFunctions.get? module).getD []

end Context

end Purity
