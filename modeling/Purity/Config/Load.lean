/-
Loading a configuration: from the file that is asked for, else from the
nearest project file at or above a directory, else the defaults. Only one
section of the file is looked at.

Most failures are values that say what is wrong. Some are not foreseen and
end a run where they happen: a file that is not text, a key whose name is
taken, an integer that is too long, and paths that cannot be looked at.
Consumed by the command line.
-/
import Purity.Config
import Purity.Files.Tree
import Purity.Text.Utf8
import Purity.Toml.Document

namespace Purity

-- ============================================================= failures

/-- Why there is no configuration. -/
inductive ConfigError where
  /-- The file that was asked for is not there. -/
  | notFound (path : Path)
  /-- The file cannot be opened. -/
  | unreadable (path : Path) (fault : PathFault)
  /-- The file is not TOML. -/
  | malformed (path : Path)
  /-- The section is not a table. -/
  | notTable (path : Path)
  /-- The settings are not valid. There is no path for the defaults. -/
  | invalid (path : Option Path) (faults : List Fault)

namespace ConfigError

/-- The name of the section. -/
def sectionName : String := "pure-module-check"

/-- The text of a file that cannot be read. -/
def cannotRead (path : Path) (message : String) : String :=
  "cannot read " ++ path.render ++ ": " ++ message

/-- The text of settings that are not valid, with the number of faults. -/
def invalidIn (path : Option Path) (count : Nat) : String :=
  "invalid configuration in " ++ (path.map Path.render).getD "<defaults>" ++
    ": " ++ toString count ++
      (if count = 1 then " validation error"
       else " validation errors") ++ " for PureModuleConfig"

/-- The text of an error. -/
def render : ConfigError → String
  | notFound path => "configuration file not found: " ++ path.render
  | unreadable path fault => cannotRead path (fault.message path)
  | malformed path => cannotRead path "<toml error>"
  | notTable path =>
      cannotRead path ("[tool." ++ ConfigError.sectionName ++
        "] must be a table")
  | invalid path faults => invalidIn path faults.length

end ConfigError

-- ============================================================== loading

/-- The name of project files. -/
def projectFile : String := "pyproject.toml"

namespace FileTree

/-- The current directory. -/
def currentPath (t : FileTree) : Path :=
  { root := .single, parts := t.current }

/-- The project file of a directory or of the nearest one above it. -/
def projectAbove (t : FileTree) (directory : Path) : Option Path :=
  (directory.ancestry.map fun d => d.child projectFile).find? t.isFile

/-- The nearest project file at or above a path. -/
def findProject (t : FileTree) (start : Path) :
    Except Escape (Option Path) := do
  t.probe start
  let directory ← t.resolve
    (if t.isDirectory start then start else start.parent)
  t.probe (directory.child projectFile)
  return t.projectAbove directory

/-- The file that holds the configuration. -/
def settingsFile (t : FileTree) (start file : Option Path) :
    Except Escape (Option Path) :=
  match file with
  | some path => .ok (some path)
  | none => t.findProject (start.getD t.currentPath)

/-- The directory that configured paths are seen from. -/
def configBase (t : FileTree) (start file : Option Path) :
    Except Escape Path := do
  let path ← t.settingsFile start file
  t.resolve ((path.map Path.parent).getD (start.getD t.currentPath))

/-- The settings of a document. -/
def settings (path : Path) (document : Toml.Table) :
    Except ConfigError Toml.Table :=
  match document.lookup "tool" with
  | some (.table tool) =>
      match tool.lookup ConfigError.sectionName with
      | none => .ok []
      | some (.table found) => .ok found
      | some _ => .error (.notTable path)
  | _ => .ok []

/-- The configuration that settings from a file describe. -/
def fromSettings (path : Option Path) (table : Toml.Table) :
    Except Escape (Except ConfigError Config) :=
  match Config.ofTable table with
  | .ok c => .ok (.ok c)
  | .error (.invalid faults) => .ok (.error (.invalid path faults))
  | .error .reservedKey => .error .reservedKey

/-- The configuration in a file. -/
def readConfig (t : FileTree) (path : Path) :
    Except Escape (Except ConfigError Config) :=
  match t.read path with
  | .error fault => .ok (.error (.unreadable path fault))
  | .ok bytes =>
      match Text.decodeUtf8 bytes with
      | .error fault => .error (.undecodable fault)
      | .ok text =>
          match Toml.parse text with
          | .error .malformed => .ok (.error (.malformed path))
          | .error .longInteger => .error .longInteger
          | .ok document =>
              match settings path document with
              | .error e => .ok (.error e)
              | .ok table => fromSettings (some path) table

/-- Loads the configuration for a directory, or from a given file. -/
def configuration (t : FileTree) (start file : Option Path) :
    Except Escape (Except ConfigError Config) := do
  match file with
  | some path =>
      t.probe path
      if t.isFile path then t.readConfig path
      else return .error (.notFound path)
  | none =>
      match ← t.settingsFile start none with
      | none => fromSettings none []
      | some path => t.readConfig path

end FileTree

end Purity
