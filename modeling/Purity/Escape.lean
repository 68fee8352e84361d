/-
Failures that nothing foresees. They end an operation as a whole, where
other failures are values that it goes on with: a run stops at the first
of them and reports nothing.

Consumed by everything that can meet one: files and paths, the reading of
configurations, the collector and the command line.
-/
import Purity.Text.Utf8

namespace Purity

/-- Why an operation ends without an answer. -/
inductive Escape where
  /-- A configuration file that is not UTF-8. -/
  | undecodable (fault : Text.Utf8Fault)
  /-- A setting whose name is taken. -/
  | reservedKey
  /-- A decimal integer with too many digits, in a configuration file. -/
  | longInteger
  /-- A configuration is asked for, but from no file. -/
  | noFile
  /-- A path that holds the character with code 0. -/
  | nulInPath
  /-- A path that the system finds too long to look at. -/
  | longPath
  /-- A path that leads into a circle of links. -/
  | linkCircle
  /-- A file all of whose directories are packages, the root too: the way up
  through its packages has no end. -/
  | rootPackage
  /-- An expression that has no written form. -/
  | unwritable
  /-- A sum with a number beyond the floating-point format. -/
  | overflow

end Purity
