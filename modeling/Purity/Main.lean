/-
The program: takes a picture of the files that the command line can reach,
runs the command line on it and prints what comes out.

The picture holds everything below the current directory and below the
paths that are given, and the project and package files of the directories
above. A link is shown as a link to the place it leads to.
-/
import Purity.CommandLine

namespace Purity.Main

/-- Where a real path is, as names from the root. -/
def placeOf (text : String) : List String := (Path.ofString text).parts

/-- The real path that a path leads to, unless it leads nowhere. -/
def realPath? (text : String) : IO (Option String) := do
  try
    let real ← IO.FS.realPath text
    if ← real.pathExists then return some (toString real) else return none
  catch _ => return none

/-- The bytes of a file, unless it cannot be read. -/
def bytesOf? (text : String) : IO (Option (List UInt8)) := do
  try
    let bytes ← IO.FS.readBinFile text
    return some bytes.toList
  catch _ => return none

/-- The entries of a directory, unless it is not one. -/
def entriesOf? (text : String) : IO (Option (List String)) := do
  try
    let real ← IO.FS.realPath text
    let entries ← real.readDir
    return some (entries.toList.map fun e => toString e.path)
  catch _ => return none

/-- Adds a file or directory, with everything below it. What stands at
another place than its path says is a link. -/
partial def addBelow (root : Entry) (text : String) : IO Entry := do
  match ← realPath? text with
  | none => return Entry.insert (.link "") (placeOf text) root
  | some real =>
      if real ≠ text then return Entry.insert (.link real) (placeOf text) root
      else match ← entriesOf? text with
        | some entries =>
            let start := match root.at? (placeOf text) with
              | some (.directory _) => root
              | _ => Entry.insert (.directory []) (placeOf text) root
            entries.foldlM addBelow start
        | none =>
            match ← bytesOf? text with
            | some bytes =>
                return Entry.insert (.file bytes) (placeOf text) root
            | none => return root

/-- Adds one file of a directory, if it is there. -/
def addFile (root : Entry) (file : Path) : IO Entry := do
  match ← bytesOf? file.render with
  | some bytes => return Entry.insert (.file bytes) file.parts root
  | none => return root

/-- Adds what names packages and projects in a directory and above it. -/
def addAbove (root : Entry) (directory : Path) : IO Entry :=
  (directory.ancestry.flatMap fun d =>
    [d.child projectFile, d.child packageFile]).foldlM addFile root

/-- Adds what a path leads to, and the directories above it. -/
def addPath (root : Entry) (text : String) : IO Entry := do
  match ← realPath? text with
  | none => return root
  | some real => addBelow (← addAbove root (Path.ofString real)) real

/-- The picture for a current directory and some paths. -/
def picture (current : String) (paths : List String) : IO FileTree := do
  let root ← (current :: paths).foldlM addPath (.directory [])
  return { root, current := placeOf current }

/-- The paths that a command line names. -/
def namedPaths (argv : List String) : List String :=
  match CommandLine.readArguments argv with
  | .run args => (args.paths ++ args.config.value?.toList).map Path.render
  | _ => []

/-- What is printed about a failure that nothing foresees. -/
def explain : Escape → String
  | .undecodable fault => fault.message
  | .reservedKey => "a setting cannot be named cls"
  | .longInteger => "an integer has too many digits"
  | .noFile => "no configuration file is named"
  | .nulInPath => "a path holds a null character"
  | .longPath => "a path is too long"
  | .linkCircle => "a path leads into a circle of links"
  | .rootPackage => "the root directory is a package"
  | .unwritable => "an expression cannot be written"
  | .overflow => "a number is too large"

end Purity.Main

open Purity in
/-- Runs the command line on the files of the system. -/
def main (argv : List String) : IO UInt32 := do
  let current := toString (← IO.FS.realPath ".")
  let tree ← Main.picture current (Main.namedPaths argv)
  match CommandLine.run tree argv with
  | .ok output =>
      IO.print output.out
      IO.eprint output.err
      return UInt32.ofNat output.exit
  | .error escape =>
      IO.eprintln (Main.explain escape)
      return 1
