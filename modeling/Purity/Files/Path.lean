/-
Paths: a root, or none for a path relative to the current directory, and
the names that follow it. Names `.` and empty names say nothing and are
dropped when a path is read; `..` is kept, since what it means depends on
links. Consumed by the file tree, by source files and by configuration.
-/
namespace Purity

/-- Where a path starts. Two slashes at the start are a root of their own,
three or more are one. -/
inductive PathRoot where
  | relative
  | single
  | double
  deriving DecidableEq

/-- A path. -/
structure Path where
  root : PathRoot
  parts : List String
  deriving DecidableEq

/-- Cuts at every slash. -/
def splitSlashes : List Char → List (List Char)
  | [] => [[]]
  | c :: cs =>
      if c = '/' then [] :: splitSlashes cs
      else match splitSlashes cs with
        | [] => [[c]]
        | piece :: pieces => (c :: piece) :: pieces

namespace Path

/-- The names of a path text that say something. -/
def partsOf (cs : List Char) : List String :=
  ((splitSlashes cs).map String.ofList).filter fun part => part ≠ "" &&
    part ≠ "."

/-- Reads a path. -/
def ofString (s : String) : Path :=
  let cs := s.toList
  let root := match (cs.takeWhile (· = '/')).length with
    | 0 => .relative
    | 2 => .double
    | _ => .single
  { root, parts := partsOf cs }

/-- The text of a root. -/
def rootText (p : Path) : String :=
  match p.root with
  | .relative => ""
  | .single => "/"
  | .double => "//"

/-- The text of a path. -/
def render (p : Path) : String :=
  match p.root, p.parts with
  | .relative, [] => "."
  | _, parts => p.rootText ++ "/".intercalate parts

/-- Does a path hold the character with code 0? None that leads anywhere
does. -/
def hasNul (p : Path) : Bool :=
  p.parts.any fun part => part.toList.contains '\x00'

/-- The last name, empty for a path without names. -/
def name (p : Path) : String := p.parts.getLast?.getD ""

/-- The path without its last name. A root is its own parent. -/
def parent (p : Path) : Path := { p with parts := p.parts.dropLast }

/-- The path of an entry of a directory. -/
def child (p : Path) (name : String) : Path :=
  { p with parts := p.parts ++ [name] }

/-- A path seen from a directory. One with a root stays as it is. -/
def join (directory p : Path) : Path :=
  match p.root with
  | .relative => { directory with parts := directory.parts ++ p.parts }
  | _ => p

/-- A name cut before its last dot, unless the dot is at its start or end. -/
def splitSuffix (name : String) : String × String :=
  let cs := name.toList
  let suffix := (cs.reverse.takeWhile (· ≠ '.')).reverse
  let stem := cs.take (cs.length - suffix.length - 1)
  if stem.isEmpty || suffix.isEmpty then (name, "")
  else (String.ofList stem, "." ++ String.ofList suffix)

/-- The last name without its suffix. -/
def stem (p : Path) : String := (splitSuffix p.name).1

/-- The suffix of the last name, with its dot. -/
def suffix (p : Path) : String := (splitSuffix p.name).2

/-- What paths are sorted by: the root and the names. -/
def sortKey (p : Path) : List String :=
  match p.root with
  | .relative => p.parts
  | _ => p.rootText :: p.parts

/-- The order in which paths are listed. -/
def noLater (a b : Path) : Bool :=
  !b.sortKey.lex a.sortKey fun x y => decide (x < y)

/-- The path and all its parents, up to its root. -/
def ancestry (p : Path) : List Path :=
  (List.range (p.parts.length + 1)).reverse.map fun n =>
    { p with parts := p.parts.take n }

end Path

end Purity
