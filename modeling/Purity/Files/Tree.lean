/-
File trees: directories, files and symbolic links, and a current
directory. A path is looked up name by name, following links, as far as it
leads; how a lookup fails is a value. Nothing here touches real files: a
tree is a picture of them, taken before anything is asked.

The picture leaves two things out. It has no permissions: every file in it
can be read, and every directory can be listed and entered. And nothing in
it is too deep: directories nest as far as they do, and a walk through them
always comes to its end. What is proved about trees holds of file systems
where neither matters.

A path can also be made canonical, which follows every link but asks for
no name to exist (`resolve`). Consumed by source discovery and by
configuration.
-/
import Purity.Escape
import Purity.Files.Path
import Purity.Map
import Purity.Text.Quoted

namespace Purity

/-- What stands under a name. -/
inductive Entry where
  | file (content : List UInt8)
  /-- A link to a path, which is seen from the directory of the link. -/
  | link (target : String)
  | directory (entries : List (String × Entry))

namespace Entry

/-- The entry under a name of a directory. -/
def child? (name : String) : Entry → Option Entry
  | directory entries => entries.lookup name
  | _ => none

/-- The entry that a list of names leads to, without following links. -/
def at? (names : List String) (e : Entry) : Option Entry :=
  names.foldlM (fun e name => e.child? name) e

/-- Is it a directory? -/
def isDirectory : Entry → Bool
  | directory _ => true
  | _ => false

end Entry

/-- Puts an entry at a list of names, with the directories before it. What
is not a directory there is replaced by one. -/
def Entry.insert (new : Entry) : (names : List String) → Entry → Entry
  | [], _ => new
  | name :: names, e =>
      let entries := match e with
        | .directory entries => entries
        | _ => []
      let below := (entries.lookup name).getD (.directory [])
      .directory (putEntry name (Entry.insert new names below) entries)

-- =============================================================== faults

/-- How a path fails to lead to a file. -/
inductive PathFault where
  | missing
  | notDirectory
  | isDirectory
  | tooLong
  | tooManyLinks
  deriving DecidableEq

namespace PathFault

/-- The number that the system gives to a fault. -/
def code : PathFault → Nat
  | missing => 2
  | notDirectory => 20
  | isDirectory => 21
  | tooLong => 36
  | tooManyLinks => 40

/-- The words that go with the number. -/
def reason : PathFault → String
  | missing => "No such file or directory"
  | notDirectory => "Not a directory"
  | isDirectory => "Is a directory"
  | tooLong => "File name too long"
  | tooManyLinks => "Too many levels of symbolic links"

/-- The wording of a fault of a path. -/
def message (f : PathFault) (p : Path) : String :=
  "[Errno " ++ toString f.code ++ "] " ++ f.reason ++ ": " ++
    Text.quoted p.render

end PathFault

-- =============================================================== lookup

/-- A picture of the files that a check may look at. -/
structure FileTree where
  root : Entry
  /-- The names of the current directory, which are no links. -/
  current : List String

namespace FileTree

/-- The most links that one lookup follows. -/
def linkLimit : Nat := 40

/-- The most bytes of a name. -/
def nameLimit : Nat := 255

/-- The most bytes of a path. -/
def pathLimit : Nat := 4095

/-- The names of a link's target. Empty ones and dots are kept: they ask for
a directory. -/
def targetNames (target : String) : List String :=
  (splitSlashes target.toList).map String.ofList

/-- Follows names from a place, which is a list of names without links, the
last first. Gives the place reached. -/
def follow (root : Entry) (links : Nat) (here : List String) :
    (todo : List String) → Except PathFault (List String)
  | [] => .ok here
  | name :: todo =>
      match root.at? here.reverse with
      | none => .error .missing
      | some (.file _) | some (.link _) => .error .notDirectory
      | some (.directory entries) =>
          if name = "" || name = "." then follow root links here todo
          else if name = ".." then follow root links here.tail todo
          else if name.utf8ByteSize > nameLimit then .error .tooLong
          else match entries.lookup name with
            | none => .error .missing
            | some (.link target) =>
                match links with
                | 0 => .error .tooManyLinks
                | links + 1 =>
                    let start := if target.startsWith "/" then [] else here
                    follow root links start (targetNames target ++ todo)
            | some _ => follow root links (name :: here) todo
termination_by todo => (links, todo.length)

/-- Where a path starts. -/
def startOf (t : FileTree) (p : Path) : List String :=
  match p.root with
  | .relative => t.current.reverse
  | _ => []

/-- The entry that a path leads to. -/
def find (t : FileTree) (p : Path) : Except PathFault Entry := do
  if p.hasNul then throw .missing
  if p.render.utf8ByteSize > pathLimit then throw .tooLong
  let place ← follow t.root linkLimit (t.startOf p) p.parts
  match t.root.at? place.reverse with
  | some e => return e
  | none => throw .missing

/-- A path has to be short enough before anyone can ask what it leads to. -/
def probe (t : FileTree) (p : Path) : Except Escape Unit :=
  match t.find p with
  | .error .tooLong => .error .longPath
  | _ => .ok ()

/-- Does a path lead to a file? -/
def isFile (t : FileTree) (p : Path) : Bool :=
  match t.find p with
  | .ok (.file _) => true
  | _ => false

/-- Does a path lead to a directory? -/
def isDirectory (t : FileTree) (p : Path) : Bool :=
  match t.find p with
  | .ok (.directory _) => true
  | _ => false

/-- The bytes of the file that a path leads to. -/
def read (t : FileTree) (p : Path) : Except PathFault (List UInt8) := do
  match ← t.find p with
  | .file content => return content
  | .directory _ => throw .isDirectory
  | .link _ => throw .tooManyLinks

-- ====================================================== canonical paths

/-- What is left to do while a path is made canonical: a name to add, or
the end of a link's target. -/
inductive Pending where
  | name (name : String)
  | endOf (link : List String)

/-- The name to add, if there is one. -/
def Pending.name? : Pending → Option String
  | name n => some n
  | endOf _ => none

/-- Adds names to a place by their spelling alone. -/
def addNames (here : List String) (names : List String) : List String :=
  names.foldl (fun here name =>
    if name = "" || name = "." then here
    else if name = ".." then here.tail
    else name :: here) here

/-- Makes a place canonical. Links met so far are known with the place they
lead to, or without one while it is still looked for; a link met again in
that time leads to itself, and the rest is taken as it is spelled. -/
def canonical (root : Entry) :
    (steps : Nat) → (known : List (List String × Option (List String))) →
    (here : List String) → List Pending → List String
  | 0, _, here, todo => addNames here (todo.filterMap Pending.name?)
  | _, _, here, [] => here
  | steps + 1, known, here, .endOf link :: todo =>
      canonical root steps ((link, some here) :: known) here todo
  | steps + 1, known, here, .name name :: todo =>
      if name = "" || name = "." then canonical root steps known here todo
      else if name = ".." then canonical root steps known here.tail todo
      else
        let place := name :: here
        match root.at? place.reverse with
        | some (.link target) =>
            match known.lookup place with
            | some (some reached) => canonical root steps known reached todo
            | some none => addNames place (todo.filterMap Pending.name?)
            | none =>
                let start := if target.startsWith "/" then [] else here
                canonical root steps ((place, none) :: known) start
                  ((targetNames target).map .name ++ .endOf place :: todo)
        | _ => canonical root steps known place todo

mutual

/-- The number of steps that the links of a tree can cost. -/
def linkSteps : Entry → Nat
  | .file _ => 0
  | .link target => target.length + 2
  | .directory entries => linkStepsAll entries

/-- The same for the entries of a directory. -/
def linkStepsAll : List (String × Entry) → Nat
  | [] => 0
  | (_, e) :: rest => linkSteps e + linkStepsAll rest

end

/-- The place of a path without links. Names need not exist. -/
def placeOf (t : FileTree) (p : Path) : Path :=
  let steps := p.parts.length + linkSteps t.root + 1
  { root := .single
    parts :=
      (canonical t.root steps [] (t.startOf p) (p.parts.map .name)).reverse }

/-- The canonical form of a path: absolute and without links. A path that
leads into a circle of links has none. -/
def resolve (t : FileTree) (p : Path) : Except Escape Path :=
  if p.hasNul then .error .nulInPath
  else match t.find (t.placeOf p) with
    | .error .tooManyLinks => .error .linkCircle
    | _ => .ok (t.placeOf p)

-- ============================================================= contents

mutual

/-- The paths below a directory whose last name ends in a text. Linked
directories are not entered. -/
def pathsBelow (ending : String) (p : Path) : Entry → List Path
  | .directory entries => pathsBelowAll ending p entries
  | _ => []

/-- The same for the entries of a directory. -/
def pathsBelowAll (ending : String) (p : Path) :
    List (String × Entry) → List Path
  | [] => []
  | (name, e) :: rest =>
      (if name.endsWith ending then [p.child name] else [])
        ++ pathsBelow ending (p.child name) e ++ pathsBelowAll ending p rest

end

end FileTree

end Purity
