/-
TOML documents. A document is a list of statements: an entry of the
current table, or the head of a table or of a further item of a list of
tables. The order matters, since a table can be opened once only and
nothing can be added to a value that was written in one piece.

A text that breaks a rule is not TOML; which rule it was is not told. The
text is read once, from the start, and the first fault is the one that is
told. Consumed by the reading of configuration files.
-/
import Purity.Map
import Purity.Toml.Scalar

namespace Purity.Toml

/-- The entries of a table. -/
abbrev Table := List (String × Value)

/-- A dotted key. -/
abbrev Key := List String

-- =============================================================== tables

/-- Changes the table that a key leads to, making the tables on the way.
Through lists the way leads into the last item. Nothing comes out when the
way leads through another value. -/
def Table.within (throughLists : Bool) (change : Table → Option Table) :
    Key → Table → Option Table
  | [], table => change table
  | k :: ks, table =>
      match table.lookup k with
      | none =>
          (Table.within throughLists change ks []).map fun t =>
            putEntry k (.table t) table
      | some (.table below) =>
          (Table.within throughLists change ks below).map fun t =>
            putEntry k (.table t) table
      | some (.list items) =>
          match throughLists, items.getLast? with
          | true, some (.table below) =>
              (Table.within throughLists change ks below).map fun t =>
                putEntry k (.list (items.dropLast ++ [.table t])) table
          | _, _ => none
      | some _ => none

/-- Adds an entry whose key must be new. -/
def Table.add (key : String) (value : Value) (table : Table) : Option Table :=
  if (table.lookup key).isSome then none else some (putEntry key value table)

/-- Adds an empty table to the list under a key. -/
def Table.extend (key : String) (table : Table) : Option Table :=
  match table.lookup key with
  | none => some (putEntry key (.list [.table []]) table)
  | some (.list items) =>
      some (putEntry key (.list (items ++ [.table []])) table)
  | some _ => none

-- =============================================================== values

/-- Was a value written in one piece with parts? -/
def isComposite : Value → Bool
  | .table _ | .list _ => true
  | _ => false

/-- Does a key lie at or below one of these? -/
def isBelow (keys : List Key) (key : Key) : Bool :=
  keys.any fun k => !k.isEmpty && k.isPrefixOf key

/-- An inline table so far: its entries, and the keys of the parts to which
nothing can be added. -/
structure Inline where
  table : Table := []
  closed : List Key := []

/-- Adds an entry to an inline table. -/
def Inline.add (s : Inline) (key : Key) (value : Value) : Option Inline :=
  if isBelow s.closed key then none
  else do
    let table ← Table.within false (Table.add (key.getLast?.getD "") value)
        key.dropLast s.table
    return { table, closed :=
      if isComposite value then key :: s.closed else s.closed }

/-- The readers for nested values. -/
structure Nested where
  value : List Char → Reading (Value × List Char)

/-- A key, a sign and a value. -/
def entry (nested : Nested) (cs : List Char) :
    Reading (Key × Value × List Char) := do
  let (k, cs) ← key (cs.length + 1) cs
  match cs with
  | '=' :: rest =>
      let (v, cs) ← nested.value (skipBlanks rest)
      return (k, v, cs)
  | _ => throw .malformed

/-- The items of a list up to its closing bracket. A comma may follow the
last one. What was read comes the last first. -/
def items (nested : Nested) : (steps : Nat) → (read : List Value) → List Char →
    Reading (Value × List Char)
  | 0, _, _ => throw .malformed
  | steps + 1, read, cs =>
      match cs with
      | ']' :: rest => return (.list read.reverse, rest)
      | _ => do
          let (v, cs) ← nested.value cs
          let cs ← skipLines (cs.length + 1) cs
          match cs with
          | ']' :: rest => return (.list (v :: read).reverse, rest)
          | ',' :: rest =>
              let cs ← skipLines (rest.length + 1) rest
              items nested steps (v :: read) cs
          | _ => throw .malformed

/-- The entries of an inline table up to its closing brace. -/
def inlineEntries (nested : Nested) :
    (steps : Nat) → Inline → List Char → Reading (Value × List Char)
  | 0, _, _ => throw .malformed
  | steps + 1, s, cs => do
      let (k, v, cs) ← entry nested cs
      let s ← s.add k v
      match skipBlanks cs with
      | '\x7d' :: rest => return (.table s.table, rest)
      | ',' :: rest => inlineEntries nested steps s (skipBlanks rest)
      | _ => throw .malformed

/-- A value whose parts are read by `nested`. -/
def valueWith (nested : Nested) (cs : List Char) :
    Reading (Value × List Char) :=
  match cs with
  | '"' :: rest => string '"' rest
  | '\'' :: rest => string '\'' rest
  | '[' :: rest => do
      let cs ← skipLines (rest.length + 1) rest
      items nested (cs.length + 1) [] cs
  | '\x7b' :: rest =>
      match skipBlanks rest with
      | '\x7d' :: rest => return (.table [], rest)
      | cs => inlineEntries nested (cs.length + 1) {} cs
  | _ =>
      match stripStart? "true" cs, stripStart? "false" cs with
      | some rest, _ => return (.bool true, rest)
      | _, some rest => return (.bool false, rest)
      | none, none =>
          match moment cs with
          | some found => found
          | none => number cs

/-- Values that nest at most `depth` deep. -/
def nested : (depth : Nat) → Nested
  | 0 => { value := fun _ => throw .malformed }
  | depth + 1 => { value := fun cs => valueWith (nested depth) cs }

-- ============================================================ documents

/-- A document so far. -/
structure Document where
  table : Table := []
  /-- The key of the current table. -/
  current : Key := []
  /-- Keys of tables that cannot be opened again. -/
  opened : List Key := []
  /-- Keys of tables that dotted keys made, closed at the next head. -/
  pending : List Key := []
  /-- Keys of values that were written in one piece. -/
  closed : List Key := []

namespace Document

/-- Adds an entry to the current table. The tables that its key makes on
the way must not have been opened by a head. -/
def addEntry (d : Document) (key : Key) (value : Value) : Option Document :=
  let made :=
    (List.range (key.length - 1)).map fun i => d.current ++ key.take (i + 1)
  let parent := d.current ++ key.dropLast
  if made.any d.opened.contains || isBelow d.closed parent then none
  else do
    let table ← Table.within true (Table.add (key.getLast?.getD "") value)
        parent d.table
    return { d with
      table
      pending := made ++ d.pending
      closed :=
        if isComposite value then (d.current ++ key) :: d.closed
        else d.closed }

/-- Closes what dotted keys made, before a head. -/
def settle (d : Document) : Document :=
  { d with opened := d.pending ++ d.opened, pending := [] }

/-- Opens a table. -/
def openTable (d : Document) (key : Key) : Option Document :=
  if d.opened.contains key || isBelow d.closed key then none
  else do
    let table ← Table.within true some key d.table
    return { d with table, current := key, opened := key :: d.opened }

/-- Opens a further table of a list. What is known of the tables below the
one before it is forgotten. -/
def openItem (d : Document) (key : Key) : Option Document :=
  if isBelow d.closed key then none
  else do
    let table ← Table.within true (Table.extend (key.getLast?.getD ""))
        key.dropLast d.table
    let keep (keys : List Key) := keys.filter fun k => !key.isPrefixOf k
    return { d with
      table, current := key, opened := key :: keep d.opened
      closed := keep d.closed }

/-- Reads the head of a table or of a list item, behind its first bracket. -/
def head (d : Document) (cs : List Char) : Option (Document × List Char) := do
  let d := d.settle
  match cs with
  | '[' :: rest =>
      let (k, cs) ← key (rest.length + 1) (skipBlanks rest)
      let d ← d.openItem k
      match cs with
      | ']' :: ']' :: rest => return (d, rest)
      | _ => none
  | _ =>
      let (k, cs) ← key (cs.length + 1) (skipBlanks cs)
      let d ← d.openTable k
      match cs with
      | ']' :: rest => return (d, rest)
      | _ => none

/-- Reads one statement that is not empty. -/
def statement (d : Document) (cs : List Char) :
    Reading (Document × List Char) :=
  match cs with
  | '[' :: rest => head d rest
  | '#' :: _ => return (d, cs)
  | _ => do
      let (k, v, cs) ← entry (nested (cs.length + 1)) cs
      let d ← d.addEntry k v
      return (d, cs)

/-- Reads all statements, one per line. -/
def statements : (steps : Nat) → Document → List Char → Reading Document
  | 0, _, _ => throw .malformed
  | steps + 1, d, cs =>
      match skipBlanks cs with
      | [] => return d
      | '\n' :: rest => statements steps d rest
      | cs => do
          let (d, cs) ← statement d cs
          let cs ← skipComment (skipBlanks cs)
          match cs with
          | [] => return d
          | '\n' :: rest => statements steps d rest
          | _ => throw .malformed

end Document

/-- Both kinds of line ending are the same. -/
def unifyLineEnds : List Char → List Char
  | '\r' :: '\n' :: cs => '\n' :: unifyLineEnds cs
  | c :: cs => c :: unifyLineEnds cs
  | [] => []

/-- Reads a document. -/
def parse (text : String) : Reading Table :=
  let cs := unifyLineEnds text.toList
  (Document.statements (cs.length + 1) {} cs).map Document.table

end Purity.Toml
