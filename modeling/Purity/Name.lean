/-
Dotted names. A fully-qualified name such as `pkg.mod.Class` is a plain
string; this file holds the operations that look at its segments:
splitting at the dots, joining segments, dropping the last one, and
making the target of a relative import absolute.

All of them work on the list of characters, so that a statement about a
name is a statement about a list. A reference to a module that a program
spells in a literal need not be a plain string, so what is asked of
references is asked of raw texts. Consumed by every analysis.
-/
import Purity.Text.CodePoint

namespace Purity.Name

-- ========================================================== segments

/-- Cuts at every dot. Adjacent dots give an empty piece, and the empty
text is one empty piece. -/
def splitDots : List Char → List (List Char)
  | [] => [[]]
  | c :: cs =>
      if c = '.' then [] :: splitDots cs
      else match splitDots cs with
        | [] => [[c]]
        | piece :: pieces => (c :: piece) :: pieces

/-- The segments of a name. The empty name has none; a name with
adjacent dots has empty segments between them. -/
def segments (name : String) : List String :=
  if name = "" then [] else (splitDots name.toList).map String.ofList

/-- Joins segments with dots, leaving out empty ones. -/
def join (parts : List String) : String :=
  String.ofList
    (List.intercalate ['.'] ((parts.map String.toList).filter (· ≠ [])))

/-- Everything before the last dot, and nothing without a dot. -/
def parentChars (cs : List Char) : List Char :=
  ((cs.reverse.dropWhile (· ≠ '.')).drop 1).reverse

/-- Drops the last segment: `a.b.c` becomes `a.b`, and a single segment
becomes the empty name. -/
def parent (name : String) : String :=
  String.ofList (parentChars name.toList)

theorem length_parentChars_lt {cs : List Char} (h : parentChars cs ≠ []) :
    (parentChars cs).length < cs.length := by
  have drop := (List.dropWhile_suffix (· ≠ '.') (l := cs.reverse)).length_le
  have pos : 0 < (parentChars cs).length := List.length_pos_iff.2 h
  simp [parentChars] at *
  omega

/-- All that is left of a name when its last segments are dropped one by
one, the longest first. -/
def outerChars (cs : List Char) : List (List Char) :=
  if _h : parentChars cs = [] then []
  else parentChars cs :: outerChars (parentChars cs)
termination_by cs.length
decreasing_by exact length_parentChars_lt ‹_›

/-- The names around a name, the longest first. -/
def outer (name : String) : List String :=
  (outerChars name.toList).map String.ofList

/-- The text before the first dot, and the text after it. -/
def headTail (name : String) : String × String :=
  let cs := name.toList
  (String.ofList (cs.takeWhile (· ≠ '.')),
    String.ofList ((cs.dropWhile (· ≠ '.')).drop 1))

-- ================================================== relative imports

/-- The absolute name that `from` followed by `level` dots and `module`
refers to, inside `package`. One dot is the package itself and each
further dot drops one segment. With as many further dots as there are
segments, or more, no package is left, and the module text stands alone.
Without dots the module text is already absolute. -/
def relative (module : Option String) (level : Int) (package : String) :
    String :=
  if level = 0 then module.getD ""
  else
    let base := segments package
    join (base.take (base.length - (level - 1)).toNat ++ [module.getD ""])

-- ==================================================== special entries

/-- A reference whose target is only known when the program runs starts
with this text. -/
def dynamicMark : String := "<dynamic>"

/-- Is this a reference whose target is only known when the program runs? -/
def isDynamic (reference : RawText) : Bool :=
  (RawText.ofString dynamicMark).points.isPrefixOf reference.points

/-- Does a library entry accept a reference? An entry that ends in `.*`
accepts everything that continues its text up to the dot; any other
entry accepts itself. -/
def acceptedBy (reference : RawText) (entry : String) : Bool :=
  if ['.', '*'].isSuffixOf entry.toList then
    (Text.points entry.toList.dropLast).isPrefixOf reference.points
  else
    reference == entry

end Purity.Name
