/-
Characters by name. The names come from tables, apart from those that
follow a rule: Hangul syllables are named by their letters, and ideographs
by their code point.

A line of a table names characters that follow each other. It starts with
the code point of the first. A small letter starts a name and tells how
many parts it has in common with the name before it in the line, none for
`a`; a part ends behind a blank or a hyphen. Consumed by string literals.
-/
import Purity.Text.CharName.Alias
import Purity.Text.CharName.Lower
import Purity.Text.CharName.Middle
import Purity.Text.CharName.Upper
import Purity.Text.CharClass
import Std.Data.HashMap

namespace Purity.Text

namespace CharName

-- =============================================================== tables

/-- The value of a hexadecimal digit with capital letters. -/
def digit? (c : Char) : Option Nat :=
  if c.isDigit then some (c.toNat - 48)
  else if 'A' ≤ c ∧ c ≤ 'F' then some (c.toNat - 55)
  else none

/-- The number that hexadecimal digits stand for. -/
def number? (cs : List Char) : Option Nat :=
  cs.foldlM (fun n c => (digit? c).map fun d => 16 * n + d) 0

/-- Cuts a line at its small letters: what stands before the first of them,
and for each of them the number it tells and the text behind it. -/
def cutLine (cs : List Char) : List Char × List (Nat × List Char) :=
  cs.foldr (fun c (text, found) =>
    if c.isLower then ([], (c.toNat - 97, text) :: found)
    else (c :: text, found)) ([], [])

/-- The first parts of a name. -/
def leading : (count : Nat) → List Char → List Char
  | 0, _ => []
  | _, [] => []
  | count + 1, c :: cs =>
      c :: leading (if c = ' ' || c = '-' then count else count + 1) cs

/-- The names of characters that follow each other, with their code points.
Each name builds on the one before it. -/
def expand : (before : List Char) → (code : Nat) → List (Nat × List Char) →
    List (String × Nat)
  | _, _, [] => []
  | before, code, (kept, text) :: more =>
      let name := leading kept before ++ text
      (String.ofList name, code) :: expand name (code + 1) more

/-- The names of a line. -/
def readLine (line : String) : List (String × Nat) :=
  let (start, found) := cutLine line.toList
  expand [] ((number? start).getD 0) found

/-- All names of the tables, with their code points. -/
def table : Thunk (Std.HashMap String Nat) := Thunk.mk fun _ =>
  .ofList ([lowerText, middleText, upperText, aliasText].flatMap fun text =>
    (text.splitOn "\n").flatMap readLine)

-- ====================================================== Hangul syllables

/-- The names of the letters that start a syllable. -/
def initialLetters : List (List Char) :=
  ["G", "GG", "N", "D", "DD", "R", "M", "B", "BB", "S", "SS", "", "J", "JJ",
    "C", "K", "T", "P",
   "H"].map String.toList

/-- The names of the vowels. -/
def vowels : List (List Char) :=
  ["A", "AE", "YA", "YAE", "EO", "E", "YEO", "YE", "O", "WA", "WAE", "OE",
    "YO", "U", "WEO", "WE",
   "WI", "YU", "EU", "YI", "I"].map String.toList

/-- The names of the letters that end a syllable, the first of which is
none. -/
def finalLetters : List (List Char) :=
  ["", "G", "GG", "GS", "N", "NJ", "NH", "D", "L", "LG", "LM", "LB", "LS",
    "LT", "LP", "LH", "M",
   "B", "BS", "S", "SS", "NG", "J", "C", "K", "T", "P", "H"].map String.toList

/-- The index of the longest of several letters that a text starts with,
and the text behind it. -/
def takeLetter (letters : List (List Char)) (cs : List Char) :
    Option (Nat × List Char) :=
  let fitting := letters.zipIdx.filter fun (letter, _) => letter.isPrefixOf cs
  let longest := fitting.foldl (fun (best : Option (List Char × Nat)) found =>
    match best with
    | some b => if b.1.length < found.1.length then some found else some b
    | none => some found) none
  longest.map fun (letter, i) => (i, cs.drop letter.length)

/-- The code point of the syllable with these letters. -/
def syllable? (cs : List Char) : Option Nat := do
  let (initial, cs) ← takeLetter initialLetters cs
  let (vowel, cs) ← takeLetter vowels cs
  let (final, cs) ← takeLetter finalLetters cs
  if cs.isEmpty then
    let syllable := initial * vowels.length + vowel
    some (0xAC00 + syllable * finalLetters.length + final)
  else none

-- =========================================================== ideographs

/-- Where the property of being an ideograph named by its code switches. -/
def ideographBounds : List Nat := [
    0x3400, 0x4dc0, 0x4e00, 0xa000, 0x20000, 0x2a6e0, 0x2a700, 0x2b739,
    0x2b740, 0x2b81e, 0x2b820, 0x2cea2, 0x2ceb0, 0x2ebe1, 0x30000, 0x3134b]

/-- The code point of the ideograph with these hexadecimal digits. -/
def ideograph? (cs : List Char) : Option Nat := do
  let code ← number? cs
  if (cs.length = 4 ∨ cs.length = 5) ∧ holdsAt ideographBounds code then
    some code
  else none

-- =============================================================== lookup

/-- How the names of Hangul syllables start. -/
def syllableStart : List Char := "HANGUL SYLLABLE ".toList

/-- How the names of ideographs start. -/
def ideographStart : List Char := "CJK UNIFIED IDEOGRAPH-".toList

/-- The code point of a character by its name. Names from the tables can be
written in letters of any case. -/
def code? (name : List Char) : Option Nat :=
  if syllableStart.isPrefixOf name then
    syllable? (name.drop syllableStart.length)
  else if ideographStart.isPrefixOf name then
    ideograph? (name.drop ideographStart.length)
  else table.get[String.ofList (name.map Char.toUpper)]?

end CharName

/-- The character with a name. -/
def charNamed? (name : List Char) : Option Char :=
  (CharName.code? name).map Char.ofNat

end Purity.Text
