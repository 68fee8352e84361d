/-
The compatibility form of identifiers: two spellings that differ only in
presentation (ligatures, wide letters, letters with separate accents) are
the same identifier. A text is decomposed, its combining marks are put in
their canonical order, and it is composed again as far as possible.

The tables cover the characters that can occur in identifiers. Consumed
by the lexer.
-/
import Purity.Text.Compatibility.Data

namespace Purity.Text.Compatibility

-- ============================================================== tables

/-- The value of a hexadecimal digit. -/
def digitValue (c : Char) : Nat :=
  if c.isDigit then c.toNat - 48 else c.toNat - 87

/-- Reads groups of hexadecimal numbers, each group ended by a comma.
`number` is the number being read and `group` holds the ones before it,
the last first. -/
def readGroups :
    (number : Nat) → (group : List Nat) → List Char → List (List Nat)
  | _, _, [] => []
  | number, group, ',' :: cs => (number :: group).reverse :: readGroups 0 [] cs
  | number, group, ' ' :: cs => readGroups 0 (number :: group) cs
  | number, group, c :: cs => readGroups (16 * number + digitValue c) group cs

/-- The groups of a table. -/
def readTable (lines : List String) : List (List Nat) :=
  lines.flatMap fun line => readGroups 0 [] line.toList

/-- The decompositions, as groups. -/
def decompositions : List (List Nat) := readTable decompositionLines

/-- The combining classes, as groups. -/
def combining : List (List Nat) := readTable combiningLines

/-- The compositions, as groups. -/
def compositions : List (List Nat) := readTable compositionLines

-- ====================================================== decomposition

/-- Number of syllables of the Hangul block, which decompose and compose
by rule. -/
def hangulCount : Nat := 11172

/-- The full decomposition of a code point. -/
def decompose (code : Nat) : List Nat :=
  if 0xAC00 ≤ code ∧ code < 0xAC00 + hangulCount then
    let i := code - 0xAC00
    let tail := i % 28
    [0x1100 + i / 588, 0x1161 + i % 588 / 28] ++
      (if tail = 0 then [] else [0x11A7 + tail])
  else
    (decompositions.findSome? fun
      | first :: count :: target :: more =>
          if first ≤ code ∧ code < first + count then
            some ((target + (code - first)) :: more)
          else none
      | _ => none).getD [code]

/-- The combining class of a code point, 0 for one that is not a mark. -/
def combiningClass (code : Nat) : Nat :=
  (combining.findSome? fun
    | [first, count, value] =>
        if first ≤ code ∧ code < first + count then some value else none
    | _ => none).getD 0

-- ============================================================ ordering

/-- Puts a mark behind those of a lower or equal class that end a text.
The text is given the last first. -/
def insertMark (code value : Nat) : List (Nat × Nat) → List (Nat × Nat)
  | [] => [(code, value)]
  | (c, v) :: rest =>
      if value ≠ 0 ∧ v > value then (c, v) :: insertMark code value rest
      else (code, value) :: (c, v) :: rest

/-- The canonical order: within a run of marks, classes ascend. -/
def order (codes : List Nat) : List (Nat × Nat) :=
  (codes.foldl (fun acc code =>
    insertMark code (combiningClass code) acc) []).reverse

-- ========================================================= composition

/-- What two code points compose to. -/
def compose? (a b : Nat) : Option Nat :=
  if 0x1100 ≤ a ∧ a < 0x1113 ∧ 0x1161 ≤ b ∧ b < 0x1176 then
    some (0xAC00 + ((a - 0x1100) * 21 + (b - 0x1161)) * 28)
  else if 0xAC00 ≤ a ∧ a < 0xAC00 + hangulCount ∧ (a - 0xAC00) % 28 = 0 ∧
    0x11A7 < b ∧ b < 0x11C3 then
    some (a + (b - 0x11A7))
  else
    compositions.findSome? fun
      | [x, y, composed] => if x = a ∧ y = b then some composed else none
      | _ => none

/-- Composes from left to right. `starter` is the character that marks can
still join, `held` the marks after it that stay, the last first, and `last`
the class of the last of them. -/
def composeFrom (starter : Nat) (held : List Nat) (last : Option Nat) :
    List (Nat × Nat) → List Nat
  | [] => starter :: held.reverse
  | (code, value) :: rest =>
      let free := match last with
        | none => true
        | some v => v < value
      match if free then compose? starter code else none with
      | some composed => composeFrom composed held last rest
      | none =>
          if value = 0 then
            starter :: held.reverse ++ composeFrom code [] none rest
          else composeFrom starter (code :: held) (some value) rest

/-- Composes an ordered text. Marks before the first starter stay. -/
def composeAll : List (Nat × Nat) → List Nat
  | [] => []
  | (code, value) :: rest =>
      if value = 0 then composeFrom code [] none rest
      else code :: composeAll rest

/-- The compatibility form of a text. -/
def normalize (text : List Char) : List Char :=
  (composeAll (order (text.flatMap fun c => decompose c.toNat))).map Char.ofNat

end Purity.Text.Compatibility
