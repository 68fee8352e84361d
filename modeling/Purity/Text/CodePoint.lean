/-
Code points of texts that a program writes with escapes. Such a text can
hold one half of a surrogate pair without the other; a half is no
character, has no encoding, and is never joined with a half next to it.

A raw text is a text of code points that is handled as one value: it is
compared, put in order and quoted. Every plain text is a raw text.

Consumed by string literals, by the expression printer, and wherever a
reference to a module is kept.
-/
import Purity.Text.Quoted

namespace Purity

namespace Text

/-- A code point. -/
inductive CodePoint where
  | char (c : Char)
  /-- Half of a surrogate pair. -/
  | half (code : Nat) (isHalf : 0xD800 ≤ code ∧ code ≤ 0xDFFF)
  deriving DecidableEq

namespace CodePoint

/-- The code point of a number, unless it lies beyond the last one. -/
def ofNat? (code : Nat) : Option CodePoint :=
  if code > 0x10FFFF then none
  else if isHalf : 0xD800 ≤ code ∧ code ≤ 0xDFFF then some (half code isHalf)
  else some (char (Char.ofNat code))

/-- The number of a code point. -/
def code : CodePoint → Nat
  | char c => c.toNat
  | half code _ => code

/-- The character that is shown for a code point: the replacement character
in place of a half. -/
def shown : CodePoint → Char
  | char c => c
  | half .. => '�'

theorem code_lt (p : CodePoint) : p.code < 0x110000 := by
  cases p with
  | half code isHalf => exact Nat.lt_of_le_of_lt isHalf.2 (by decide)
  | char c =>
      show c.toNat < 0x110000
      rcases c.valid with hlow | hhigh
      · exact Nat.lt_trans hlow (by decide)
      · exact hhigh.2

/-- The number of a code point tells the code point. -/
theorem ofNat?_code (p : CodePoint) : ofNat? p.code = some p := by
  have hbound : ¬ p.code > 0x10FFFF :=
    Nat.not_lt.2 (Nat.lt_succ_iff.1 p.code_lt)
  unfold ofNat?
  rw [if_neg hbound]
  cases p with
  | half code isHalf => exact dif_pos isHalf
  | char c =>
      have hchar : ¬ (0xD800 ≤ c.toNat ∧ c.toNat ≤ 0xDFFF) := by
        rcases c.valid with hlow | hhigh
        · exact fun h => Nat.not_lt.2 h.1 hlow
        · exact fun h => Nat.not_lt.2 h.2 hhigh.1
      refine (dif_neg hchar).trans ?_
      rw [code, Char.ofNat_toNat]

theorem code_inj {p q : CodePoint} (h : p.code = q.code) : p = q := by
  have hsame := ofNat?_code p
  rw [h, ofNat?_code] at hsame
  exact (Option.some.inj hsame).symm

/-- How a code point is written between quotes of the given kind. -/
def escape (quote : Char) : CodePoint → List Char
  | char c => escapeChar quote c
  | half code _ => codeEscape code

end CodePoint

/-- The characters of a text as code points. -/
def points (cs : List Char) : List CodePoint := cs.map .char

/-- The written form of a text of code points. -/
def quotedPoints (text : List CodePoint) : List Char :=
  let quote := quoteFor (text.map CodePoint.shown)
  quote :: text.flatMap (CodePoint.escape quote) ++ [quote]

/-- The written form of a list of texts, between brackets. -/
def quotedTexts (texts : List (List CodePoint)) : List Char :=
  '[' :: List.intercalate [',', ' '] (texts.map quotedPoints) ++ [']']

/-- Does a text come before another? The first code points in which they
differ decide, and an end comes before everything. -/
def precedes : List CodePoint → List CodePoint → Bool
  | _, [] => false
  | [], _ :: _ => true
  | p :: text, q :: other =>
      p.code < q.code || (p.code = q.code && precedes text other)

theorem precedes_cons {p q : CodePoint} {text other : List CodePoint} :
    precedes (p :: text) (q :: other) = true ↔
      p.code < q.code ∨ p.code = q.code ∧ precedes text other = true := by
  simp [precedes]

theorem precedes_trans {s t u : List CodePoint} (hst : precedes s t = true)
    (htu : precedes t u = true) : precedes s u = true := by
  induction s generalizing t u with
  | nil =>
    cases u with
    | nil => cases t <;> cases htu
    | cons r u => rfl
  | cons p s ih =>
    cases t with
    | nil => cases hst
    | cons q t =>
      cases u with
      | nil => cases htu
      | cons r u =>
        rw [precedes_cons] at hst htu ⊢
        rcases hst with hst | ⟨hst, hrest⟩
        · rcases htu with htu | ⟨htu, -⟩
          · exact .inl (Nat.lt_trans hst htu)
          · exact .inl (htu ▸ hst)
        · rcases htu with htu | ⟨htu, hrest'⟩
          · exact .inl (hst ▸ htu)
          · exact .inr ⟨hst.trans htu, ih hrest hrest'⟩

theorem precedes_asymm {s t : List CodePoint} (hst : precedes s t = true) :
    precedes t s = false := by
  induction s generalizing t with
  | nil =>
    cases t with
    | nil => rfl
    | cons q t => rfl
  | cons p s ih =>
    cases t with
    | nil => cases hst
    | cons q t =>
      rw [Bool.eq_false_iff, Ne, precedes_cons]
      rw [precedes_cons] at hst
      rcases hst with hst | ⟨hst, hrest⟩
      · omega
      · simp [ih hrest, hst]

theorem eq_of_not_precedes {s t : List CodePoint} (hst : precedes s t = false)
    (hts : precedes t s = false) : s = t := by
  induction s generalizing t with
  | nil =>
    cases t with
    | nil => rfl
    | cons q t => cases hst
  | cons p s ih =>
    cases t with
    | nil => cases hts
    | cons q t =>
      rw [Bool.eq_false_iff, Ne, precedes_cons] at hst hts
      have hcode : p.code = q.code := by omega
      have hrest : precedes s t = false ∧ precedes t s = false := by
        simp only [hcode, Nat.lt_irrefl, false_or, true_and,
          Bool.not_eq_true] at hst hts
        exact ⟨hst, hts⟩
      rw [CodePoint.code_inj hcode, ih hrest.1 hrest.2]

end Text

-- ============================================================ raw texts

/-- A text of code points. -/
structure RawText where
  points : List Text.CodePoint
  deriving DecidableEq

namespace RawText

/-- A plain text as a text of code points. -/
def ofString (text : String) : RawText := ⟨Text.points text.toList⟩

instance : Coe String RawText := ⟨ofString⟩

instance : LT RawText := ⟨fun s t => Text.precedes s.points t.points = true⟩

instance (s t : RawText) : Decidable (s < t) :=
  inferInstanceAs (Decidable (Text.precedes s.points t.points = true))

instance transRawText : Trans (α := RawText) (· < ·) (· < ·) (· < ·) :=
  ⟨Text.precedes_trans⟩

instance asymmRawText : Std.Asymm (α := RawText) (· < ·) where
  asymm s t hlt hgt := by
    have hnot := Text.precedes_asymm hlt
    rw [show Text.precedes t.points s.points = true from hgt] at hnot
    cases hnot

instance trichotomousRawText : Std.Trichotomous (α := RawText) (· < ·) where
  trichotomous s t hst hts := by
    have hpoints :=
      Text.eq_of_not_precedes (Bool.eq_false_iff.2 hst)
        (Bool.eq_false_iff.2 hts)
    cases s
    cases t
    exact congrArg mk hpoints

theorem ofString_inj {s t : String} : ofString s = ofString t ↔ s = t := by
  constructor
  · intro h
    have hpoints : Text.points s.toList = Text.points t.toList :=
      congrArg points h
    have hchars :=
      (List.map_inj_right fun _ _ => Text.CodePoint.char.inj).1 hpoints
    exact String.toList_injective hchars
  · rintro rfl
    rfl

end RawText

/-- The written form of a list of texts. -/
def Text.quotedList (texts : List RawText) : String :=
  String.ofList (quotedTexts (texts.map RawText.points))

end Purity
