/-
Segments of names. Splitting a name at its dots and putting dots between
the pieces again are inverse (`intercalate_segments`), whatever the name
holds: empty segments, and dots at either end. So a name goes on behind a
dot just when its segments go on (`properPrefix_iff`).

A library entry that ends in `.*` compares characters; what it accepts is
told by segments alone (`wildcard_respects_segments`). Consumed by the
proofs about the name of the marker.
-/
import Purity.Proofs.Name

namespace Purity.Name

-- ============================================================ splitting

/-- Cutting at every dot is the splitting of lists. -/
theorem splitDots_eq_splitOn (cs : List Char) :
    splitDots cs = cs.splitOn '.' := by
  induction cs with
  | nil => rfl
  | cons c cs ih =>
      rw [List.splitOn_eq_splitOnP] at ih
      rw [splitDots, List.splitOn_eq_splitOnP,
        List.splitOnP_cons_eq_if_modifyHead, ih]
      by_cases hdot : c = '.'
      · simp [hdot]
      · cases hpieces : cs.splitOnP (· == '.') with
        | nil => exact absurd hpieces (List.splitOnP_ne_nil _ _)
        | cons piece pieces => simp [hdot]

theorem splitDots_ne_nil (cs : List Char) : splitDots cs ≠ [] := by
  rw [splitDots_eq_splitOn]
  exact List.splitOn_ne_nil '.' cs

theorem splitDots_append (p rest : List Char) :
    splitDots (p ++ '.' :: rest) = splitDots p ++ splitDots rest := by
  simp only [splitDots_eq_splitOn, List.splitOn_eq_splitOnP]
  exact List.splitOnP_append_cons p rest (by simp)

-- ============================================================= segments

@[simp] theorem segments_empty : segments "" = [] := rfl

theorem segments_eq {name : String} (h : name ≠ "") :
    segments name = (splitDots name.toList).map String.ofList := if_neg h

theorem segments_ne_nil {name : String} (h : name ≠ "") :
    segments name ≠ [] := by
  rw [segments_eq h]
  simpa using splitDots_ne_nil name.toList

/-- The segments of a name that goes on behind a dot. -/
theorem segments_append {p : String} (hp : p ≠ "") (rest : String) :
    segments (p ++ "." ++ rest)
      = segments p ++ (splitDots rest.toList).map String.ofList := by
  have hne : p ++ "." ++ rest ≠ "" := by simp
  have hchars : (p ++ "." ++ rest).toList =
      p.toList ++ '.' :: rest.toList := by simp
  rw [segments_eq hne, segments_eq hp, hchars, splitDots_append,
    List.map_append]

/-- A name is its segments with dots between them. -/
theorem intercalate_segments (name : String) :
    ".".intercalate (segments name) = name := by
  by_cases hname : name = ""
  · rw [hname]
    rfl
  · apply String.toList_injective
    have hpieces : String.toList ∘ String.ofList = id :=
      funext fun cs => String.toList_ofList
    rw [segments_eq hname, String.toList_intercalate, List.map_map, hpieces,
      List.map_id, splitDots_eq_splitOn]
    exact List.intercalate_splitOn '.'

/-- One name continues another behind a dot just when its segments continue
those of the other. -/
theorem properPrefix_iff {p d : String} (hp : p ≠ "") :
    segments p <+: segments d ∧ segments p ≠ segments d ↔
    ∃ rest, d = p ++ "." ++ rest := by
  constructor
  · rintro ⟨⟨more, hmore⟩, hproper⟩
    have hne : more ≠ [] := by
      rintro rfl
      exact hproper (by rw [← hmore, List.append_nil])
    refine ⟨".".intercalate more, ?_⟩
    rw [← intercalate_segments d, ← hmore,
      String.intercalate_append_of_ne_nil (segments_ne_nil hp) hne,
      intercalate_segments]
  · rintro ⟨rest, rfl⟩
    rw [segments_append hp]
    refine ⟨List.prefix_append _ _, fun hsame => ?_⟩
    have hnil := List.self_eq_append_right.1 hsame
    exact splitDots_ne_nil rest.toList (List.map_eq_nil_iff.1 hnil)

-- ============================================================ wildcards

/-- A wildcard accepts what goes on behind its dot, code point by code
point. -/
theorem acceptedBy_wildcard_iff {p : String} {reference : RawText} :
    acceptedBy reference (p ++ ".*") = true ↔
      ∃ rest, reference.points =
        (RawText.ofString (p ++ ".")).points ++ rest := by
  have hentry : (p ++ ".*").toList = (p ++ ".").toList ++ ['*'] := by simp
  have hwild : ['.', '*'].isSuffixOf (p ++ ".*").toList = true := by
    rw [List.isSuffixOf_iff_suffix]
    exact ⟨p.toList, by simp⟩
  have hcut : (p ++ ".*").toList.dropLast = (p ++ ".").toList := by
    rw [hentry, List.dropLast_concat]
  rw [acceptedBy, if_pos hwild, hcut, List.isPrefixOf_iff_prefix]
  constructor
  · rintro ⟨rest, hrest⟩
    exact ⟨rest, hrest.symm⟩
  · rintro ⟨rest, hrest⟩
    exact ⟨rest, hrest.symm⟩

/-- Of the names, a wildcard accepts those that go on behind its dot. -/
theorem name_acceptedBy_wildcard_iff {p d : String} :
    acceptedBy d (p ++ ".*") = true ↔ ∃ rest, d = p ++ "." ++ rest := by
  have hpoints :
      (RawText.ofString d).points = d.toList.map Text.CodePoint.char := rfl
  rw [acceptedBy_wildcard_iff, hpoints]
  constructor
  · rintro ⟨rest, hrest⟩
    -- what follows the dot is made of characters, since all of the name is
    obtain ⟨front, back, hd, hfront, -⟩ := List.map_eq_append_iff.1 hrest
    refine ⟨String.ofList back, String.toList_injective ?_⟩
    have hstem : front = (p ++ ".").toList :=
      (List.map_inj_right fun _ _ => Text.CodePoint.char.inj).1 hfront
    rw [hd, hstem]
    simp
  · rintro ⟨rest, rfl⟩
    refine ⟨rest.toList.map Text.CodePoint.char, ?_⟩
    rw [String.toList_append, List.map_append]
    rfl

/-- A wildcard accepts by segments. The names it accepts are those whose
segments continue the segments before the wildcard, so a name that goes on
from an accepted one is accepted, and the name before the wildcard and
names that only share its letters are not. Of a text that is no name the
code points behind the dot do not matter. -/
theorem wildcard_respects_segments {p : String} (hp : p ≠ "") (d : String) :
    (acceptedBy d (p ++ ".*") = true ↔
      segments p <+: segments d ∧ segments p ≠ segments d) ∧
    (∀ d', segments d <+: segments d' → acceptedBy d (p ++ ".*") = true →
      acceptedBy d' (p ++ ".*") = true) ∧
    acceptedBy p (p ++ ".*") = false ∧
    (∀ letters : String, letters.toList.head? ≠ some '.' →
      acceptedBy (p ++ letters : String) (p ++ ".*") = false) ∧
    ∀ reference : RawText, acceptedBy reference (p ++ ".*") = true ↔
      ∃ rest, reference.points =
        (RawText.ofString (p ++ ".")).points ++ rest := by
  have hiff : ∀ name : String, acceptedBy name (p ++ ".*") = true ↔
      segments p <+: segments name ∧ segments p ≠ segments name := fun name =>
    name_acceptedBy_wildcard_iff.trans (properPrefix_iff hp).symm
  have hletters : ∀ letters : String, letters.toList.head? ≠ some '.' →
      acceptedBy (p ++ letters : String) (p ++ ".*") = false := by
    intro letters hhead
    rw [Bool.eq_false_iff, Ne, name_acceptedBy_wildcard_iff]
    rintro ⟨rest, hrest⟩
    refine hhead ?_
    have hchars := congrArg String.toList hrest
    simp only [String.toList_append, List.append_assoc] at hchars
    rw [List.append_cancel_left hchars]
    rfl
  refine ⟨hiff d, ?_, ?_, hletters, fun _ => acceptedBy_wildcard_iff⟩
  · intro d' hlonger haccepted
    obtain ⟨hpre, hproper⟩ := (hiff d).1 haccepted
    refine (hiff d').2 ⟨hpre.trans hlonger, fun hsame => hproper ?_⟩
    exact hpre.eq_of_length_le (hsame ▸ hlonger.length_le)
  · simpa using hletters "" (by simp)

/-- The wildcard of `xml.etree` accepts what is below it at any depth, with
empty segments too, and neither `xml.etree` nor `xml.etreelib`. -/
theorem etree_wildcard_accepts :
    "xml.etree" ≠ "" ∧
    acceptedBy "xml.etree.." ("xml.etree" ++ ".*") = true ∧
    acceptedBy "xml.etree...parser" ("xml.etree" ++ ".*") = true ∧
    acceptedBy "xml.etree" ("xml.etree" ++ ".*") = false ∧
    acceptedBy ("xml.etree" ++ "lib.parser" : String) ("xml.etree" ++ ".*") =
      false := by
  have hname : "xml.etree" ≠ "" := by decide
  obtain ⟨haccepted, hlonger, hself, hletters, -⟩ :=
    wildcard_respects_segments hname "xml.etree.."
  have hdots : acceptedBy "xml.etree.." ("xml.etree" ++ ".*") = true :=
    haccepted.2 ⟨by decide, by decide⟩
  exact ⟨hname, hdots, hlonger _ (by decide) hdots, hself,
    hletters _ (by decide)⟩

end Purity.Name
