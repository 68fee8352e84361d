/-
The names that source texts are written with. A name is read as a word of
letters, digits, underscores and characters outside ASCII, and what it is
called by is the compatibility form of this word. The form has no dot and
no line end (`plain_normalize`): all codes that the tables can put into a
word are those of digits or above them (`decompositionLines_above`), and
dots and line ends are below.
-/
import Purity.Proofs.Name
import Purity.Syntax.Lexer

namespace Purity

namespace Text.Compatibility

-- =============================================================== tables

/-- The code of the first digit. All that a word consists of is from here
on. -/
def firstDigit : Nat := 48

/-- All codes that the entries of a text stand for are digits or above. -/
def above (cs : List Char) : Bool :=
  (readGroups 0 [] cs).all fun group =>
    (group.drop 2).all fun code => firstDigit ≤ code

/-- The characters of some lines. Going through the characters of a line
that is written out is no work, once they are listed. -/
inductive Spelled : List String → List (List Char) → Prop
  | nil : Spelled [] []
  | cons (cs : List Char) {lines : List String} {texts : List (List Char)} :
      Spelled lines texts → Spelled (String.ofList cs :: lines) (cs :: texts)

theorem firstDigit_le_of_mem_readTable {lines : List String}
    {texts : List (List Char)} (h : Spelled lines texts)
    (habove : texts.all above = true) {group : List Nat}
    (hgroup : group ∈ readTable lines) {code : Nat}
    (hcode : code ∈ group.drop 2) : firstDigit ≤ code := by
  induction h with
  | nil => cases hgroup
  | cons cs _ ih =>
    rw [List.all_cons, Bool.and_eq_true] at habove
    rw [readTable, List.flatMap_cons, List.mem_append,
      String.toList_ofList] at hgroup
    rcases hgroup with hhere | hrest
    · have hall := List.all_eq_true.1 habove.1 group hhere
      exact of_decide_eq_true (List.all_eq_true.1 hall code hcode)
    · exact ih habove.2 hrest

set_option maxRecDepth 10000 in
theorem decompositionLines_above :
    ∃ texts, Spelled decompositionLines texts ∧ texts.all above = true := by
  apply Exists.intro
  apply And.intro
  · unfold decompositionLines
    dsimp only
    repeat (first | exact .nil | apply Spelled.cons)
  · decide +kernel

set_option maxRecDepth 10000 in
theorem compositionLines_above :
    ∃ texts, Spelled compositionLines texts ∧ texts.all above = true := by
  apply Exists.intro
  apply And.intro
  · unfold compositionLines
    dsimp only
    repeat (first | exact .nil | apply Spelled.cons)
  · decide +kernel

-- ==================================================== the form of a word

theorem firstDigit_le_of_mem_decompose {code part : Nat}
    (hcode : firstDigit ≤ code) (hpart : part ∈ decompose code) :
    firstDigit ≤ part := by
  unfold decompose at hpart
  split at hpart
  next =>
    simp only [List.mem_append, List.mem_cons, List.not_mem_nil,
      or_false] at hpart
    unfold firstDigit
    split at hpart
    · simp only [List.not_mem_nil, or_false] at hpart
      omega
    · simp only [List.mem_cons, List.not_mem_nil, or_false] at hpart
      omega
  next =>
    cases hfound : decompositions.findSome? _ with
    | none =>
      rw [hfound] at hpart
      rw [List.mem_singleton.1 hpart]
      exact hcode
    | some parts =>
      rw [hfound] at hpart
      obtain ⟨group, hgroup, hsome⟩ := List.exists_of_findSome?_eq_some hfound
      obtain ⟨texts, hspelled, habove⟩ := decompositionLines_above
      have hall := fun code =>
        @firstDigit_le_of_mem_readTable _ _ hspelled habove group hgroup code
      split at hsome
      next first count target more =>
        split at hsome
        next =>
          cases hsome
          rcases List.mem_cons.1 hpart with rfl | hmore
          · have := hall target (by simp)
            omega
          · exact hall part (by simp [hmore])
        next => cases hsome
      next => cases hsome

theorem decompose_ne_nil (code : Nat) : decompose code ≠ [] := by
  unfold decompose
  split
  next => simp
  next =>
    cases hfound : decompositions.findSome? _ with
    | none => simp
    | some parts =>
      obtain ⟨group, -, hsome⟩ := List.exists_of_findSome?_eq_some hfound
      split at hsome
      next =>
        split at hsome
        next =>
          cases hsome
          simp
        next => cases hsome
      next => cases hsome

/-- Marks are put elsewhere, but nothing is lost or added. -/
theorem insertMark_perm (code value : Nat) (acc : List (Nat × Nat)) :
    (insertMark code value acc).Perm ((code, value) :: acc) := by
  induction acc with
  | nil => exact .refl _
  | cons x acc ih =>
    rw [insertMark]
    split
    next => exact (ih.cons x).trans (.swap _ _ _)
    next => exact .refl _

theorem map_fst_order_perm (codes : List Nat) :
    ((order codes).map Prod.fst).Perm codes := by
  have hfold : ∀ (codes : List Nat) acc,
      ((codes.foldl (fun acc code =>
        insertMark code (combiningClass code) acc) acc).map Prod.fst).Perm
        (codes ++ acc.map Prod.fst) := by
    intro codes
    induction codes with
    | nil => exact fun acc => .refl _
    | cons code codes ih =>
      intro acc
      refine (ih _).trans ?_
      refine (((insertMark_perm _ _ acc).map _).append_left codes).trans ?_
      exact List.perm_middle
  unfold order
  rw [List.map_reverse]
  refine (List.reverse_perm _).trans ((hfold codes []).trans ?_)
  rw [List.map_nil, List.append_nil]

theorem firstDigit_le_of_compose? {a b code : Nat}
    (h : compose? a b = some code) : firstDigit ≤ code := by
  unfold compose? at h
  split at h
  next =>
    rw [Option.some.injEq] at h
    unfold firstDigit
    omega
  next =>
    split at h
    next hsyllable =>
      rw [Option.some.injEq] at h
      unfold firstDigit
      omega
    next =>
      obtain ⟨group, hgroup, hsome⟩ := List.exists_of_findSome?_eq_some h
      obtain ⟨texts, hspelled, habove⟩ := compositionLines_above
      split at hsome
      next =>
        split at hsome
        next =>
          cases hsome
          exact firstDigit_le_of_mem_readTable hspelled habove hgroup
            (by simp)
        next => cases hsome
      next => cases hsome

theorem firstDigit_le_of_mem_composeFrom (starter : Nat) (held : List Nat)
    (last : Option Nat) (codes : List (Nat × Nat))
    (hstarter : firstDigit ≤ starter)
    (hheld : ∀ code ∈ held, firstDigit ≤ code)
    (hcodes : ∀ x ∈ codes, firstDigit ≤ x.1) :
    ∀ code ∈ composeFrom starter held last codes, firstDigit ≤ code := by
  fun_induction composeFrom starter held last codes with
  | case1 => simpa using ⟨hstarter, hheld⟩
  | case2 starter held last code value rest free composed hsome ih =>
    split at hsome
    next =>
      exact ih (firstDigit_le_of_compose? hsome) hheld
        (List.forall_mem_cons.1 hcodes).2
    next => cases hsome
  | case3 starter held last code rest free _ ih =>
    obtain ⟨hcode, hrest⟩ := List.forall_mem_cons.1 hcodes
    intro k hk
    rw [List.cons_append, List.mem_cons, List.mem_append,
      List.mem_reverse] at hk
    rcases hk with rfl | hk | hk
    · exact hstarter
    · exact hheld k hk
    · exact ih hcode (by simp) hrest k hk
  | case4 starter held last code value rest free _ _ ih =>
    obtain ⟨hcode, hrest⟩ := List.forall_mem_cons.1 hcodes
    exact ih hstarter (List.forall_mem_cons.2 ⟨hcode, hheld⟩) hrest

theorem composeFrom_ne_nil (starter : Nat) (held : List Nat)
    (last : Option Nat) (codes : List (Nat × Nat)) :
    composeFrom starter held last codes ≠ [] := by
  fun_induction composeFrom starter held last codes with
  | case1 => simp
  | case2 _ _ _ _ _ _ _ _ _ ih => exact ih
  | case3 => simp
  | case4 _ _ _ _ _ _ _ _ _ ih => exact ih

theorem firstDigit_le_of_mem_composeAll {codes : List (Nat × Nat)}
    (hcodes : ∀ x ∈ codes, firstDigit ≤ x.1) :
    ∀ code ∈ composeAll codes, firstDigit ≤ code := by
  induction codes with
  | nil => simp [composeAll]
  | cons x codes ih =>
    obtain ⟨hx, hrest⟩ := List.forall_mem_cons.1 hcodes
    rw [composeAll]
    split
    next => exact firstDigit_le_of_mem_composeFrom _ _ _ _ hx (by simp) hrest
    next => exact List.forall_mem_cons.2 ⟨hx, ih hrest⟩

theorem composeAll_ne_nil {codes : List (Nat × Nat)} (h : codes ≠ []) :
    composeAll codes ≠ [] := by
  cases codes with
  | nil => exact absurd rfl h
  | cons x codes =>
    rw [composeAll]
    split
    next => exact composeFrom_ne_nil _ _ _ _
    next => exact List.cons_ne_nil _ _

theorem ne_of_firstDigit_le {code : Nat} (h : firstDigit ≤ code) {c : Char}
    (hpos : 0 < c.toNat) (hc : c.toNat < firstDigit) :
    Char.ofNat code ≠ c := by
  intro heq
  by_cases hvalid : code.isValidChar
  · have hchar : Char.ofNat code = Char.ofNatAux code hvalid := dif_pos hvalid
    have hcode : code = c.toNat := congrArg Char.toNat (hchar.symm.trans heq)
    omega
  · have hchar : Char.ofNat code = '\x00' := dif_neg hvalid
    have hcode : 0 = c.toNat := congrArg Char.toNat (hchar.symm.trans heq)
    omega

/-- A word in its compatibility form is a plain name. -/
theorem plain_normalize {word : List Char} (hne : word ≠ [])
    (hword : ∀ c ∈ word, firstDigit ≤ c.toNat) :
    Name.Plain (String.ofList (normalize word)) := by
  have hcodes : ∀ code ∈ composeAll (order (word.flatMap fun c =>
      decompose c.toNat)), firstDigit ≤ code := by
    refine firstDigit_le_of_mem_composeAll fun x hx => ?_
    have hmem := (map_fst_order_perm _).mem_iff.1 (List.mem_map_of_mem hx)
    obtain ⟨c, hc, hpart⟩ := List.mem_flatMap.1 hmem
    exact firstDigit_le_of_mem_decompose (hword c hc) hpart
  have hnot : ∀ c : Char, 0 < c.toNat → c.toNat < firstDigit →
      c ∉ normalize word := by
    intro c hpos hc hmem
    obtain ⟨code, hcode, hof⟩ := List.mem_map.1 hmem
    exact ne_of_firstDigit_le (hcodes code hcode) hpos hc hof
  refine ⟨⟨?_, ?_⟩, ?_⟩
  · intro hempty
    have hnil : normalize word = [] := by
      rw [← String.toList_ofList (l := normalize word), hempty]
      rfl
    obtain ⟨c, rest, rfl⟩ := List.exists_cons_of_ne_nil hne
    refine composeAll_ne_nil (fun horder => ?_) (List.map_eq_nil_iff.1 hnil)
    have hperm := map_fst_order_perm
      ((c :: rest).flatMap fun c => decompose c.toNat)
    rw [horder, List.map_nil, List.nil_perm, List.flatMap_cons,
      List.append_eq_nil_iff] at hperm
    exact decompose_ne_nil _ hperm.1
  · rw [String.toList_ofList]
    exact hnot '.' (by decide) (by decide)
  · rw [String.toList_ofList]
    exact hnot '\n' (by decide) (by decide)

end Text.Compatibility

-- ========================================================== in the text

namespace Lexer

open Text.Compatibility

theorem firstDigit_le_of_isNameChar {c : Char} (h : isNameChar c = true) :
    firstDigit ≤ c.toNat := by
  have hle : ∀ d : Char, d ≤ c → d.toNat ≤ c.toNat := fun _ hd => hd
  unfold isNameChar at h
  rw [Bool.or_eq_true, Bool.or_eq_true, decide_eq_true_iff,
    decide_eq_true_iff] at h
  rcases h with (halnum | rfl) | hhigh
  · rcases Bool.or_eq_true_iff.1 halnum with halpha | hdigit
    · rcases Bool.or_eq_true_iff.1 halpha with hupper | hlower
      · have hfirst : 'A' ≤ c := (decide_eq_true_iff.1 hupper).1
        exact Nat.le_trans (by decide) (hle 'A' hfirst)
      · have hfirst : 'a' ≤ c :=
          decide_eq_true_iff.1 (Bool.and_eq_true_iff.1 hlower).1
        exact Nat.le_trans (by decide) (hle 'a' hfirst)
    · have hfirst : '0' ≤ c :=
        decide_eq_true_iff.1 (Bool.and_eq_true_iff.1 hdigit).1
      exact hle '0' hfirst
  · decide
  · exact Nat.le_trans (by decide) hhigh

theorem plain_word {word : List Char} (hne : word ≠ [])
    (hword : ∀ c ∈ word, isNameChar c = true) :
    Name.Plain (String.ofList word) := by
  refine ⟨⟨?_, ?_⟩, ?_⟩
  · intro hempty
    rw [← String.toList_ofList (l := word), hempty] at hne
    exact hne rfl
  · rw [String.toList_ofList]
    intro hdot
    cases hword '.' hdot
  · rw [String.toList_ofList]
    intro hline
    cases hword '\n' hline

end Lexer

end Purity
