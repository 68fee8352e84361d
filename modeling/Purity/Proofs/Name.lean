/-
Laws of dotted names. Joining is the concatenation of the parts that are
not empty with dots between them, so joining in two steps is joining at
once (`join_append`) and a name grows by each part that is not empty
(`join_pair`).

The names around a name are its beginnings that end before a dot.
`dottedPrefixes` lists them from the text alone, the longest first;
dropping the last segment over and over gives the same list, apart from
the empty name (`outer_eq_filter_dottedPrefixes`). When the parts of a
name have no dots themselves, the names around it are made of its first
parts (`prefix_of_mem_outer`). Consumed by the proofs about scopes and
about the charging of calls.
-/
import Mathlib.Data.List.TakeWhile
import Purity.Name

namespace Purity.Name

-- ============================================================= joining

/-- Joining leaves out empty parts and puts dots between the others. -/
theorem join_eq_intercalate (parts : List String) :
    join parts = ".".intercalate (parts.filter (· ≠ "")) := by
  apply String.toList_injective
  unfold join
  rw [String.toList_ofList, String.toList_intercalate, List.filter_map]
  have hne : (fun x : List Char => decide (x ≠ [])) ∘ String.toList
      = fun s : String => decide (s ≠ "") := by
    funext s
    simp
  rw [hne]
  rfl

@[simp] theorem join_nil : join [] = "" := rfl

@[simp] theorem join_singleton (name : String) : join [name] = name := by
  rw [join_eq_intercalate]
  by_cases h : name = "" <;> simp [h]

@[simp] theorem join_empty_left (b : String) : join ["", b] = b := by
  rw [join_eq_intercalate]
  by_cases h : b = "" <;> simp [h]

@[simp] theorem join_empty_right (a : String) : join [a, ""] = a := by
  rw [join_eq_intercalate]
  by_cases h : a = "" <;> simp [h]

/-- Two parts that are not empty stand around a dot. -/
theorem join_pair {a b : String} (ha : a ≠ "") (hb : b ≠ "") :
    join [a, b] = a ++ "." ++ b := by
  rw [join_eq_intercalate]
  simp [ha, hb, String.intercalate_cons_cons]

/-- A name that goes on is another name. -/
theorem join_pair_ne {a b : String} (hb : b ≠ "") : join [a, b] ≠ a := by
  by_cases ha : a = ""
  · rw [ha, join_empty_left]
    exact hb
  · rw [join_pair ha hb]
    intro hsame
    have hlength := congrArg String.length hsame
    have hdot : ".".length = 1 := rfl
    rw [String.length_append, String.length_append] at hlength
    omega

/-- A joined name is empty only when all its parts are. -/
theorem join_eq_empty {parts : List String} :
    join parts = "" ↔ ∀ x ∈ parts, x = "" := by
  rw [join_eq_intercalate]
  constructor
  · intro h x hx
    by_contra hne
    have hmem : x ∈ parts.filter (· ≠ "") := by simp [hx, hne]
    -- the first part that is kept makes the result longer than nothing
    cases hkept : parts.filter (· ≠ "") with
    | nil => rw [hkept] at hmem; cases hmem
    | cons y ys =>
        have hy : y ∈ parts.filter (· ≠ "") := by rw [hkept]; simp
        have hyne : y ≠ "" := by simpa using (List.mem_filter.1 hy).2
        rw [hkept] at h
        cases ys with
        | nil => exact hyne (by simpa using h)
        | cons z zs =>
            rw [String.intercalate_cons_cons] at h
            simp at h
  · intro h
    have hnil : parts.filter (· ≠ "") = [] := by
      rw [List.filter_eq_nil_iff]
      intro x hx
      simp [h x hx]
    rw [hnil]
    rfl

/-- What is left of parts that join to nothing. -/
theorem filter_eq_nil_of_join {parts : List String} (h : join parts = "") :
    parts.filter (· ≠ "") = [] := by
  rw [List.filter_eq_nil_iff]
  intro x hx
  simp [join_eq_empty.1 h x hx]

/-- Joining in two steps is joining at once. -/
theorem join_append (xs ys : List String) :
    join (xs ++ ys) = join [join xs, join ys] := by
  by_cases hx : join xs = ""
  · rw [hx, join_empty_left, join_eq_intercalate, List.filter_append,
      filter_eq_nil_of_join hx, List.nil_append, ← join_eq_intercalate]
  · by_cases hy : join ys = ""
    · rw [hy, join_empty_right, join_eq_intercalate, List.filter_append,
        filter_eq_nil_of_join hy, List.append_nil, ← join_eq_intercalate]
    · rw [join_pair hx hy, join_eq_intercalate, join_eq_intercalate xs,
        join_eq_intercalate ys, List.filter_append]
      refine String.intercalate_append_of_ne_nil ?_ ?_
      · intro hnil
        exact hx (by rw [join_eq_intercalate, hnil]; rfl)
      · intro hnil
        exact hy (by rw [join_eq_intercalate, hnil]; rfl)

/-- A name grows by one more part. -/
theorem join_concat (xs : List String) (y : String) :
    join (xs ++ [y]) = join [join xs, y] := by
  rw [join_append, join_singleton]

/-- A name goes on behind its first part. -/
theorem join_cons (x : String) (xs : List String) :
    join (x :: xs) = join [x, join xs] := by
  rw [← List.singleton_append, join_append, join_singleton]

/-- A name is at least as long as its first part. -/
theorem length_le_join (x : String) (xs : List String) :
    x.length ≤ (join (x :: xs)).length := by
  rw [join_cons]
  by_cases hx : x = ""
  · simp [hx]
  · by_cases hxs : join xs = ""
    · rw [hxs, join_empty_right]
    · rw [join_pair hx hxs, String.length_append, String.length_append]
      omega

/-- A joined name goes on like its parts. -/
theorem join_join_cons (xs ys : List String) :
    join (join xs :: ys) = join (xs ++ ys) := by
  rw [join_append, join_cons]

-- ==================================================== names around a name

/-- The beginnings of a text that end before a dot, the shortest first. -/
def cuts : List Char → List (List Char)
  | [] => []
  | c :: cs =>
      (if c = '.' then [[]] else []) ++ (cuts cs).map (c :: ·)

/-- The names that a name continues behind a dot, the longest first. -/
def dottedPrefixes (name : String) : List String :=
  ((cuts name.toList).map String.ofList).reverse

theorem mem_cuts {p cs : List Char} :
    p ∈ cuts cs ↔ ∃ rest, cs = p ++ '.' :: rest := by
  induction cs generalizing p with
  | nil => simp [cuts]
  | cons c cs ih =>
      unfold cuts
      rw [List.mem_append, List.mem_map]
      constructor
      · rintro (h | ⟨q, hq, rfl⟩)
        · split at h
          next hc =>
            obtain rfl : p = [] := by simpa using h
            exact ⟨cs, by rw [hc]; rfl⟩
          next => cases h
        · obtain ⟨rest, rfl⟩ := ih.1 hq
          exact ⟨rest, rfl⟩
      · rintro ⟨rest, h⟩
        cases p with
        | nil =>
            injection h with hc _
            exact Or.inl (by simp [hc])
        | cons d p =>
            injection h with hc hcs
            exact Or.inr ⟨p, ih.2 ⟨rest, hcs⟩, by rw [hc]⟩

theorem mem_dottedPrefixes {p name : String} :
    p ∈ dottedPrefixes name ↔ ∃ rest, name = p ++ "." ++ rest := by
  unfold dottedPrefixes
  rw [List.mem_reverse, List.mem_map]
  constructor
  · rintro ⟨cs, hcs, rfl⟩
    obtain ⟨rest, h⟩ := mem_cuts.1 hcs
    refine ⟨String.ofList rest, String.toList_injective ?_⟩
    simp [h]
  · rintro ⟨rest, rfl⟩
    exact ⟨p.toList, mem_cuts.2 ⟨rest.toList, by simp⟩, by simp⟩

theorem cuts_append (p rest : List Char) :
    cuts (p ++ '.' :: rest)
      = cuts p ++ p :: (cuts rest).map (fun q => p ++ '.' :: q) := by
  induction p with
  | nil => simp [cuts]
  | cons c p ih =>
      rw [List.cons_append, cuts, ih, cuts]
      simp

theorem cuts_eq_nil {cs : List Char} (h : '.' ∉ cs) : cuts cs = [] := by
  cases hc : cuts cs with
  | nil => rfl
  | cons p ps =>
      obtain ⟨rest, rfl⟩ := mem_cuts.1 (hc ▸ List.mem_cons_self : p ∈ cuts cs)
      simp at h

-- ================================================ dropping the last segment

theorem parentChars_append {p rest : List Char} (h : '.' ∉ rest) :
    parentChars (p ++ '.' :: rest) = p := by
  have hall : ∀ c ∈ rest.reverse, decide (c ≠ '.') = true := by
    intro c hc
    have hne : c ≠ '.' := by
      rintro rfl
      exact h (List.mem_reverse.1 hc)
    simpa using hne
  unfold parentChars
  rw [List.reverse_append, List.reverse_cons, List.append_assoc,
    List.dropWhile_append_of_pos hall]
  simp

theorem parentChars_eq_nil {cs : List Char} (h : '.' ∉ cs) :
    parentChars cs = [] := by
  have hdrop : cs.reverse.dropWhile (· ≠ '.') = [] := by
    rw [List.dropWhile_eq_nil_iff]
    intro c hc
    have hne : c ≠ '.' := by
      rintro rfl
      exact h (List.mem_reverse.1 hc)
    simpa using hne
  unfold parentChars
  rw [hdrop]
  rfl

/-- Dropping the last segment makes a name shorter, but for the empty one. -/
theorem length_parent_lt {name : String} (h : name ≠ "") :
    (parent name).length < name.length := by
  have hchars : name.toList ≠ [] := fun e => h (String.toList_eq_nil_iff.1 e)
  have hparent : (parentChars name.toList).length < name.toList.length := by
    by_cases hnil : parentChars name.toList = []
    · rw [hnil]
      exact List.length_pos_iff.2 hchars
    · exact length_parentChars_lt hnil
  rw [String.length_toList] at hparent
  simpa [parent] using hparent

/-- A text with a dot is cut at its last one. -/
theorem exists_last_dot {cs : List Char} (h : '.' ∈ cs) :
    ∃ p rest, cs = p ++ '.' :: rest ∧ '.' ∉ rest := by
  induction cs with
  | nil => cases h
  | cons c cs ih =>
      by_cases hcs : '.' ∈ cs
      · obtain ⟨p, rest, rfl, hrest⟩ := ih hcs
        exact ⟨c :: p, rest, rfl, hrest⟩
      · rcases List.mem_cons.1 h with rfl | hmem
        · exact ⟨[], cs, rfl, hcs⟩
        · exact absurd hmem hcs

/-- Dropping the last segment over and over gives every beginning that
ends before a dot, except the empty one. -/
theorem outerChars_eq (cs : List Char) :
    outerChars cs = (cuts cs).reverse.filter (· ≠ []) := by
  fun_induction outerChars cs with
  | case1 cs hnil =>
      by_cases hdot : '.' ∈ cs
      · obtain ⟨p, rest, rfl, hrest⟩ := exists_last_dot hdot
        rw [parentChars_append hrest] at hnil
        subst hnil
        rw [cuts_append, cuts_eq_nil hrest]
        simp [cuts]
      · rw [cuts_eq_nil hdot]
        rfl
  | case2 cs hne ih =>
      have hdot : '.' ∈ cs := by
        by_contra hno
        exact hne (parentChars_eq_nil hno)
      obtain ⟨p, rest, rfl, hrest⟩ := exists_last_dot hdot
      rw [parentChars_append hrest] at hne ih ⊢
      rw [ih, cuts_append, cuts_eq_nil hrest]
      simp [hne]

theorem outer_eq_filter_dottedPrefixes (name : String) :
    outer name = (dottedPrefixes name).filter (· ≠ "") := by
  have hne : (fun s : String => decide (s ≠ "")) ∘ String.ofList
      = fun x : List Char => decide (x ≠ []) := by
    funext x
    simp
  unfold outer dottedPrefixes
  rw [outerChars_eq, ← List.map_reverse, List.filter_map, hne]

theorem exists_rest_of_mem_outer {p name : String} (h : p ∈ outer name) :
    ∃ rest, name = p ++ "." ++ rest := by
  rw [outer_eq_filter_dottedPrefixes, List.mem_filter, mem_dottedPrefixes] at h
  exact h.1

-- ==================================================== segments of a name

/-- A segment of a dotted name: some text without a dot. -/
def Segment (s : String) : Prop := s ≠ "" ∧ '.' ∉ s.toList

instance (s : String) : Decidable (Segment s) :=
  inferInstanceAs (Decidable (_ ∧ _))

/-- A segment on one line, as every name in a source text is. -/
def Plain (s : String) : Prop := Segment s ∧ '\n' ∉ s.toList

instance (s : String) : Decidable (Plain s) :=
  inferInstanceAs (Decidable (_ ∧ _))

theorem join_segments_ne_empty {xs : List String} (hxs : ∀ x ∈ xs, Segment x)
    (hne : xs ≠ []) :
    join xs ≠ "" := by
  intro hempty
  obtain ⟨x, hx⟩ := List.exists_mem_of_ne_nil xs hne
  exact (hxs x hx).1 (join_eq_empty.1 hempty x hx)

/-- The text before the first dot is told by the whole text. -/
theorem append_dot_inj {a b s t : List Char} (ha : '.' ∉ a) (hb : '.' ∉ b)
    (h : a ++ '.' :: s = b ++ '.' :: t) : a = b ∧ s = t := by
  induction a generalizing b with
  | nil =>
      cases b with
      | nil => exact ⟨rfl, by simpa using h⟩
      | cons c b =>
          injection h with hc _
          exact absurd hc.symm (by simp_all)
  | cons c a ih =>
      cases b with
      | nil =>
          injection h with hc _
          exact absurd hc (by simp_all)
      | cons d b =>
          injection h with hc htail
          obtain ⟨rfl, hrest⟩ := ih (by simp_all) (by simp_all) htail
          exact ⟨by rw [hc], hrest⟩

/-- A name that starts with a segment and a dot has this segment as its
first part. -/
theorem head_of_join_eq {x y rest : String} {ys : List String} (hx : Segment x)
    (hy : Segment y) (h : join (y :: ys) = x ++ "." ++ rest) :
    y = x ∧ join ys = rest := by
  rw [join_cons] at h
  by_cases hempty : join ys = ""
  · -- the first part alone has no dot
    rw [hempty, join_empty_right] at h
    exact absurd hy.2 (by simp [h])
  · rw [join_pair hy.1 hempty] at h
    have hchars := congrArg String.toList h
    simp only [String.toList_append, List.append_assoc] at hchars
    obtain ⟨hsame, hrest⟩ := append_dot_inj hy.2 hx.2 hchars
    exact ⟨String.toList_injective hsame, String.toList_injective hrest⟩

/-- The first segment of a name and the others. -/
theorem headTail_join {x : String} (hx : Segment x) (xs : List String) :
    headTail (join (x :: xs)) = (x, join xs) := by
  have hdrop : ∀ c ∈ x.toList, decide (c ≠ '.') = true := by
    intro c hc
    have hne : c ≠ '.' := fun hdot => hx.2 (hdot ▸ hc)
    simpa using hne
  rw [join_cons]
  unfold headTail
  by_cases hempty : join xs = ""
  · simp only [hempty, join_empty_right, List.takeWhile_eq_self_iff.2 hdrop,
      List.dropWhile_eq_nil_iff.2 hdrop, List.drop_nil, String.ofList_toList,
      String.ofList_nil]
  · have hchars : (x ++ "." ++ join xs).toList =
        x.toList ++ '.' :: (join xs).toList := by simp
    simp only [join_pair hx.1 hempty, hchars,
      List.takeWhile_append_of_pos hdrop, List.dropWhile_append_of_pos hdrop,
      List.takeWhile_cons, List.dropWhile_cons]
    simp

/-- Dropping the last segment undoes adding one. -/
theorem parent_join_pair {x : String} (hx : Segment x) (name : String) :
    parent (join [name, x]) = name := by
  by_cases hname : name = ""
  · rw [hname, join_empty_left, parent, parentChars_eq_nil hx.2,
      String.ofList_nil]
  · have hchars :
        (name ++ "." ++ x).toList = name.toList ++ '.' :: x.toList := by simp
    rw [join_pair hname hx.1, parent, hchars, parentChars_append hx.2,
      String.ofList_toList]

/-- What stands around a name made of segments is made of the first of
them. -/
theorem prefix_of_join_eq {xs ys : List String} {rest : String}
    (hxs : ∀ x ∈ xs, Segment x) (hys : ∀ y ∈ ys, Segment y) (hne : xs ≠ [])
    (h : join ys = join xs ++ "." ++ rest) :
    xs <+: ys := by
  induction xs generalizing ys with
  | nil => exact absurd rfl hne
  | cons x xs ih =>
      have hx := hxs x List.mem_cons_self
      cases ys with
      | nil =>
          have hdot : '.' ∈ (join []).toList := by
            rw [h]
            simp
          cases hdot
      | cons y ys =>
          have hy := hys y List.mem_cons_self
          cases xs with
          | nil =>
              rw [join_singleton] at h
              obtain ⟨rfl, -⟩ := head_of_join_eq hx hy h
              exact ⟨ys, rfl⟩
          | cons x' xs =>
              have hinner : join (x' :: xs) ≠ "" :=
                join_segments_ne_empty (fun z hz =>
                  hxs z (List.mem_cons_of_mem _ hz)) (by simp)
              have hwhole : join (y :: ys) =
                  x ++ "." ++ (join (x' :: xs) ++ "." ++ rest) := by
                rw [h, join_cons x, join_pair hx.1 hinner]
                simp only [String.append_assoc]
              obtain ⟨rfl, hrest⟩ := head_of_join_eq hx hy hwhole
              refine List.cons_prefix_cons.2 ⟨rfl, ih ?_ ?_ (by simp) hrest⟩
              · exact fun z hz => hxs z (List.mem_cons_of_mem _ hz)
              · exact fun z hz => hys z (List.mem_cons_of_mem _ hz)

/-- The same behind any first part, which may have dots or be empty. -/
theorem prefix_of_mem_outer {first : String} {xs ys : List String}
    (hxs : ∀ x ∈ xs, Segment x) (hys : ∀ y ∈ ys, Segment y)
    (h : join (first :: xs) ∈ outer (join (first :: ys))) :
    xs <+: ys := by
  obtain ⟨rest, hrest⟩ := exists_rest_of_mem_outer h
  rw [join_cons first xs, join_cons first ys] at hrest
  by_cases hnil : xs = []
  · rw [hnil]
    exact List.nil_prefix
  have hinner := join_segments_ne_empty hxs hnil
  suffices hcancel : join ys = join xs ++ "." ++ rest
      from prefix_of_join_eq hxs hys hnil hcancel
  by_cases hfirst : first = ""
  · rwa [hfirst, join_empty_left, join_empty_left] at hrest
  · have hgoes : join ys ≠ "" := by
      intro hempty
      rw [hempty, join_empty_right, join_pair hfirst hinner] at hrest
      have hlength := congrArg String.length hrest
      simp only [String.length_append] at hlength
      have hdot : ".".length = 1 := rfl
      omega
    rw [join_pair hfirst hgoes, join_pair hfirst hinner] at hrest
    simpa [String.append_assoc] using hrest

end Purity.Name
