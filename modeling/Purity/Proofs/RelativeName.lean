/-
Relative names. Behind the first dot of a relative import each dot climbs
one package up: the import means the same with one dot less in the package
around (`relative_succ`), and so the same with one dot in the package that
the climb ends at (`relative_eq_iterate_parent`).

The dots drop segments from a list, and the package around is cut from the
text at its last dot. Both come to the same (`segments_parent`), but for a
text with nothing before its only dot: one empty segment is left of the
list, and of the text none. Joining leaves out empty segments, so no import
shows the difference (`join_rdrop_segments`). Consumed by the proofs about
lost imports.
-/
import Mathlib.Data.List.DropRight
import Mathlib.Logic.Function.Iterate
import Purity.Proofs.Segments

namespace Purity.Name

-- ========================================================== round trips

theorem splitDots_eq_singleton {cs : List Char} (h : '.' ∉ cs) :
    splitDots cs = [cs] := by
  have hsplit : (['.'].intercalate [cs]).splitOn '.' = [cs] :=
    List.splitOn_intercalate '.' (by simpa using h) (by simp)
  rw [splitDots_eq_splitOn]
  simpa using hsplit

/-- Splitting undoes joining when the parts are segments. -/
theorem segments_join {xs : List String} (hxs : ∀ x ∈ xs, Segment x) :
    segments (join xs) = xs := by
  by_cases hnil : xs = []
  · rw [hnil]
    rfl
  · have hkept :
        (xs.map String.toList).filter (· ≠ []) = xs.map String.toList := by
      refine List.filter_eq_self.2 fun cs hcs => ?_
      obtain ⟨x, hx, rfl⟩ := List.mem_map.1 hcs
      simpa using (hxs x hx).1
    have hdotless : ∀ cs ∈ xs.map String.toList, '.' ∉ cs := by
      intro cs hcs
      obtain ⟨x, hx, rfl⟩ := List.mem_map.1 hcs
      exact (hxs x hx).2
    have hpieces : String.ofList ∘ String.toList = id :=
      funext fun s => String.ofList_toList
    rw [segments_eq (join_segments_ne_empty hxs hnil), join, hkept,
      String.toList_ofList, splitDots_eq_splitOn,
      List.splitOn_intercalate '.' hdotless (by simpa using hnil),
      List.map_map, hpieces, List.map_id]

/-- Dropping the last segment undoes adding one, whatever stands before. -/
theorem parent_join_concat (xs : List String) {x : String} (hx : Segment x) :
    parent (join (xs ++ [x])) = join xs := by
  rw [join_concat, parent_join_pair hx]

-- ==================================================== segments of a parent

/-- Cutting a name at its last dot drops its last segment. The exception is
a name with nothing before its only dot. -/
theorem segments_parent (name : String) :
    segments (parent name) = (segments name).dropLast ∨
      parent name = "" ∧ (segments name).dropLast = [""] := by
  by_cases hempty : name = ""
  · exact .inl (by rw [hempty]; rfl)
  rw [segments_eq hempty, parent]
  by_cases hdot : '.' ∈ name.toList
  · obtain ⟨first, rest, hname, hrest⟩ := exists_last_dot hdot
    rw [hname, parentChars_append hrest, splitDots_append,
      splitDots_eq_singleton hrest, List.map_append, List.map_singleton,
      List.dropLast_concat]
    by_cases hfirst : first = []
    · exact .inr (by rw [hfirst]; exact ⟨rfl, rfl⟩)
    · refine .inl ?_
      rw [segments_eq (by simpa using hfirst), String.toList_ofList]
  · rw [parentChars_eq_nil hdot, splitDots_eq_singleton hdot]
    exact .inl rfl

theorem rdrop_succ (xs : List String) (n : Nat) :
    xs.rdrop (n + 1) = xs.dropLast.rdrop n := by
  cases xs using List.reverseRecOn with
  | nil => rw [List.dropLast_nil, List.rdrop_nil, List.rdrop_nil]
  | append_singleton xs x => rw [List.rdrop_concat_succ, List.dropLast_concat]

/-- Once the rest is joined, dropping one segment more of a name is dropping
one less of its parent. -/
theorem join_rdrop_segments (name : String) (n : Nat) (ys : List String) :
    join ((segments name).rdrop (n + 1) ++ ys) =
      join ((segments (parent name)).rdrop n ++ ys) := by
  rw [rdrop_succ]
  rcases segments_parent name with hsame | ⟨hparent, hlone⟩
  · rw [hsame]
  · -- at most the empty segment is left of the name, and nothing of its parent
    have hleft : ∀ x ∈ [""].rdrop n, x = "" := fun x hx =>
      List.mem_singleton.1 (List.mem_of_mem_take hx)
    rw [hparent, hlone, segments_empty, List.rdrop_nil, List.nil_append,
      join_append, join_eq_empty.2 hleft, join_empty_left]

-- ============================================================= climbing

/-- The dots behind the first drop the last segments of the package. -/
theorem relative_eq_rdrop (m : Option String) (n : Nat) (p : String) :
    relative m (n + 1) p = join ((segments p).rdrop n ++ m.toList) := by
  have hdots : ¬ (n : Int) + 1 = 0 := by omega
  have hleft : (((segments p).length : Int) - ((n : Int) + 1 - 1)).toNat
      = (segments p).length - n := by omega
  have hmodule : join [m.getD ""] = join m.toList := by
    cases m <;> rfl
  unfold relative
  rw [if_neg hdots]
  simp only [hleft]
  rw [join_append, hmodule, ← join_append]
  rfl

/-- One dot more is one dot in the package around. -/
theorem relative_succ (m : Option String) (n : Nat) (p : String) :
    relative m (n + 1 + 1) p = relative m (n + 1) (parent p) := by
  have hlevel : (n : Int) + 1 + 1 = ((n + 1 : Nat) : Int) + 1 := by omega
  rw [hlevel, relative_eq_rdrop, relative_eq_rdrop, join_rdrop_segments]

/-- All the dots together name the package that the climb ends at. -/
theorem relative_eq_iterate_parent (m : Option String) (n : Nat) (p : String) :
    relative m (n + 1) p = join (segments (parent^[n] p) ++ m.toList) := by
  induction n generalizing p with
  | zero =>
      rw [relative_eq_rdrop, List.rdrop_zero, Function.iterate_zero_apply]
  | succ n ih =>
      rw [Int.natCast_succ, relative_succ, ih, Function.iterate_succ_apply]

/-- Relative imports climb one package with each dot. In any package one
dot more is one dot in the package around, so `k` dots lead to the package
that cutting `k - 1` times leaves, and the module text stands behind it. Of
a package made of segments the dots leave the first ones, and none when
they lead out of all packages. Such a package splits into the segments it
is made of, and cutting undoes putting one more segment behind it. -/
theorem relative_climbs (m : Option String) :
    (∀ (p : String) (k : Int), 1 ≤ k →
      relative m (k + 1) p = relative m k (parent p) ∧
      relative m k p =
        join (segments (parent^[(k - 1).toNat] p) ++ m.toList)) ∧
    ∀ xs : List String, (∀ x ∈ xs, Segment x) →
      (∀ k : Int, 1 ≤ k →
        relative m k (join xs)
          = join (xs.take (max (xs.length - (k - 1)) 0).toNat ++ m.toList)) ∧
      segments (join xs) = xs ∧
      ∀ x, Segment x → parent (join (xs ++ [x])) = join xs := by
  have hlevel : ∀ k : Int, 1 ≤ k → ∃ n : Nat, k = n + 1 := fun k hk =>
    ⟨(k - 1).toNat, by omega⟩
  constructor
  · intro p k hk
    obtain ⟨n, rfl⟩ := hlevel k hk
    have hclimb : ((n : Int) + 1 - 1).toNat = n := by omega
    rw [hclimb]
    exact ⟨relative_succ m n p, relative_eq_iterate_parent m n p⟩
  · intro xs hxs
    refine ⟨?_, segments_join hxs, fun x hx => parent_join_concat xs hx⟩
    intro k hk
    obtain ⟨n, rfl⟩ := hlevel k hk
    have hleft : (max ((xs.length : Int) - ((n : Int) + 1 - 1)) 0).toNat =
        xs.length - n := by
      omega
    rw [relative_eq_rdrop, segments_join hxs, hleft]
    rfl

/-- In a package with empty segments three dots leave what two leave of the
text before its last dot. Two dots in `app.sub` lead to `app`, and five lead
out of all packages. -/
theorem relative_climbs_app_sub :
    (1 : Int) ≤ 2 ∧ (∀ x ∈ ["app", "sub"], Segment x) ∧ Segment "leaf" ∧
    relative (some "core") (2 + 1) ".app..sub" =
      relative (some "core") 2 ".app." ∧
    relative (some "core") 2 ".app." = "app.core" ∧
    relative (some "core") 2 (join ["app", "sub"]) = "app.core" ∧
    relative (some "core") 5 (join ["app", "sub"]) = "core" ∧
    segments (join ["app", "sub"]) = ["app", "sub"] ∧
    parent (join (["app", "sub"] ++ ["leaf"])) = join ["app", "sub"] := by
  have hsegments : ∀ x ∈ ["app", "sub"], Segment x := by decide
  have hleaf : Segment "leaf" := by decide
  obtain ⟨hany, hmade⟩ := relative_climbs (some "core")
  obtain ⟨hdots, hsplit, hparent⟩ := hmade ["app", "sub"] hsegments
  refine ⟨by decide, hsegments, hleaf, (hany ".app..sub" 2 (by decide)).1, ?_,
    ?_, ?_, hsplit, hparent "leaf" hleaf⟩
  · rw [(hany ".app." 2 (by decide)).2]
    decide
  · rw [hdots 2 (by decide)]
    decide
  · rw [hdots 5 (by decide)]
    decide

end Purity.Name
