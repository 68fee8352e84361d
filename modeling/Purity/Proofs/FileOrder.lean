/-
The order of the files. Where no two files register one name, it does not
matter in which order a run goes through them: the records are the same by
name, and the collisions, which then all come from within files, are the
same up to their order (`Agree`).

A further part keeps two merges in agreement (`agree_absorb`), and two
parts that are apart can be taken in either order (`agree_absorb_swap`).
Every permutation is made of such swaps (`agree_merge`). What else a run
depends on is the set of names that the files define, which has no order
to begin with (`definedNames_of_perm`).
-/
import Purity.Proofs.Merge
import Purity.Proofs.Verdict

namespace Purity

-- ============================================================ agreement

namespace Collected

/-- Two merges agree: they have the same records by name, and the same
collisions in some order. -/
structure Agree (a b : Collected) : Prop where
  get?_eq : ∀ name, a.registry.get? name = b.registry.get? name
  perm : a.collisions.Perm b.collisions

theorem Agree.refl (a : Collected) : Agree a a :=
  ⟨fun _ => rfl, List.Perm.refl _⟩

theorem Agree.trans {a b c : Collected} (hab : Agree a b) (hbc : Agree b c) :
    Agree a c :=
  ⟨fun name => (hab.get?_eq name).trans (hbc.get?_eq name),
    hab.perm.trans hbc.perm⟩

/-- Two parts have no name in common. -/
def Apart (p q : Collected) : Prop :=
  ∀ name ∈ p.registry.keys, name ∉ q.registry.keys

theorem Apart.symm {p q : Collected} (h : Apart p q) : Apart q p :=
  fun name hq hp => h name hp hq

theorem Apart.get?_eq_none {p q : Collected} (h : Apart p q) {name : String}
    (hname : name ∈ p.registry.keys) : q.registry.get? name = none := by
  have hout := h name hname
  rwa [Map.mem_keys_iff, Option.not_isSome_iff_eq_none] at hout

variable {a b : Collected × List LogRecord}

theorem agree_absorb (h : Agree a.1 b.1) (part : Collected) :
    Agree (absorb a part).1 (absorb b part).1 where
  get?_eq name := by
    rw [get?_absorb, get?_absorb, h.get?_eq]
  perm := by
    have hsame : a.1.registry.overwritten part.registry.entries
        = b.1.registry.overwritten part.registry.entries := by
      unfold Registry.overwritten
      simp only [h.get?_eq]
    rw [collisions_absorb, collisions_absorb, hsame]
    exact h.perm.append_right _

/-- A part meets the same records whether or not one that is apart from it
came before. -/
theorem overwritten_absorb {p q : Collected} (hapart : Apart p q) :
    (absorb a p).1.registry.overwritten q.registry.entries
      = a.1.registry.overwritten q.registry.entries := by
  unfold Registry.overwritten
  refine List.filterMap_congr ?_
  intro entry hentry
  have hkey : entry.1 ∈ q.registry.keys := List.mem_map_of_mem hentry
  rw [get?_absorb, hapart.symm.get?_eq_none hkey, Option.none_or]

/-- Parts that are apart can be taken in either order. -/
theorem agree_absorb_swap {p q : Collected} (hapart : Apart p q) :
    Agree (absorb (absorb a p) q).1 (absorb (absorb a q) p).1 where
  get?_eq name := by
    rw [get?_absorb, get?_absorb, get?_absorb, get?_absorb]
    by_cases hname : name ∈ p.registry.keys
    · rw [hapart.get?_eq_none hname, Option.none_or, Option.none_or]
    · rw [Map.mem_keys_iff, Option.not_isSome_iff_eq_none] at hname
      rw [hname, Option.none_or, Option.none_or]
  perm := by
    rw [collisions_absorb, collisions_absorb, collisions_absorb,
      collisions_absorb, overwritten_absorb hapart,
      overwritten_absorb hapart.symm,
      List.append_assoc a.1.collisions, List.append_assoc a.1.collisions]
    exact List.Perm.append_left _ List.perm_append_comm

/-- Going on with the same parts keeps an agreement. -/
theorem agree_foldl_of_agree (parts : List Collected) (h : Agree a.1 b.1) :
    Agree (parts.foldl absorb a).1 (parts.foldl absorb b).1 := by
  induction parts generalizing a b with
  | nil => exact h
  | cons part parts ih => exact ih (agree_absorb h part)

theorem agree_foldl_absorb {parts parts' : List Collected}
    (hperm : parts.Perm parts')
    (hapart : ∀ p ∈ parts, ∀ q ∈ parts, p ≠ q → Apart p q)
    (a : Collected × List LogRecord) :
    Agree (parts.foldl absorb a).1 (parts'.foldl absorb a).1 := by
  induction hperm generalizing a with
  | nil => exact .refl _
  | cons part _ ih =>
      have hrest := fun p hp q hq =>
        hapart p (List.mem_cons_of_mem part hp) q
          (List.mem_cons_of_mem part hq)
      exact ih hrest (absorb a part)
  | swap p q parts =>
      refine agree_foldl_of_agree parts ?_
      by_cases hsame : q = p
      · rw [hsame]
        exact .refl _
      · have hq : q ∈ q :: p :: parts := List.mem_cons_self
        have hp : p ∈ q :: p :: parts :=
          List.mem_cons_of_mem q List.mem_cons_self
        exact agree_absorb_swap (hapart q hq p hp hsame)
  | trans hfirst _ ihfirst ihsecond =>
      have hmiddle :=
        fun p hp q hq => hapart p (hfirst.mem_iff.2 hp) q (hfirst.mem_iff.2 hq)
      exact (ihfirst hapart a).trans (ihsecond hmiddle a)

/-- Parts without a common name give the same merge in every order, but for
the order of the collisions. -/
theorem agree_merge {parts parts' : List Collected} (hperm : parts.Perm parts')
    (hapart : ∀ p ∈ parts, ∀ q ∈ parts, p ≠ q → Apart p q) :
    Agree (merge parts).1 (merge parts').1 :=
  agree_foldl_absorb hperm hapart ({}, [])

end Collected

-- ================================================================ files

section Files

variable {config : Config} {files files' : List Source}

/-- No name is registered by two different files. -/
def FilesApart (config : Config) (project : NameSet) (files : List Source) :
    Prop :=
  ∀ f ∈ files, ∀ g ∈ files, f ≠ g →
    ∀ name ∈ (f.records config project).keys,
    name ∉ (g.records config project).keys

/-- What the files of a run define has no order. -/
theorem definedNames_of_perm (hperm : files.Perm files') :
    definedNames files = definedNames files' := by
  refine SortedSet.ext fun name => ?_
  unfold definedNames
  simp only [SortedSet.mem_ofList, List.mem_flatMap, hperm.mem_iff]

theorem agree_runChecks (hperm : files.Perm files')
    (hapart : FilesApart config (definedNames files) files) :
    Collected.Agree
      ⟨(runChecks config files).1.registry,
        (runChecks config files).1.collisions⟩
      ⟨(runChecks config files').1.registry,
        (runChecks config files').1.collisions⟩ := by
  rw [runChecks_eq_merge, runChecks_eq_merge, ← definedNames_of_perm hperm]
  refine Collected.agree_merge (hperm.map _) ?_
  intro p hp q hq hne
  obtain ⟨f, hf, rfl⟩ := List.mem_map.1 hp
  obtain ⟨g, hg, rfl⟩ := List.mem_map.1 hq
  have hdiffer : f ≠ g := by
    rintro rfl
    exact hne rfl
  exact hapart f hf g hg hdiffer

theorem obstacle?_eq_none_iff :
    obstacle? config files = none ↔
      ∀ f ∈ files, (f.context config (definedNames files)).obstacle? =
        none := by
  unfold obstacle?
  rw [List.findSome?_eq_none_iff]

/-- The order of the files does not matter without duplicates. Two runs over
the same files in different orders, where no name is registered by two
different files, either both give a report or both give none. The reports
have the same records by name, the same number of files, the same findings
about dependencies and calls in the same order, and the same collisions in
some order, and so the same findings about them. -/
theorem report_of_permuted_files (hperm : files.Perm files')
    (hapart : FilesApart config (definedNames files) files) :
    let report := (runChecks config files).1
    let report' := (runChecks config files').1
    (obstacle? config files = none ↔ obstacle? config files' = none) ∧
    (∀ name, report.registry.get? name = report'.registry.get? name) ∧
    report.fileCount = report'.fileCount ∧
    report.diagnostics.filter (fun x => x.code = "PMC001" ∨ x.code = "PMC002")
      = report'.diagnostics.filter (fun x => x.code = "PMC001" ∨
        x.code = "PMC002") ∧
    report.collisions.Perm report'.collisions ∧
    (report.diagnostics.filter fun x => x.code = "PMC003").Perm
      (report'.diagnostics.filter fun x => x.code = "PMC003") := by
  intro report report'
  obtain ⟨hget, hcollisions⟩ := agree_runChecks hperm hapart
  refine ⟨?_, hget, hperm.length_eq, ?_, hcollisions, ?_⟩
  · rw [obstacle?_eq_none_iff, obstacle?_eq_none_iff,
      definedNames_of_perm hperm]
    simp only [hperm.mem_iff]
  · rw [filter_violations, filter_violations]
    exact Registry.verdict_congr hget fun _ => Iff.rfl
  · rw [filter_duplicates, filter_duplicates]
    split
    · exact hcollisions.map Collision.finding
    · exact .refl _

end Files

/-- Settings that report names that are defined twice. -/
def thorough : Config where
  reportDuplicates := true

/-- A marked file that reads the clock in a method. -/
def clockFile : Source where
  path := ⟨.relative, ["app", "clock.py"]⟩
  moduleName := "app.clock"
  package := "app"
  tree := ⟨[markerStmt 1, Context.clockClass "Watch" [] 2]⟩

/-- In either order, the collision within one file and the finding about the
other one are the same. -/
theorem boxes_in_either_order :
    FilesApart thorough (definedNames [boxes, clockFile]) [boxes, clockFile] ∧
    (runChecks thorough [boxes, clockFile]).1.collisions.length = 1 ∧
    (runChecks thorough [boxes, clockFile]).1.collisions.Perm
      (runChecks thorough [clockFile, boxes]).1.collisions ∧
    ∃ x ∈ (runChecks thorough [clockFile, boxes]).1.diagnostics.filter
      (fun x => x.code = "PMC001" ∨ x.code = "PMC002"),
      x.module = "app.clock" ∧ x.code = "PMC002" := by
  have hnames :
      ∀ name ∈ (boxes.records thorough (definedNames [boxes, clockFile])).keys,
      name ∉ (clockFile.records thorough
        (definedNames [boxes, clockFile])).keys := by
    decide +kernel
  have hapart : FilesApart thorough (definedNames [boxes, clockFile]) [boxes,
      clockFile] := by
    intro f hf g hg hne name hname hother
    simp only [List.mem_cons, List.not_mem_nil, or_false] at hf hg
    rcases hf with rfl | rfl <;> rcases hg with rfl | rfl
    · exact hne rfl
    · exact hnames name hname hother
    · exact hnames name hother hname
    · exact hne rfl
  have hcharged :
      ((runChecks thorough [boxes, clockFile]).1.registry.get? "app.clock").any
      (fun d => d.marked && !d.forced && !d.calls.isEmpty) = true := by
    decide +kernel
  obtain ⟨-, -, -, hviolations, hcollisions, -⟩ :=
    report_of_permuted_files (List.Perm.swap clockFile boxes []) hapart
  refine ⟨hapart, by decide +kernel, hcollisions, ?_⟩
  rw [← hviolations, filter_violations]
  obtain ⟨d, hd, hflags⟩ := (Option.any_eq_true _ _).1 hcharged
  simp only [Bool.and_eq_true, Bool.not_eq_true',
    List.isEmpty_eq_false_iff] at hflags
  refine (Registry.exists_finding_iff (keyed_runChecks _ _)).2
    ⟨d, hd, hflags.1.1, hflags.1.2, Definition.exists_call_finding.2 hflags.2⟩

end Purity
