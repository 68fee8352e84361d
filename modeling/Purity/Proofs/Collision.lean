/-
Collisions and what survives them. A collision holds two records as they
were when one took the place of the other. The one that stays is marked
and charged afterwards, and it may be replaced in turn, in the same file
or by a later one; then there is a further collision of the name. So the
last collision of a name holds the record that a report has under it,
apart from marks and calls.

This is a property of a registry together with its collisions (`Traced`).
A registration keeps it (`Traced.register`), and so does everything that
leaves the text of the records alone (`Traced.of_bare`), which is what
marks and charges do. A further part keeps it as well (`Traced.absorb`):
its own collisions come before those with what is there, so where a name
has both, the last one is about the record that the part leaves.
-/
import Purity.Proofs.FileOrder
import Purity.Proofs.Marker

namespace Purity

/-- Records with the same text have the same name, place, dependencies and
kind. -/
theorem Definition.fields_of_bare_eq {d e : Definition} (h : d.bare = e.bare) :
    d.name = e.name ∧ d.filename = e.filename ∧ d.line = e.line ∧
      d.dependencies = e.dependencies ∧ d.protocol = e.protocol := by
  unfold Definition.bare at h
  injection h with hname hfilename hline hdependencies _ _ _ hprotocol
  exact ⟨hname, hfilename, hline, hdependencies, hprotocol⟩

-- ====================================================== the last collision

/-- The last collision of a name. -/
def lastCollision? (name : String) (collisions : List Collision) :
    Option Collision :=
  (collisions.filter fun x => x.name = name).getLast?

/-- Later collisions come first. -/
theorem lastCollision?_append (name : String) (xs ys : List Collision) :
    lastCollision? name (xs ++ ys) =
      (lastCollision? name ys).or (lastCollision? name xs) := by
  unfold lastCollision?
  rw [List.filter_append, List.getLast?_append]

/-- A name with a collision has a last one. -/
theorem exists_lastCollision? {collisions : List Collision} {y : Collision}
    (hy : y ∈ collisions) :
    ∃ x, lastCollision? y.name collisions = some x := by
  have hmem : y ∈ collisions.filter fun x => x.name = y.name := by simp [hy]
  exact ⟨_, List.getLast?_eq_some_getLast (List.ne_nil_of_mem hmem)⟩

/-- A registration leaves a collision of its own name, if it leaves one. -/
theorem lastCollision?_clash? (name : String) (r : Registry) (d : Definition) :
    lastCollision? name (r.clash? d).toList =
      if name = d.name then r.clash? d else none := by
  unfold lastCollision? Registry.clash?
  cases r.get? d.name with
  | none => simp
  | some previous =>
      by_cases hname : name = d.name
      · simp [hname]
      · have hne : ¬ d.name = name := fun e => hname e.symm
        simp [hname, hne]

/-- What two registries leave in each other under a name is a collision of
their two records. -/
theorem lastCollision?_overwritten (name : String) (r m : Registry) :
    lastCollision? name (r.overwritten m.entries)
      = (m.get? name).bind fun d => (r.get? name).map fun previous =>
          { name, replaced := previous, kept := d } := by
  unfold lastCollision?
  rw [Registry.filter_overwritten]
  cases (m.get? name).bind fun d => (r.get? name).map fun previous =>
    ({ name, replaced := previous, kept := d } : Collision) <;> rfl

-- ========================================================= what is traced

namespace Collected

/-- The collisions of a registry lead to its records. -/
structure Traced (c : Collected) : Prop where
  keyed : c.registry.Keyed
  /-- Both records of a collision have its name. -/
  named : ∀ x ∈ c.collisions, x.replaced.name = x.name ∧ x.kept.name = x.name
  /-- The last collision of a name has the text of the record. -/
  current : ∀ name x, lastCollision? name c.collisions = some x →
    (c.registry.get? name).map Definition.bare = some x.kept.bare

namespace Traced

variable {r r' : Registry} {cs : List Collision}

theorem empty : Traced {} where
  keyed := Context.keyed_empty
  named := by simp
  current := by simp [lastCollision?]

/-- A name that is not registered has had no collision. -/
theorem lastCollision?_eq_none (h : Traced ⟨r, cs⟩) {name : String}
    (hnone : r.get? name = none) :
    lastCollision? name cs = none := by
  cases hlast : lastCollision? name cs with
  | none => rfl
  | some x =>
      have hcurrent := h.current name x hlast
      rw [hnone] at hcurrent
      cases hcurrent

/-- What leaves the texts of the records alone keeps the trace. -/
theorem of_bare (h : Traced ⟨r, cs⟩)
    (hbare : ∀ name, (r'.get? name).map Definition.bare =
      (r.get? name).map Definition.bare) :
    Traced ⟨r', cs⟩ where
  keyed name d hd := by
    have hsame := hbare name
    rw [hd] at hsame
    obtain ⟨e, he, hbare⟩ := Option.map_eq_some_iff.1 hsame.symm
    exact (Definition.fields_of_bare_eq hbare).1.symm.trans (h.keyed name e he)
  named := h.named
  current name x hx := (hbare name).trans (h.current name x hx)

/-- A registration keeps the trace: where a name is taken, the collision
shows the new record, and a new name has had none before. -/
theorem register (h : Traced ⟨r, cs⟩) (d : Definition) :
    Traced ⟨r.insert d.name d, cs ++ (r.clash? d).toList⟩ where
  keyed := h.keyed.insert d
  named x hx := by
    rcases List.mem_append.1 hx with hold | hnew
    · exact h.named x hold
    · obtain ⟨previous, hprevious, rfl⟩ :=
        Option.map_eq_some_iff.1 (Option.mem_toList.1 hnew)
      exact ⟨h.keyed d.name previous hprevious, rfl⟩
  current name x hx := by
    rw [lastCollision?_append, lastCollision?_clash?] at hx
    show Option.map Definition.bare (Map.get? (r.insert d.name d) name) = _
    rw [Map.get?_insert]
    by_cases hname : name = d.name
    · subst hname
      rw [if_pos rfl] at hx ⊢
      unfold Registry.clash? at hx
      cases hget : r.get? d.name with
      | none =>
          rw [hget, h.lastCollision?_eq_none hget] at hx
          cases hx
      | some previous =>
          rw [hget] at hx
          obtain rfl := Option.some.inj hx
          rfl
    · rw [if_neg hname] at hx ⊢
      exact h.current name x hx

/-- A further part keeps the trace. -/
theorem absorb {merged : Collected × List LogRecord} {part : Collected}
    (h : Traced merged.1) (hpart : Traced part) :
    Traced (Collected.absorb merged part).1 where
  keyed name d hd := by
    rw [get?_absorb] at hd
    rcases Option.or_eq_some_iff.1 hd with hnew | ⟨-, hold⟩
    · exact hpart.keyed name d hnew
    · exact h.keyed name d hold
  named x hx := by
    rw [collisions_absorb] at hx
    rcases List.mem_append.1 hx with hold | hx
    · exact h.named x hold
    · rcases List.mem_append.1 hx with hnew | hmet
      · exact hpart.named x hnew
      · obtain ⟨⟨name, d⟩, hentry, hmade⟩ := List.mem_filterMap.1 hmet
        obtain ⟨previous, hprevious, rfl⟩ := Option.map_eq_some_iff.1 hmade
        exact ⟨h.keyed name previous hprevious,
          hpart.keyed name d (Map.mem_entries_iff.1 hentry)⟩
  current name x hx := by
    rw [collisions_absorb, lastCollision?_append, lastCollision?_append,
      lastCollision?_overwritten] at hx
    rw [get?_absorb]
    cases hd : part.registry.get? name with
    | none =>
        rw [hd, hpart.lastCollision?_eq_none hd] at hx
        exact h.current name x hx
    | some d =>
        cases hprevious : merged.1.registry.get? name with
        | none =>
            rw [hd, hprevious, h.lastCollision?_eq_none hprevious] at hx
            have hlast : lastCollision? name part.collisions =
                some x := by simpa using hx
            have hcurrent := hpart.current name x hlast
            rw [hd] at hcurrent
            exact hcurrent
        | some previous =>
            rw [hd, hprevious] at hx
            obtain rfl := Option.some.inj hx
            rfl

/-- The record that the last collision of a name leads to. -/
theorem exists_survivor {c : Collected} (h : c.Traced) {name : String}
    {x : Collision} (hx : lastCollision? name c.collisions = some x) :
    ∃ d, c.registry.get? name = some d ∧ x.kept.bare = d.bare := by
  obtain ⟨d, hd, hbare⟩ := Option.map_eq_some_iff.1 (h.current name x hx)
  exact ⟨d, hd, hbare.symm⟩

end Traced

end Collected

-- ================================================================ a file

namespace Context

variable {c : Context}

/-- Marks leave the texts of records alone. -/
theorem map_bare_enterMark {r : Registry} (hkeyed : r.Keyed)
    (mark : String × Bool) (name : String) :
    ((enterMark r mark).get? name).map Definition.bare =
      (r.get? name).map Definition.bare := by
  rw [get?_enterMark hkeyed]
  split
  · rw [Option.map_map]
    rfl
  · rfl

/-- Dealing with one node keeps the trace. -/
theorem traced_visit {s : Collector}
    (h : Collected.Traced ⟨s.registry, s.collisions⟩) (v : Visit) :
    Collected.Traced ⟨(s.visit c v).registry, (s.visit c v).collisions⟩ := by
  obtain ⟨hregistry, -, -, hcollisions⟩ := Collector.visit_spec c s v
  rw [hregistry, hcollisions]
  unfold enter
  cases hdecl : c.declared? v with
  | some d => exact h.register d
  | none =>
      rw [Option.bind_none, Option.toList_none, List.append_nil]
      cases c.marks? v with
      | some mark => exact h.of_bare (map_bare_enterMark h.keyed mark)
      | none => exact h

theorem traced_foldl_visit {s : Collector}
    (h : Collected.Traced ⟨s.registry, s.collisions⟩) (vs : List Visit) :
    Collected.Traced ⟨(vs.foldl (Collector.visit c) s).registry,
      (vs.foldl (Collector.visit c) s).collisions⟩ := by
  induction vs generalizing s with
  | nil => exact h
  | cons v vs ih => exact ih (traced_visit h v)

/-- What a file contributes to a run is traced. -/
theorem traced_collect (c : Context) : c.collect.1.Traced := by
  have hwalk : Collected.Traced ⟨c.survey.registry, c.survey.collisions⟩ := by
    rw [survey_eq_foldl]
    exact traced_foldl_visit Collected.Traced.empty c.visits
  refine hwalk.of_bare fun name => ?_
  obtain ⟨charged, -, -, hcharged⟩ := c.exists_withCalls_collect name
  show (c.collect.1.registry.get? name).map Definition.bare = _
  rw [hcharged, Option.map_map]
  rfl

end Context

-- ================================================================= a run

theorem Collected.traced_merge {parts : List Collected}
    (h : ∀ part ∈ parts, part.Traced) :
    (merge parts).1.Traced := by
  induction parts using List.reverseRecOn with
  | nil => exact Traced.empty
  | append_singleton parts part ih =>
      rw [merge_concat]
      have hparts : (merge parts).1.Traced :=
        ih fun p hp => h p (List.mem_append_left _ hp)
      exact hparts.absorb (h part (by simp))

theorem traced_runChecks (config : Config) (files : List Source) :
    Collected.Traced
      ⟨(runChecks config files).1.registry,
        (runChecks config files).1.collisions⟩ := by
  rw [runChecks_eq_merge]
  refine Collected.traced_merge fun part hpart => ?_
  obtain ⟨f, -, rfl⟩ := List.mem_map.1 hpart
  exact Context.traced_collect _

/-- The findings of a report about one repeated name are its collisions. -/
theorem filter_duplicates_of_name {config : Config}
    (hreport : config.reportDuplicates = true) (files : List Source)
    (name : String) :
    (runChecks config files).1.diagnostics.filter
        (fun x => x.module = name && x.code = "PMC003")
      = ((runChecks config files).1.collisions.filter
          fun x => x.name = name).map Collision.finding := by
  rw [← List.filter_filter, filter_duplicates, if_pos hreport, List.filter_map]
  rfl

/-- Collisions agree with what survives them. In a report both records of a
collision have its name, and the last collision of a name holds the record
that is registered under it, up to marks and calls, which may have come
later. So where repeated names are reported, the last finding about a name
points at the definition that was checked. -/
theorem last_collision_keeps_survivor (config : Config) (files : List Source) :
    let report := (runChecks config files).1
    (∀ x ∈ report.collisions, x.replaced.name = x.name ∧
      x.kept.name = x.name) ∧
    (∀ y ∈ report.collisions, ∃ x d,
      (report.collisions.filter fun x => x.name = y.name).getLast? = some x ∧
      report.registry.get? y.name = some d ∧
      x.kept.name = d.name ∧ x.kept.filename = d.filename ∧
      x.kept.line = d.line ∧
      x.kept.dependencies = d.dependencies ∧ x.kept.protocol = d.protocol) ∧
    (config.reportDuplicates = true → ∀ y ∈ report.collisions, ∃ x d,
      (report.diagnostics.filter fun x =>
          x.module = y.name && x.code = "PMC003").getLast? = some x ∧
      report.registry.get? y.name = some d ∧ x.filename = d.filename ∧
      x.line = d.line) := by
  intro report
  have htraced := traced_runChecks config files
  refine ⟨htraced.named, ?_, ?_⟩
  · intro y hy
    obtain ⟨x, hx⟩ := exists_lastCollision? hy
    obtain ⟨d, hd, hbare⟩ := htraced.exists_survivor hx
    exact ⟨x, d, hx, hd, Definition.fields_of_bare_eq hbare⟩
  · intro hreport y hy
    obtain ⟨x, hx⟩ := exists_lastCollision? hy
    obtain ⟨d, hd, hbare⟩ := htraced.exists_survivor hx
    obtain ⟨-, hfilename, hline, -⟩ := Definition.fields_of_bare_eq hbare
    refine ⟨x.finding, d, ?_, hd, hfilename, hline⟩
    unfold lastCollision? at hx
    rw [filter_duplicates_of_name hreport, List.getLast?_map, hx]
    rfl

/-- A file that defines a class twice and marks it the second time. -/
def restocked : Source where
  path := ⟨.relative, ["app", "core.py"]⟩
  moduleName := "app.core"
  package := "app"
  tree := Context.remarked.tree

/-- Settings with a short marker that report names that are defined twice. -/
def watchful : Config where
  marker := "pure_module"
  reportDuplicates := true

/-- The collision still has the second class unmarked; its line is that of
the record, and of the finding. -/
theorem restocked_survivor :
    ∃ x d y, lastCollision? "app.core.Store"
      (runChecks watchful [restocked]).1.collisions = some x ∧
      (runChecks watchful [restocked]).1.registry.get? "app.core.Store" =
        some d ∧
      x.kept.marked = false ∧ d.marked = true ∧ x.kept.line = d.line ∧
      ((runChecks watchful [restocked]).1.diagnostics.filter fun x =>
        x.module = "app.core.Store" && x.code = "PMC003").getLast? = some y ∧
      y.line = d.line := by
  obtain ⟨z, hz, hname⟩ : ∃ z ∈ (runChecks watchful [restocked]).1.collisions,
      z.name = "app.core.Store" := by
    have hany : (runChecks watchful [restocked]).1.collisions.any
        (fun z => z.name = "app.core.Store") = true := by
      decide +kernel
    simpa using hany
  have hunmarked : (lastCollision? "app.core.Store"
      (runChecks watchful [restocked]).1.collisions).all (fun x =>
        x.kept.marked = false) = true := by
    decide +kernel
  have hmarked :
      ((runChecks watchful [restocked]).1.registry.get? "app.core.Store").all
      (fun d => d.marked) = true := by
    decide +kernel
  obtain ⟨-, hkept, hfound⟩ :=
    last_collision_keeps_survivor watchful [restocked]
  obtain ⟨x, d, hx, hd, -, -, hline, -⟩ := hkept z hz
  obtain ⟨y, d', hy, hd', -, hfinding⟩ := hfound rfl z hz
  rw [hname] at hx hd hy hd'
  obtain rfl : d = d' := Option.some.inj (hd.symm.trans hd')
  refine ⟨x, d, y, hx, hd, ?_, ?_, hline, hy, hfinding⟩
  · unfold lastCollision? at hunmarked
    rw [hx] at hunmarked
    simpa using hunmarked
  · rw [hd] at hmarked
    simpa using hmarked

end Purity
