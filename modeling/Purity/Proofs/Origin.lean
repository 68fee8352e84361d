/-
Where the record of a name comes from. A walk over a file may register a
name more than once, and so may the files of a run, and the last one
stays. What stays is known by its text: `site?` is the last visit of a
walk that registers a name, and `origin?` the last file of a run that
does, with the visit in it.

Marks and charged calls come later and touch nothing else (`bare`), so a
record in a report is the one that its origin registers, apart from these
(`exists_origin`), and its dependencies are what the text there refers to,
apart from the marker (`mem_dependencies_of_declared?`). Consumed by the
proofs about findings.
-/
import Mathlib.Data.List.Induction
import Purity.Proofs.Charge
import Purity.Proofs.Reference
import Purity.Report

namespace Purity

/-- The record as its text gives it, without marks and calls. -/
def Definition.bare (d : Definition) : Definition :=
  { d with marked := false, forced := false, calls := [] }

-- ============================================================ in a file

namespace Context

variable {c : Context} {name : String} {d : Definition}

/-- Does a visit register a name? -/
def declares (c : Context) (name : String) (v : Visit) : Bool :=
  (c.declared? v).any (·.name = name)

/-- The visit that gives the record of a name: the last one that registers
it. -/
def site? (c : Context) (name : String) : Option Visit :=
  c.visits.reverse.find? (c.declares name)

/-- The aliases that the text of a visit is read with: its own, and those
that the definitions around it show. -/
def aliasesAt (c : Context) (v : Visit) : List Alias :=
  v.node.aliases c.package ++ (c.stackAt v).flatten

/-- What the text of a visit refers to. -/
def RefersAt (c : Context) (v : Visit) (x : RawText) : Prop :=
  v.node.RefersTo c (c.aliasesAt v) x

theorem map_bare_foldl_enter (c : Context) (name : String) (vs : List Visit) :
    ((vs.foldl c.enter {}).get? name).map Definition.bare
      = ((vs.reverse.find? (c.declares name)).bind c.declared?).map
        Definition.bare := by
  induction vs using List.reverseRecOn with
  | nil => rfl
  | append_singleton vs v ih =>
      have hkeyed : Registry.Keyed (vs.foldl c.enter {}) :=
        keyed_foldl_enter keyed_empty vs
      rw [List.foldl_append, List.foldl_cons, List.foldl_nil,
        List.reverse_concat, List.find?_cons, get?_enter hkeyed]
      have hdeclares :
          c.declares name v = (c.declared? v).any (·.name = name) := rfl
      rw [hdeclares]
      cases hdecl : c.declared? v with
      | some d =>
          by_cases hname : name = d.name
          · simp [hname, hdecl]
          · have hne : ¬ d.name = name := fun e => hname e.symm
            simpa [hname, hne] using ih
      | none =>
          simp only [Option.any_none]
          cases hmarks : c.marks? v with
          | none => exact ih
          | some mark =>
              simp only
              split
              · rw [Option.map_map]
                exact ih
              · exact ih

/-- A record at the end is that of the walk, with calls charged to it. -/
theorem exists_withCalls_collect (c : Context) (name : String) :
    ∃ charged : List PendingCall, charged.Sublist c.impureCalls ∧
      (∀ call ∈ charged, name ∈ Name.outer call.scope) ∧
      c.collect.1.registry.get? name
        = (c.survey.registry.get? name).map (·.withCalls charged) := by
  rw [registry_collect]
  exact Collector.exists_withCalls_foldl_charge c.impureCalls
    (c.survey.registry, c.survey.log) name

/-- The record of a name is the one that its site registers, but for marks
and calls. -/
theorem map_bare_get?_collect (c : Context) (name : String) :
    (c.collect.1.registry.get? name).map Definition.bare
      = ((c.site? name).bind c.declared?).map Definition.bare := by
  obtain ⟨charged, -, -, hcharged⟩ := c.exists_withCalls_collect name
  unfold site?
  rw [← map_bare_foldl_enter, ← registry_survey, hcharged, Option.map_map]
  rfl

theorem exists_declared?_of_site? {v : Visit} (hv : c.site? name = some v) :
    ∃ e, c.declared? v = some e ∧ e.name = name := by
  have hdeclares : c.declares name v = true := List.find?_some hv
  unfold declares at hdeclares
  obtain ⟨e, he, hname⟩ := (Option.any_eq_true _ _).1 hdeclares
  exact ⟨e, he, by simpa using hname⟩

/-- A name is registered exactly when it has a site. -/
theorem site?_eq_none_iff :
    c.site? name = none ↔ c.collect.1.registry.get? name = none := by
  have hbare := map_bare_get?_collect c name
  cases hsite : c.site? name with
  | none =>
      rw [hsite] at hbare
      exact ⟨fun _ => Option.map_eq_none_iff.1 hbare, fun _ => rfl⟩
  | some v =>
      obtain ⟨e, he, -⟩ := exists_declared?_of_site? hsite
      rw [hsite, Option.bind_some, he] at hbare
      constructor
      · intro hnone
        cases hnone
      · intro hnone
        rw [hnone] at hbare
        cases hbare

theorem exists_site (hd : c.collect.1.registry.get? name = some d) :
    ∃ v e, c.site? name = some v ∧ c.declared? v = some e ∧
    e.bare = d.bare := by
  have hbare := map_bare_get?_collect c name
  rw [hd] at hbare
  obtain ⟨e, he, hsame⟩ := Option.map_eq_some_iff.1 hbare.symm
  obtain ⟨v, hv, hdecl⟩ := Option.bind_eq_some_iff.1 he
  exact ⟨v, e, hv, hdecl, hsame⟩

theorem exists_get?_survey (hd : c.collect.1.registry.get? name = some d) :
    ∃ (e : Definition) (charged : List PendingCall),
      c.survey.registry.get? name = some e ∧ d = e.withCalls charged ∧
      charged.Sublist c.impureCalls ∧
      ∀ call ∈ charged, name ∈ Name.outer call.scope := by
  obtain ⟨charged, hsub, houter, hcharged⟩ := c.exists_withCalls_collect name
  rw [hd] at hcharged
  obtain ⟨e, he, hsame⟩ := Option.map_eq_some_iff.1 hcharged.symm
  exact ⟨e, charged, he, hsame.symm, hsub, houter⟩

theorem get?_empty_collect (hname : c.moduleName ≠ "") :
    c.collect.1.registry.get? "" = none := by
  cases hget : c.collect.1.registry.get? "" with
  | none => rfl
  | some d =>
      obtain ⟨e, -, he, -⟩ := exists_get?_survey hget
      rw [get?_empty_survey hname] at he
      cases he

theorem keyed_collect (c : Context) : Registry.Keyed c.collect.1.registry := by
  intro name d hd
  obtain ⟨e, charged, he, rfl, -⟩ := exists_get?_survey hd
  exact keyed_survey c name e he

/-- What is no protocol depends on what its text refers to, but for the
marker and the module that the marker is in. -/
theorem mem_dependencies_of_declared? {v : Visit} {e : Definition}
    {x : RawText} (he : c.declared? v = some e) (hbare : e.bare = d.bare)
    (hprotocol : d.protocol = false) :
    x ∈ d.dependencies ↔
      (x ≠ "" ∧ x ≠ c.dottedMarker ∧ x ≠ c.markerHome) ∧ c.RefersAt v x := by
  have hkind : e.bare.protocol = d.bare.protocol := by rw [hbare]
  have hsame : d.bare.dependencies = e.bare.dependencies := by rw [hbare]
  obtain ⟨name, line, rfl | rfl⟩ := exists_eq_of_declared? he
  · cases hkind.trans hprotocol
  · show x ∈ d.bare.dependencies ↔ _
    rw [hsame]
    show x ∈ SortedSet.filter _ (v.node.dependencies c (c.stackAt v).flatten) ↔
        _
    rw [SortedSet.mem_filter, Node.mem_dependencies, Bool.and_eq_true,
      decide_eq_true_eq, decide_eq_true_eq, and_right_comm]
    rfl

/-- The only visit of a file is the first one. -/
theorem eq_of_visit_of_module {v : Visit} {body : List Stmt}
    (hv : v ∈ c.visits) (hnode : v.node = .module body) :
    v = ⟨c.tree.node, []⟩ := by
  unfold visits at hv
  rw [Node.visits_eq] at hv
  rcases List.mem_cons.1 hv with hfirst | hlater
  · exact hfirst
  · obtain ⟨child, hchild, hv⟩ := List.mem_flatMap.1 hlater
    have hwithin : v.node.Within child := Node.exists_mem_visits.1 ⟨v, hv, rfl⟩
    rw [hnode] at hwithin
    rw [Node.eq_of_module_within hwithin] at hchild
    exact absurd hchild Node.module_not_mem_children

/-- The record of a file comes from the file itself: no class takes its
name. -/
theorem site?_moduleName (hnamed : c.tree.WellNamed)
    (hinside : c.tree.ClassesInside) :
    c.site? c.moduleName = some ⟨c.tree.node, []⟩ := by
  have honly : ∀ v ∈ c.visits, c.declares c.moduleName v = true →
      v = ⟨c.tree.node, []⟩ := by
    intro v hv hdeclares
    unfold declares at hdeclares
    obtain ⟨d, hd, hname⟩ := (Option.any_eq_true _ _).1 hdeclares
    rcases declared?_cases hd with
      ⟨⟨body, hnode⟩, -⟩ | ⟨span, name, bases, keywords, body, decorators,
        scope, hnode, hscope, rfl⟩
    · exact eq_of_visit_of_module hv hnode
    · have hwithin := c.within_of_mem_visits hv
      rw [hnode] at hwithin
      have hne : scope ≠ c.moduleName :=
        hinside.scope_ne hnamed hwithin rfl (bodyAt?_eq_some.1 hscope)
      rw [decide_eq_true_eq] at hname
      split at hname <;> exact absurd hname hne
  unfold site?
  cases hfind : c.visits.reverse.find? (c.declares c.moduleName) with
  | some v =>
      have hv := List.mem_reverse.1 (List.mem_of_find?_eq_some hfind)
      rw [honly v hv (List.find?_some hfind)]
  | none =>
      obtain ⟨vs, hvs⟩ := c.visits_eq_cons
      have hmem : (⟨c.tree.node, []⟩ : Visit) ∈ c.visits.reverse := by
        rw [List.mem_reverse, hvs]
        exact List.mem_cons_self
      refine absurd ?_ (List.find?_eq_none.1 hfind _ hmem)
      unfold declares
      rw [declared?_file]
      simp [recordOf, Collector.definitionOf]

end Context

-- ============================================================ in a run

namespace Collected

theorem registry_add (merged : Collected × List LogRecord)
    (entry : String × Definition) :
    (add merged entry).1.registry =
      merged.1.registry.insert entry.1 entry.2 := by
  unfold add
  simp only
  split <;> rfl

theorem get?_foldl_add (entries : List (String × Definition))
    (hdistinct : (entries.map Prod.fst).Nodup)
    (merged : Collected × List LogRecord) (name : String) :
    (entries.foldl add merged).1.registry.get? name
      = (entries.lookup name).or (merged.1.registry.get? name) := by
  induction entries generalizing merged with
  | nil => rfl
  | cons entry entries ih =>
      obtain ⟨key, d⟩ := entry
      rw [List.map_cons, List.nodup_cons] at hdistinct
      rw [List.foldl_cons, ih hdistinct.2, registry_add, Map.get?_insert]
      by_cases hname : name = key
      · -- the name does not come again, so this entry is what stays
        have hlater : entries.lookup name = none := by
          rw [List.lookup_eq_none_iff]
          rintro ⟨k, e⟩ hmem
          have hk : k ∈ entries.map Prod.fst := List.mem_map_of_mem hmem
          simp only [bne_iff_ne]
          rintro rfl
          exact hdistinct.1 (hname ▸ hk)
        rw [if_pos hname, hlater, hname, List.lookup_cons_self]
        rfl
      · have hother : (name == key) = false := by simpa using hname
        rw [if_neg hname, List.lookup_cons, hother]

/-- The records of a further file come before those that are there. -/
theorem get?_absorb (merged : Collected × List LogRecord) (part : Collected)
    (name : String) :
    (absorb merged part).1.registry.get? name
      = (part.registry.get? name).or (merged.1.registry.get? name) :=
  get?_foldl_add _ part.registry.distinct _ _

end Collected

/-- The records of a file, on their own. -/
def Source.records (f : Source) (config : Config) (project : NameSet) :
    Registry :=
  (f.context config project).collect.1.registry

theorem get?_foldl_collectInto (config : Config) (project : NameSet)
    (files : List Source) (name : String) :
    (files.foldl (collectInto config project) ({}, [])).1.registry.get? name
      = files.reverse.findSome? fun f =>
        (f.records config project).get? name := by
  induction files using List.reverseRecOn with
  | nil => rfl
  | append_singleton files f ih =>
      rw [List.foldl_append, List.foldl_cons, List.foldl_nil,
        List.reverse_concat, List.findSome?_cons, ← ih]
      unfold collectInto
      rw [Collected.get?_absorb]
      show ((f.records config project).get? name).or _ = _
      cases (f.records config project).get? name <;> rfl

/-- A report has the record of the last file that registers the name. -/
theorem get?_runChecks (config : Config) (files : List Source)
    (name : String) :
    (runChecks config files).1.registry.get? name
      = files.reverse.findSome? fun f =>
        (f.records config (definedNames files)).get? name :=
  get?_foldl_collectInto config (definedNames files) files name

theorem keyed_runChecks (config : Config) (files : List Source) :
    Registry.Keyed (runChecks config files).1.registry := by
  intro name d hd
  rw [get?_runChecks] at hd
  obtain ⟨f, -, hd⟩ := List.exists_of_findSome?_eq_some hd
  exact Context.keyed_collect _ name d hd

/-- The text that gives the record of a name in a report: the last file that
registers the name, and the last visit in it that does. -/
def origin? (config : Config) (files : List Source) (name : String) :
    Option (Source × Visit) :=
  files.reverse.findSome? fun f =>
    ((f.context config (definedNames files)).site? name).map fun v => (f, v)

section Origin

variable {config : Config} {files : List Source} {name : String}
    {d : Definition}

/-- Every record of a report has an origin: it is the record that the file
there leaves, and the one that the visit there registers, but for marks
and calls. -/
theorem exists_origin
    (hd : (runChecks config files).1.registry.get? name = some d) :
    ∃ f v e, origin? config files name = some (f, v) ∧
      (f.context config (definedNames files)).declared? v = some e ∧
      e.bare = d.bare ∧
      (f.records config (definedNames files)).get? name = some d := by
  rw [get?_runChecks] at hd
  unfold origin?
  generalize files.reverse = later at hd ⊢
  induction later with
  | nil => cases hd
  | cons f later ih =>
      rw [List.findSome?_cons] at hd ⊢
      cases hget : (f.records config (definedNames files)).get? name with
      | none =>
          rw [hget] at hd
          rw [Context.site?_eq_none_iff.2 hget]
          exact ih hd
      | some d' =>
          rw [hget] at hd
          obtain rfl : d' = d := Option.some.inj hd
          obtain ⟨v, e, hsite, he, hbare⟩ := Context.exists_site hget
          rw [hsite]
          exact ⟨f, v, e, rfl, he, hbare, hget⟩

theorem mem_visits_of_origin? {f : Source} {v : Visit}
    (h : origin? config files name = some (f, v)) :
    v ∈ (f.context config (definedNames files)).visits := by
  obtain ⟨g, -, hg⟩ := List.exists_of_findSome?_eq_some h
  obtain ⟨w, hsite, hsame⟩ := Option.map_eq_some_iff.1 hg
  cases hsame
  exact List.mem_reverse.1 (List.mem_of_find?_eq_some hsite)

/-- The last file that registers a name gives its origin. -/
theorem origin?_of_last {before after : List Source} {f : Source} {v : Visit}
    (hfiles : files = before ++ f :: after)
    (hlast : ∀ g ∈ after, name ∉ (g.records config (definedNames files)).keys)
    (hsite : (f.context config (definedNames files)).site? name = some v) :
    origin? config files name = some (f, v) := by
  have hlater : after.reverse.findSome? (fun g =>
      ((g.context config (definedNames files)).site? name).map fun v =>
        (g, v)) = none := by
    rw [List.findSome?_eq_none_iff]
    intro g hg
    have hnone : (g.records config (definedNames files)).get? name = none := by
      rw [← Option.not_isSome_iff_eq_none, ← Map.mem_keys_iff]
      exact hlast g (List.mem_reverse.1 hg)
    rw [Context.site?_eq_none_iff.2 hnone]
    rfl
  have hreverse : files.reverse = after.reverse ++ f :: before.reverse := by
    rw [hfiles]
    simp
  unfold origin?
  rw [hreverse, List.findSome?_append, hlater, List.findSome?_cons, hsite]
  rfl

end Origin

end Purity
