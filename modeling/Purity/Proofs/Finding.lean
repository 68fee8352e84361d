/-
Findings and the records they are about. A verdict goes through the names
of a registry in ascending order, so what it says about one name is what
it says about the record of that name, and no other record has a say
(`filter_verdict`). A name that is marked and not forced has at most one
finding about its dependencies, which lists those that are not trusted
(`dependencyFindings_eq`), and what is listed is what the text at the
origin of the record refers to and the report rejects (`blames_iff`).

For a file this says that none of its imports gets lost between the text
and the report. Consumed by the proofs about verdicts and about inherited
purity.
-/
import Purity.Proofs.Origin

namespace Purity

-- ==================================================== verdict by name

/-- Every finding about a definition carries its name. -/
theorem Definition.module_of_mem_findings {d : Definition} {project : NameSet}
    {library : List String} {finding : Diagnostic}
    (h : finding ∈ d.findings project library) :
    finding.module = d.name := by
  unfold findings at h
  simp only [List.mem_append] at h
  rcases h with h | h
  all_goals
    split at h
    · cases h
    · rw [List.mem_singleton.1 h]
      rfl

theorem Definition.mem_untrusted {d : Definition} {project : NameSet}
    {library : List String} {x : RawText} :
    x ∈ d.untrusted project library ↔
      x ∈ d.dependencies ∧ isTrusted x project library = false := by
  unfold untrusted
  rw [SortedSet.mem_filter, Bool.not_eq_true']

/-- Of the findings about a definition, those about its dependencies. -/
theorem Definition.filter_findings (d : Definition) (project : NameSet)
    (library : List String) :
    (d.findings project library).filter (fun finding =>
        finding.code = Rule.code .impureDependencies)
      = let impure := (d.untrusted project library).toList
        if impure.isEmpty then []
        else [d.finding .impureDependencies impure] := by
  have hcalls : ∀ items, ¬ (d.finding .impureCalls items).code =
      Rule.code .impureDependencies := by
    intro items
    show ¬ Rule.code .impureCalls = Rule.code .impureDependencies
    decide
  have hown : ∀ items, (d.finding .impureDependencies items).code
      = Rule.code .impureDependencies := fun _ => rfl
  unfold findings
  simp only [List.filter_append]
  split <;> split <;> simp [hcalls, hown]

namespace Registry

variable {r : Registry}

/-- Among the records of distinct names, those of one name are its own. -/
theorem filter_filterMap_get? (h : r.Keyed) {names : List String}
    (hdistinct : names.Nodup) {name : String}
    (hname : (r.get? name).isSome → name ∈ names) :
    (names.filterMap r.get?).filter (fun d => d.name = name) =
      (r.get? name).toList := by
  have hothers : ∀ others : List String, name ∉ others →
      (others.filterMap r.get?).filter (fun d => d.name = name) = [] := by
    intro others hout
    rw [List.filter_eq_nil_iff]
    intro d hd
    obtain ⟨other, hother, hget⟩ := List.mem_filterMap.1 hd
    have hkey := h other d hget
    simp only [decide_eq_true_eq]
    rintro rfl
    rw [hkey] at hout
    exact hout hother
  by_cases hmem : name ∈ names
  · -- the name comes once, with other names before and behind it
    obtain ⟨before, after, rfl⟩ := List.append_of_mem hmem
    rw [List.nodup_append, List.nodup_cons] at hdistinct
    obtain ⟨-, ⟨hafter, -⟩, hapart⟩ := hdistinct
    have hbefore : name ∉ before :=
      fun hin => hapart name hin name List.mem_cons_self rfl
    rw [List.filterMap_append, List.filter_append, hothers before hbefore,
      List.filterMap_cons]
    cases hget : r.get? name with
    | none => exact hothers after hafter
    | some d =>
        rw [List.filter_cons, hothers after hafter]
        simp [h name d hget]
  · have hnone : r.get? name = none := by
      rw [← Option.not_isSome_iff_eq_none]
      exact fun hsome => hmem (hname hsome)
    rw [hothers names hmem, hnone]
    rfl

theorem filter_checkedDefinitions (h : r.Keyed) (name : String) :
    r.checkedDefinitions.filter (fun d => d.name = name)
      = (r.get? name).toList.filter fun d => d.marked && !d.forced := by
  have hname : (r.get? name).isSome →
      name ∈ (SortedSet.ofList r.keys).toList := by
    intro hsome
    have hkey : name ∈ SortedSet.ofList r.keys := by
      rw [SortedSet.mem_ofList, Map.mem_keys_iff]
      exact hsome
    exact hkey
  rw [← filter_filterMap_get? h (SortedSet.nodup _) hname]
  unfold checkedDefinitions
  rw [List.filter_filter, List.filter_filter]
  simp only [Bool.and_comm]

/-- What a verdict says about a name is what it says about its record. -/
theorem filter_verdict (h : r.Keyed) (library : List String) (name : String) :
    (r.verdict library).filter (fun finding => finding.module = name)
      = ((r.get? name).toList.filter fun d => d.marked && !d.forced).flatMap
          fun d => d.findings r.accepted library := by
  rw [← filter_checkedDefinitions h]
  unfold verdict
  simp only
  induction r.checkedDefinitions with
  | nil => rfl
  | cons d ds ih =>
      rw [List.flatMap_cons, List.filter_append, ih, List.filter_cons]
      by_cases hname : d.name = name
      · have hall : (d.findings r.accepted library).filter (fun finding =>
            finding.module = name)
            = d.findings r.accepted library := by
          rw [List.filter_eq_self]
          intro finding hfinding
          rw [Definition.module_of_mem_findings hfinding]
          simpa using hname
        rw [hall]
        simp [hname]
      · have hnone : (d.findings r.accepted library).filter
            (fun finding => finding.module = name) = [] := by
          rw [List.filter_eq_nil_iff]
          intro finding hfinding
          rw [Definition.module_of_mem_findings hfinding]
          simpa using hname
        rw [hnone]
        simp [hname]

/-- A name is accepted when its record is. -/
theorem mem_accepted {name : String} :
    name ∈ r.accepted ↔ ∃ d, r.get? name = some d ∧ r.isAccepted d = true := by
  unfold accepted
  rw [SortedSet.mem_ofList, List.mem_map]
  simp only [List.mem_filter, Prod.exists, Map.mem_entries_iff]
  constructor
  · rintro ⟨key, d, hd, rfl⟩
    exact ⟨d, hd⟩
  · rintro ⟨d, hd⟩
    exact ⟨name, d, hd, rfl⟩

end Registry

/-- What asks for the code of another rule finds nothing among the findings
about repeated names. -/
theorem Collision.filter_findings {p : Diagnostic → Bool}
    (hp : ∀ x, p x = true → x.code ≠ Rule.code .duplicateDefinition)
    (cs : List Collision) :
    (cs.map Collision.finding).filter p = [] := by
  rw [List.filter_eq_nil_iff]
  intro x hx hpx
  obtain ⟨c, -, rfl⟩ := List.mem_map.1 hx
  exact hp _ hpx rfl

-- ================================================= findings of a report

/-- The name of the marker, with its dots. -/
def Config.markerName (config : Config) : String :=
  Name.join (Name.segments config.marker)

namespace Report

/-- The findings of a report about the dependencies of a name. -/
def dependencyFindings (report : Report) (name : String) : List Diagnostic :=
  report.diagnostics.filter fun finding =>
    finding.code = Rule.code .impureDependencies ∧ finding.module = name

/-- A report has one finding about the dependencies of a name, and lists an
item in it. -/
def Blames (report : Report) (name : String) (item : RawText) : Prop :=
  ∃ finding, report.dependencyFindings name = [finding] ∧
    item ∈ finding.details

/-- A report does not accept a name as a dependency. The empty name, the
marker and the module that the marker is in are no dependencies. -/
def Rejects (report : Report) (config : Config) (x : RawText) : Prop :=
  (x ≠ "" ∧ x ≠ config.markerName ∧ x ≠ Name.parent config.markerName) ∧
    isTrusted x report.registry.accepted config.library = false

end Report

section Run

variable {config : Config} {files : List Source} {name : String} {x : RawText}
    {d : Definition}

theorem diagnostics_runChecks (config : Config) (files : List Source) :
    (runChecks config files).1.diagnostics
      = (runChecks config files).1.registry.verdict config.library
        ++ if config.reportDuplicates
          then (runChecks config files).1.collisions.map Collision.finding
          else [] := rfl

/-- A record that is checked has at most one finding about dependencies, with
those that are not trusted. -/
theorem dependencyFindings_eq
    (hd : (runChecks config files).1.registry.get? name = some d)
    (hmarked : d.marked = true) (hforced : d.forced = false) :
    (runChecks config files).1.dependencyFindings name
      = let impure := (d.untrusted (runChecks config files).1.registry.accepted
          config.library).toList
        if impure.isEmpty then []
        else [d.finding .impureDependencies impure] := by
  have hother : ∀ finding : Diagnostic,
      decide (finding.code = Rule.code .impureDependencies ∧
        finding.module = name) = true →
      finding.code ≠ Rule.code .duplicateDefinition := by
    intro finding hfinding
    rw [(of_decide_eq_true hfinding).1]
    decide
  have hduplicates := Collision.filter_findings hother
  have hchecked : (d.marked && !d.forced) = true := by
    rw [hmarked, hforced]
    rfl
  have hown :=
    Registry.filter_verdict (keyed_runChecks config files) config.library name
  rw [hd, Option.toList_some, List.filter_cons, if_pos hchecked,
    List.filter_nil, List.flatMap_singleton] at hown
  unfold Report.dependencyFindings
  rw [diagnostics_runChecks, List.filter_append]
  simp only [apply_ite (List.filter _), hduplicates, List.filter_nil, ite_self,
    List.append_nil]
  rw [← Definition.filter_findings, ← hown, List.filter_filter]
  simp only [Bool.decide_and]

/-- What a finding about the dependencies of a checked record lists. -/
theorem mem_details_iff
    (hd : (runChecks config files).1.registry.get? name = some d)
    (hmarked : d.marked = true) (hforced : d.forced = false)
    {finding : Diagnostic}
    (hfinding : finding ∈ (runChecks config files).1.dependencyFindings name) :
    x ∈ finding.details ↔ x ∈ d.dependencies ∧
      isTrusted x (runChecks config files).1.registry.accepted config.library =
        false := by
  rw [dependencyFindings_eq hd hmarked hforced] at hfinding
  simp only at hfinding
  split at hfinding
  · cases hfinding
  · rw [List.mem_singleton.1 hfinding]
    exact Definition.mem_untrusted

/-- What a report lists about a checked record. -/
theorem blames_iff_mem
    (hd : (runChecks config files).1.registry.get? name = some d)
    (hmarked : d.marked = true) (hforced : d.forced = false) :
    (runChecks config files).1.Blames name x ↔ x ∈ d.dependencies ∧
      isTrusted x (runChecks config files).1.registry.accepted config.library =
        false := by
  constructor
  · rintro ⟨finding, hfinding, hx⟩
    refine (mem_details_iff hd hmarked hforced ?_).1 hx
    rw [hfinding]
    exact List.mem_singleton_self finding
  · intro huntrusted
    have himpure : x ∈ d.untrusted (runChecks config files).1.registry.accepted
        config.library := Definition.mem_untrusted.2 huntrusted
    have hsome : ¬ (d.untrusted (runChecks config files).1.registry.accepted
        config.library).toList.isEmpty = true := by
      rw [List.isEmpty_iff]
      exact List.ne_nil_of_mem himpure
    refine ⟨d.finding .impureDependencies _, ?_, himpure⟩
    rw [dependencyFindings_eq hd hmarked hforced]
    exact if_neg hsome

/-- What a record that is no protocol depends on and a report rejects: what
the text at its origin refers to. -/
theorem rejected_dependency_iff {f : Source} {v : Visit} {e : Definition}
    (he : (f.context config (definedNames files)).declared? v = some e)
    (hbare : e.bare = d.bare) (hprotocol : d.protocol = false) :
    (x ∈ d.dependencies ∧
      isTrusted x (runChecks config files).1.registry.accepted config.library =
        false) ↔
    (f.context config (definedNames files)).RefersAt v x ∧
      (runChecks config files).1.Rejects config x := by
  rw [Context.mem_dependencies_of_declared? he hbare hprotocol, and_assoc,
    and_left_comm]
  rfl

/-- What a report lists about a checked record that is no protocol. -/
theorem blames_iff
    (hd : (runChecks config files).1.registry.get? name = some d)
    (hmarked : d.marked = true) (hforced : d.forced = false) {f : Source}
    {v : Visit}
    {e : Definition}
    (he : (f.context config (definedNames files)).declared? v = some e)
    (hbare : e.bare = d.bare) (hprotocol : d.protocol = false) :
    (runChecks config files).1.Blames name x ↔
      (f.context config (definedNames files)).RefersAt v x ∧
        (runChecks config files).1.Rejects config x := by
  rw [blames_iff_mem hd hmarked hforced,
    rejected_dependency_iff he hbare hprotocol]

end Run

-- ============================================================ pure files

/-- No impure import of a pure file goes unreported. Where the record of a
file is that of the last file which registers its name, and is marked and
not forced, every module that an import at any depth of the file refers
to, and that is rejected, stands in the one finding about the
dependencies of the file. The finding lists what the file refers to, by
imports or calls, and is rejected, and nothing else. -/
theorem imports_of_pure_file_reported {config : Config}
    {files before after : List Source} {f : Source} {d : Definition}
    (hfiles : files = before ++ f :: after)
    (hnamed : f.tree.WellNamed) (hinside : f.tree.ClassesInside)
    (hlast : ∀ g ∈ after, f.moduleName ∉
      (g.records config (definedNames files)).keys)
    (hd : (runChecks config files).1.registry.get? f.moduleName = some d)
    (hmarked : d.marked = true) (hforced : d.forced = false) :
    let report := (runChecks config files).1
    (∀ s r, (Node.stmt s).Within f.tree.node →
      s.Imports f.package (definedNames files) r →
      report.Rejects config r → report.Blames f.moduleName r) ∧
    ∀ finding ∈ report.dependencyFindings f.moduleName, ∀ r,
    r ∈ finding.details ↔
      f.tree.node.RefersTo (f.context config (definedNames files))
        (f.tree.node.aliases f.package) r ∧
      report.Rejects config r := by
  intro report
  obtain ⟨g, v, e, horigin, he, hbare, -⟩ := exists_origin hd
  -- the record comes from the file itself, which is no protocol
  rw [origin?_of_last hfiles hlast (Context.site?_moduleName hnamed hinside)]
    at horigin
  cases horigin
  have hprotocol : d.protocol = false := by
    cases he
    exact (congrArg Definition.protocol hbare).symm
  have hrefers : ∀ r,
      (f.context config (definedNames files)).RefersAt ⟨f.tree.node, []⟩ r ↔
      f.tree.node.RefersTo (f.context config (definedNames files))
        (f.tree.node.aliases f.package) r := by
    intro r
    show f.tree.node.RefersTo _ (_ ++ []) r ↔ _
    rw [List.append_nil]
    rfl
  constructor
  · intro s r hs himports hrejects
    rw [blames_iff hd hmarked hforced he hbare hprotocol]
    exact ⟨(hrefers r).2 (.imported hs himports), hrejects⟩
  · intro finding hfinding r
    rw [mem_details_iff hd hmarked hforced hfinding,
      rejected_dependency_iff he hbare hprotocol]
    exact and_congr_left' (hrefers r)

/-- The statement that marks what it stands in. -/
def markerStmt (line : Int) : Stmt :=
  .expression ⟨line, line, 0⟩ (.call ⟨line, line, 0⟩
    (.member ⟨line, line, 0⟩ (.name ⟨line, line, 0⟩ "pure_module_check")
      "pure_module") [] [])

/-- An import of one module, with a name of its own if one is given. -/
def importStmt (line : Int) (column : Nat) (name : String)
    (asName : Option String) : Stmt :=
  .importModules ⟨line, line, column⟩
    [⟨⟨line, line, column + 7⟩, name, asName⟩]

/-- A marked file that imports `os` in a method of a class. -/
def hiddenImport : Source where
  path := ⟨.relative, ["app", "core.py"]⟩
  moduleName := "app.core"
  package := "app"
  tree := ⟨[
    markerStmt 1,
    .classDef ⟨2, 4, 0⟩ "Store" [] [] [
      .functionDef ⟨3, 4, 4⟩ false "load" ⟨[], [], none, [], [], none, []⟩
        [importStmt 4 8 "os" none] [] none] []]⟩

/-- A file without text. -/
def emptyFile : Source where
  path := ⟨.relative, ["app", "other.py"]⟩
  moduleName := "app.other"
  package := "app"
  tree := ⟨[]⟩

theorem hidden_import_reported :
    hiddenImport.tree.WellNamed ∧ hiddenImport.tree.ClassesInside ∧
    (runChecks {} [hiddenImport, emptyFile]).1.Rejects {} "os" ∧
    (runChecks {} [hiddenImport, emptyFile]).1.Blames "app.core" "os" := by
  have hnamed : hiddenImport.tree.WellNamed := by decide +kernel
  have hplaced : hiddenImport.tree.WellPlaced := by decide +kernel
  have hlast : ∀ g ∈ [emptyFile], hiddenImport.moduleName ∉
      (g.records {} (definedNames [hiddenImport, emptyFile])).keys := by
    decide +kernel
  have hchecked :
      ((runChecks {} [hiddenImport, emptyFile]).1.registry.get? "app.core").any
      (fun d => d.marked && !d.forced) = true := by
    decide +kernel
  obtain ⟨d, hd, hflags⟩ := (Option.any_eq_true _ _).1 hchecked
  rw [Bool.and_eq_true, Bool.not_eq_true'] at hflags
  have hrejects :
      (runChecks {} [hiddenImport, emptyFile]).1.Rejects {} "os" := by
    refine ⟨⟨by decide, by decide, by decide⟩, ?_⟩
    decide +kernel
  have hfiles : [hiddenImport, emptyFile] =
      [] ++ hiddenImport :: [emptyFile] := rfl
  have hreported :=
    imports_of_pure_file_reported hfiles hnamed hplaced.classesInside hlast hd
    hflags.1 hflags.2
  refine ⟨hnamed, hplaced.classesInside, hrejects, ?_⟩
  refine hreported.1 (importStmt 4 8 "os" none) "os" ⟨[1, 0, 1], rfl⟩ ?_
    hrejects
  exact .module (List.mem_singleton_self _)

end Purity
