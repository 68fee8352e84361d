/-
What a verdict says. Its findings are about the records that are marked
and not forced, and about each of them there is one finding for the
dependencies that are not trusted, if there are any, and one for the calls
that were charged, if there are any (`mem_verdict`, `mem_findings`). They
come in strictly ascending order of the name, and of the rule for one name
(`pairwise_verdict`).

Nothing else has a say: a verdict looks at a registry only through the
records of names, and at a library only through its members, so neither
the order of insertion nor the order of the entries matters
(`verdict_congr`). In a report, what is neither about dependencies nor
about calls is about a repeated name (`filter_violations`,
`filter_duplicates`). Consumed by the proofs about records and about the
order of files.
-/
import Purity.Proofs.Finding

namespace Purity

variable {r : Registry} {library : List String}

-- ============================================================ findings

/-- The order of findings: by name, and for one name by rule. -/
def Diagnostic.Precedes (a b : Diagnostic) : Prop :=
  a.module < b.module ∨ (a.module = b.module ∧ a.code < b.code)

namespace Definition

variable {d : Definition} {project : NameSet} {x : Diagnostic}

/-- The findings about a definition: one if some dependency is not trusted,
and one if a call was charged. -/
theorem mem_findings :
    x ∈ d.findings project library ↔
      ((∃ y ∈ d.dependencies, isTrusted y project library = false) ∧
        x = d.finding .impureDependencies
          (d.untrusted project library).toList) ∨
      (d.calls ≠ [] ∧
        x = d.finding .impureCalls
          (d.calls.map fun call =>
            RawText.ofString (call.1 ++ "." ++ call.2))) := by
  have himpure : (∃ y ∈ d.dependencies, isTrusted y project library = false) ↔
      (d.untrusted project library).toList ≠ [] := by
    constructor
    · rintro ⟨y, hy⟩
      exact List.ne_nil_of_mem (mem_untrusted.2 hy)
    · intro hne
      obtain ⟨y, hy⟩ := List.exists_mem_of_ne_nil _ hne
      exact ⟨y, mem_untrusted.1 hy⟩
  have hone : ∀ (items : List RawText) (f : Diagnostic),
      (x ∈ if items.isEmpty then [] else [f]) ↔ items ≠ [] ∧ x = f := by
    intro items f
    cases items <;> simp
  unfold findings
  simp only [List.mem_append, hone, himpure, ne_eq, List.map_eq_nil_iff]

theorem exists_dependency_finding :
    (∃ x ∈ d.findings project library, x.code = "PMC001") ↔
      ∃ y ∈ d.dependencies, isTrusted y project library = false := by
  constructor
  · rintro ⟨x, hx, hcode⟩
    rcases mem_findings.1 hx with ⟨himpure, -⟩ | ⟨-, rfl⟩
    · exact himpure
    · have hother : Rule.code .impureCalls = "PMC001" := hcode
      exact absurd hother (by decide)
  · intro himpure
    exact ⟨_, mem_findings.2 (Or.inl ⟨himpure, rfl⟩), rfl⟩

theorem exists_call_finding :
    (∃ x ∈ d.findings project library, x.code = "PMC002") ↔ d.calls ≠ [] := by
  constructor
  · rintro ⟨x, hx, hcode⟩
    rcases mem_findings.1 hx with ⟨-, rfl⟩ | ⟨hcalls, -⟩
    · have hother : Rule.code .impureDependencies = "PMC002" := hcode
      exact absurd hother (by decide)
    · exact hcalls
  · intro hcalls
    exact ⟨_, mem_findings.2 (Or.inr ⟨hcalls, rfl⟩), rfl⟩

/-- Dependencies come before calls. -/
theorem pairwise_findings (d : Definition) (project : NameSet)
    (library : List String) :
    (d.findings project library).Pairwise Diagnostic.Precedes := by
  have hcodes : Rule.code .impureDependencies <
      Rule.code .impureCalls := by decide
  have horder : ∀ items calls,
      Diagnostic.Precedes (d.finding .impureDependencies items)
      (d.finding .impureCalls calls) := fun _ _ => Or.inr ⟨rfl, hcodes⟩
  unfold findings
  simp only
  split <;> split <;> simp [horder]

end Definition

-- ============================================================ a verdict

namespace Registry

/-- A verdict has the findings about the records that are checked. -/
theorem mem_verdict (h : r.Keyed) {x : Diagnostic} :
    x ∈ r.verdict library ↔
      ∃ d, r.get? x.module = some d ∧ d.marked = true ∧ d.forced = false ∧
        x ∈ d.findings r.accepted library := by
  have hown : x ∈ r.verdict library ↔
      x ∈ (r.verdict library).filter fun finding => finding.module =
        x.module := by
    simp
  rw [hown, filter_verdict h, List.mem_flatMap]
  simp only [List.mem_filter, Option.mem_toList, Bool.and_eq_true,
    Bool.not_eq_true', and_assoc]

theorem code_of_mem_verdict (h : r.Keyed) {x : Diagnostic}
    (hx : x ∈ r.verdict library) :
    x.code = "PMC001" ∨ x.code = "PMC002" := by
  obtain ⟨d, -, -, -, hfinding⟩ := (mem_verdict h).1 hx
  rcases Definition.mem_findings.1 hfinding with ⟨-, rfl⟩ | ⟨-, rfl⟩
  · exact Or.inl rfl
  · exact Or.inr rfl

/-- A rule is reported for a name when it is for the record of the name. -/
theorem exists_finding_iff (h : r.Keyed) {name code : String} :
    (∃ x ∈ r.verdict library, x.module = name ∧ x.code = code) ↔
      ∃ d, r.get? name = some d ∧ d.marked = true ∧ d.forced = false ∧
        ∃ x ∈ d.findings r.accepted library, x.code = code := by
  constructor
  · rintro ⟨x, hx, rfl, hcode⟩
    obtain ⟨d, hd, hmarked, hforced, hfinding⟩ := (mem_verdict h).1 hx
    exact ⟨d, hd, hmarked, hforced, x, hfinding, hcode⟩
  · rintro ⟨d, hd, hmarked, hforced, x, hfinding, hcode⟩
    have hname : x.module = name :=
      (Definition.module_of_mem_findings hfinding).trans (h name d hd)
    refine ⟨x, (mem_verdict h).2 ⟨d, ?_, hmarked, hforced, hfinding⟩, hname,
      hcode⟩
    rw [hname]
    exact hd

theorem pairwise_checkedDefinitions (h : r.Keyed) :
    r.checkedDefinitions.Pairwise fun d e => d.name < e.name := by
  unfold checkedDefinitions
  refine List.Pairwise.filter _ (List.pairwise_filterMap.2 ?_)
  refine (SortedSet.ofList r.keys).ascending.imp ?_
  intro a b hlt d hd e he
  rw [h a d hd, h b e he]
  exact hlt

/-- The findings come by ascending name, those about dependencies first. -/
theorem pairwise_verdict (h : r.Keyed) (library : List String) :
    (r.verdict library).Pairwise Diagnostic.Precedes := by
  unfold verdict
  simp only
  rw [List.pairwise_flatMap]
  refine ⟨fun d _ => d.pairwise_findings _ _, ?_⟩
  refine (pairwise_checkedDefinitions h).imp ?_
  intro d e hlt x hx y hy
  rw [← Definition.module_of_mem_findings hx,
    ← Definition.module_of_mem_findings hy] at hlt
  exact Or.inl hlt

-- ================================================== what a verdict reads

section Congr

variable {r' : Registry} (hget : ∀ name, r'.get? name = r.get? name)

include hget

theorem climb_congr (steps : Nat) (d : Definition) :
    r'.climb steps d = r.climb steps d := by
  induction steps generalizing d with
  | zero => rfl
  | succ steps ih =>
      unfold climb
      simp only [hget, ih]

theorem isAccepted_congr (d : Definition) :
    r'.isAccepted d = r.isAccepted d := by
  unfold isAccepted
  rw [climb_congr hget]

theorem mem_keys_congr (name : String) : name ∈ r'.keys ↔ name ∈ r.keys := by
  rw [Map.mem_keys_iff, Map.mem_keys_iff, hget]

theorem accepted_congr : r'.accepted = r.accepted := by
  refine SortedSet.ext fun name => ?_
  rw [mem_accepted, mem_accepted]
  simp only [hget, isAccepted_congr hget]

theorem checkedDefinitions_congr :
    r'.checkedDefinitions = r.checkedDefinitions := by
  have hnames : SortedSet.ofList r'.keys = SortedSet.ofList r.keys := by
    refine SortedSet.ext fun name => ?_
    rw [SortedSet.mem_ofList, SortedSet.mem_ofList]
    exact mem_keys_congr hget name
  unfold checkedDefinitions
  rw [hnames, show r'.get? = r.get? from funext hget]

omit hget in
/-- Only the members of a library matter. -/
theorem isTrusted_congr {library' : List String}
    (hlibrary : ∀ entry, entry ∈ library' ↔ entry ∈ library) (y : RawText)
    (project : NameSet) :
    isTrusted y project library' = isTrusted y project library := by
  have hany : library'.any (Name.acceptedBy y) =
      library.any (Name.acceptedBy y) := by
    rw [Bool.eq_iff_iff, List.any_eq_true, List.any_eq_true]
    simp only [hlibrary]
  unfold isTrusted
  rw [hany]

/-- A verdict reads a registry by name and a library by membership. -/
theorem verdict_congr {library' : List String}
    (hlibrary : ∀ entry, entry ∈ library' ↔ entry ∈ library) :
    r'.verdict library' = r.verdict library := by
  have hfindings : ∀ d : Definition, d.findings r.accepted library'
      = d.findings r.accepted library := by
    intro d
    unfold Definition.findings Definition.untrusted
    simp only [isTrusted_congr hlibrary]
  unfold verdict
  simp only [checkedDefinitions_congr hget, accepted_congr hget, hfindings]

end Congr

/-- A verdict reports exactly the violations. It ascends strictly by name
and rule. A name has a finding about dependencies exactly when its record
is marked, not forced and has a dependency that is not trusted, and a
finding about calls exactly when its record is marked, not forced and has
calls; there are no other findings. Each carries the file and the line of
the record, and lists either the untrusted dependencies in ascending order
or the calls in the order in which they were charged. The order in which
the registry or the library was put together does not matter. -/
theorem violations_reported_exactly (h : r.Keyed) (library : List String) :
    (r.verdict library).Pairwise (fun a b =>
      a.module < b.module ∨ (a.module = b.module ∧ a.code < b.code)) ∧
    (∀ name, (∃ x ∈ r.verdict library, x.module = name ∧ x.code = "PMC001") ↔
      ∃ d, r.get? name = some d ∧ d.marked = true ∧ d.forced = false ∧
        ∃ y ∈ d.dependencies, isTrusted y r.accepted library = false) ∧
    (∀ name, (∃ x ∈ r.verdict library, x.module = name ∧ x.code = "PMC002") ↔
      ∃ d, r.get? name = some d ∧ d.marked = true ∧ d.forced = false ∧
      d.calls ≠ []) ∧
    (∀ x ∈ r.verdict library, ∃ d, r.get? x.module = some d ∧
      x.filename = d.filename ∧ x.line = d.line ∧
      ((x.code = "PMC001" ∧ x.details.Pairwise (· < ·) ∧
          ∀ y, y ∈ x.details ↔
            y ∈ d.dependencies ∧ isTrusted y r.accepted library = false) ∨
        (x.code = "PMC002" ∧
          x.details = d.calls.map fun call =>
            RawText.ofString (call.1 ++ "." ++ call.2)))) ∧
    ∀ (r' : Registry) (library' : List String),
    (∀ name, r'.get? name = r.get? name) →
      (∀ entry, entry ∈ library' ↔ entry ∈ library) →
      r'.verdict library' = r.verdict library := by
  refine ⟨pairwise_verdict h library, ?_, ?_, ?_, fun r' library' => ?_⟩
  · intro name
    simp only [exists_finding_iff h, Definition.exists_dependency_finding]
  · intro name
    simp only [exists_finding_iff h, Definition.exists_call_finding]
  · intro x hx
    obtain ⟨d, hd, -, -, hfinding⟩ := (mem_verdict h).1 hx
    refine ⟨d, hd, ?_⟩
    rcases Definition.mem_findings.1 hfinding with ⟨-, rfl⟩ | ⟨-, rfl⟩
    · exact ⟨rfl, rfl, Or.inl ⟨rfl, (d.untrusted r.accepted library).ascending,
        fun y => Definition.mem_untrusted⟩⟩
    · exact ⟨rfl, rfl, Or.inr ⟨rfl, rfl⟩⟩
  · intro hget hlibrary
    exact verdict_congr hget hlibrary

/-- A marked file that uses a class of another marked file, reads the clock
and needs `os`, which a forced file may do unpunished. -/
def toolbox : Registry := .ofList [
  ("app.core", {
    name := "app.core", filename := "app/core.py", line := 1, marked := true
    dependencies := .ofList ["os", "json", "app.tool.Saw", "app.raw"]
    calls := [("datetime", "now")] }),
  ("app.tool.Saw",
    { name := "app.tool.Saw", filename := "app/tool.py", line := 3 }),
  ("app.tool", { name := "app.tool",
                 filename := "app/tool.py",
                 line := 1,
                 marked := true }),
  ("app.raw", {
    name := "app.raw", filename := "app/raw.py", line := 1
    marked := true, forced := true
    dependencies := .ofList ["os"] })]

/-- The same records, inserted the other way round. -/
def toolboxReversed : Registry := .ofList toolbox.entries.reverse

theorem toolbox_violations_reported :
    toolbox.Keyed ∧
    (∃ x ∈ toolbox.verdict ["json"], x.module = "app.core" ∧
      x.code = "PMC001") ∧
    (∃ x ∈ toolbox.verdict ["json"], x.module = "app.core" ∧
      x.code = "PMC002") ∧
    (¬ ∃ x ∈ toolbox.verdict ["json"], x.module = "app.raw" ∧
      x.code = "PMC001") ∧
    toolboxReversed.verdict ["json", "json"] = toolbox.verdict ["json"] := by
  have hkeyed : toolbox.Keyed := by
    have hentries : ∀ e ∈ toolbox.entries, e.2.name = e.1 := by decide
    intro name d hd
    exact hentries (name, d) (Map.mem_entries_iff.2 hd)
  have hreversed : ∀ name, toolboxReversed.get? name = toolbox.get? name := by
    have hentries : toolboxReversed.entries = toolbox.entries.reverse := by rfl
    intro name
    refine Option.ext fun d => ?_
    rw [← Map.mem_entries_iff, ← Map.mem_entries_iff, hentries,
      List.mem_reverse]
  obtain ⟨-, hdependencies, hcalls, -, hcongr⟩ :=
    violations_reported_exactly hkeyed ["json"]
  refine ⟨hkeyed, (hdependencies _).2 ?_, (hcalls _).2 ?_, ?_, ?_⟩
  · exact ⟨_, rfl, rfl, rfl, RawText.ofString "os", by decide, by decide⟩
  · exact ⟨_, rfl, rfl, rfl, by decide⟩
  · rw [hdependencies]
    rintro ⟨d, hd, -, hforced, -⟩
    cases hd
    cases hforced
  · exact hcongr toolboxReversed ["json", "json"] hreversed (by simp)

end Registry

-- ===================================================== kinds of findings

section Run

variable (config : Config) (files : List Source)

/-- The findings of a report about dependencies and calls are its verdict. -/
theorem filter_violations :
    (runChecks config files).1.diagnostics.filter
        (fun x => x.code = "PMC001" ∨ x.code = "PMC002")
      = (runChecks config files).1.registry.verdict config.library := by
  have hverdict :
      ∀ x ∈ (runChecks config files).1.registry.verdict config.library,
      decide (x.code = "PMC001" ∨ x.code = "PMC002") = true := by
    intro x hx
    rw [decide_eq_true_eq]
    exact Registry.code_of_mem_verdict (keyed_runChecks config files) hx
  have hother : ∀ x : Diagnostic,
      decide (x.code = "PMC001" ∨ x.code = "PMC002") = true →
      x.code ≠ Rule.code .duplicateDefinition := by
    intro x hx
    rcases of_decide_eq_true hx with hcode | hcode
    all_goals
      rw [hcode]
      decide
  have hduplicates := Collision.filter_findings hother
  rw [diagnostics_runChecks, List.filter_append,
    List.filter_eq_self.2 hverdict, apply_ite (List.filter _), hduplicates,
    List.filter_nil, ite_self, List.append_nil]

/-- The findings of a report about repeated names are its collisions, if
these are asked for. -/
theorem filter_duplicates :
    (runChecks config files).1.diagnostics.filter (fun x => x.code = "PMC003")
      = if config.reportDuplicates
        then (runChecks config files).1.collisions.map Collision.finding
        else [] := by
  have hverdict :
      ((runChecks config files).1.registry.verdict config.library).filter
      (fun x => x.code = "PMC003") = [] := by
    rw [List.filter_eq_nil_iff]
    intro x hx
    rcases Registry.code_of_mem_verdict (keyed_runChecks config files) hx
      with hcode | hcode
    all_goals
      rw [hcode]
      decide
  have hduplicates : ∀ cs : List Collision, (cs.map Collision.finding).filter
      (fun x => x.code = "PMC003") = cs.map Collision.finding := by
    intro cs
    rw [List.filter_eq_self]
    intro x hx
    obtain ⟨c, -, rfl⟩ := List.mem_map.1 hx
    rfl
  rw [diagnostics_runChecks, List.filter_append, hverdict, List.nil_append,
    apply_ite (List.filter _), hduplicates, List.filter_nil]

end Run

end Purity
