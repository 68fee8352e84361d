/-
What holds of every record, whatever the files are and in whatever order
their definitions, markers and calls come. A record is sound when it names
its file, is forced only if it is marked, depends neither on the empty
name nor on the marker, and has listed calls only; a protocol is marked
and has neither dependencies nor calls (`Sound`).

A record is sound when it is declared (`sound_of_declared?`), stays so
under a mark (`Sound.mark`) and under a charge if it is no protocol
(`Sound.addCall`). The owner of a call is never a protocol, since the
search ends there (`protocol_of_owner?`), so a charge leaves all records
sound (`allSound_charge`), and so do all charges of a file. A merge takes
every record from one of the files. Consumed by the proofs about inherited
purity.
-/
import Purity.Proofs.Verdict

namespace Purity

namespace Context

variable {c : Context} {d : Definition}

-- ======================================================== sound records

/-- A function is listed as an impure one of a module. -/
def Lists (c : Context) (call : String × String) : Prop :=
  ∃ functions, c.impureFunctions.get? call.1 = some functions ∧
    call.2 ∈ functions

/-- What holds of every record of a file. -/
structure Sound (c : Context) (d : Definition) : Prop where
  filename_eq : d.filename = c.filename
  marked_of_forced : d.forced = true → d.marked = true
  /-- A protocol has nothing that could be reported. -/
  of_protocol : d.protocol = true → d.marked = true ∧ d.dependencies = {} ∧
    d.calls = []
  of_mem_dependencies : ∀ x ∈ d.dependencies,
    x ≠ "" ∧ x ≠ c.dottedMarker ∧ x ≠ c.markerHome
  lists_calls : ∀ call ∈ d.calls, c.Lists call

theorem sound_protocolOf (c : Context) (name : String) (line : Int) :
    c.Sound (Collector.protocolOf c name line) where
  filename_eq := rfl
  marked_of_forced := nofun
  of_protocol _ := ⟨rfl, rfl, rfl⟩
  of_mem_dependencies := nofun
  lists_calls := nofun

theorem sound_recordOf (c : Context) (v : Visit) (name : String) (line : Int) :
    c.Sound (c.recordOf v name line) where
  filename_eq := rfl
  marked_of_forced := nofun
  of_protocol := nofun
  of_mem_dependencies := by
    intro x hx
    obtain ⟨hdependency, hmarker⟩ := SortedSet.mem_filter.1 hx
    rw [Bool.and_eq_true, decide_eq_true_eq, decide_eq_true_eq] at hmarker
    exact ⟨(Node.mem_dependencies.1 hdependency).1, hmarker⟩
  lists_calls := nofun

theorem sound_of_declared? {v : Visit} (h : c.declared? v = some d) :
    c.Sound d := by
  obtain ⟨name, line, rfl | rfl⟩ := exists_eq_of_declared? h
  · exact sound_protocolOf c name line
  · exact sound_recordOf c v name line

theorem Sound.mark (h : c.Sound d) (force : Bool) :
    c.Sound (d.mark force) where
  filename_eq := h.filename_eq
  marked_of_forced _ := rfl
  of_protocol hprotocol := ⟨rfl, (h.of_protocol hprotocol).2⟩
  of_mem_dependencies := h.of_mem_dependencies
  lists_calls := h.lists_calls

theorem Sound.addCall (h : c.Sound d) (hprotocol : d.protocol = false)
    {module function : String} (hlists : c.Lists (module, function)) :
    c.Sound (d.addCall module function) where
  filename_eq := h.filename_eq
  marked_of_forced := h.marked_of_forced
  of_protocol hcontra := by
    have hsame : d.protocol = true := hcontra
    rw [hprotocol] at hsame
    cases hsame
  of_mem_dependencies := h.of_mem_dependencies
  lists_calls := by
    intro call hcall
    rcases List.mem_append.1 hcall with hold | hnew
    · exact h.lists_calls call hold
    · rw [List.mem_singleton.1 hnew]
      exact hlists

-- ============================================================== charges

/-- The calls that wait for an owner are listed. -/
theorem lists_of_mem_impureCalls {call : PendingCall}
    (hcall : call ∈ c.impureCalls) :
    c.Lists (call.module, call.function) := by
  obtain ⟨v, -, hv⟩ := List.mem_filterMap.1 hcall
  unfold impureCall? at hv
  split at hv
  next =>
    split at hv
    next hmem =>
      obtain ⟨scope, -, rfl⟩ := Option.map_eq_some_iff.1 hv
      unfold impureOf at hmem
      unfold Lists
      cases hget : c.impureFunctions.get? _ with
      | none =>
          rw [hget] at hmem
          cases hmem
      | some functions =>
          rw [hget] at hmem
          exact ⟨functions, rfl, hmem⟩
    next => cases hv
  next => cases hv

end Context

/-- A protocol answers for no call. -/
theorem Collector.protocol_of_owner? {r : Registry} {scope : String}
    {x : String × Definition} (hx : owner? r scope = some x) :
    x.2.protocol = false := by
  have hmem := mem_answerable_of_owner? hx
  unfold answerable at hmem
  simpa using List.all_eq_true.1 List.all_takeWhile x hmem

namespace Context

variable {c : Context}

/-- All records of a registry are sound. -/
def AllSound (c : Context) (r : Registry) : Prop :=
  ∀ name d, r.get? name = some d → c.Sound d

/-- A walk leaves sound records. -/
theorem allSound_survey (c : Context) : c.AllSound c.survey.registry := by
  intro name d hd
  refine forall_survey c.Sound ?_ (fun d force h => h.mark force) hd
  intro v _ d hd
  exact sound_of_declared? hd

/-- A charge leaves sound records. -/
theorem allSound_charge {s : Registry × List LogRecord} (h : c.AllSound s.1)
    {call : PendingCall} (hlists : c.Lists (call.module, call.function)) :
    c.AllSound (Collector.charge s call).1 := by
  intro name d hd
  unfold Collector.charge at hd
  cases howner : Collector.owner? s.1 call.scope with
  | none =>
      simp only [howner] at hd
      exact h name d hd
  | some x =>
      simp only [howner, Map.get?_insert] at hd
      split at hd
      next =>
        cases hd
        have hsound : c.Sound x.2 := h x.1 x.2 (Collector.of_owner? howner).2
        exact hsound.addCall (Collector.protocol_of_owner? howner) hlists
      next => exact h name d hd

theorem allSound_foldl_charge (calls : List PendingCall)
    {s : Registry × List LogRecord} (h : c.AllSound s.1)
    (hlists : ∀ call ∈ calls, c.Lists (call.module, call.function)) :
    c.AllSound (calls.foldl Collector.charge s).1 := by
  induction calls generalizing s with
  | nil => exact h
  | cons call calls ih =>
      rw [List.forall_mem_cons] at hlists
      exact ih (allSound_charge h hlists.1) hlists.2

theorem allSound_collect (c : Context) : c.AllSound c.collect.1.registry := by
  rw [registry_collect]
  exact allSound_foldl_charge c.impureCalls c.allSound_survey
    fun call => lists_of_mem_impureCalls

/-- A protocol is always marked. -/
theorem marked_of_protocol {name : String} {d : Definition}
    (hd : c.collect.1.registry.get? name = some d)
    (hprotocol : d.protocol = true) :
    d.marked = true :=
  ((c.allSound_collect name d hd).of_protocol hprotocol).1

/-- A sound record that has a finding is no protocol. -/
theorem Sound.protocol_of_mem_findings {d : Definition} (h : c.Sound d)
    {project : NameSet} {library : List String} {x : Diagnostic}
    (hx : x ∈ d.findings project library) :
    d.protocol = false := by
  by_contra hne
  obtain ⟨-, hdependencies, hcalls⟩ := h.of_protocol (by simpa using hne)
  rcases Definition.mem_findings.1 hx with ⟨⟨y, hy, -⟩, -⟩ | ⟨hsome, -⟩
  · rw [hdependencies] at hy
    cases hy
  · exact hsome hcalls

end Context

-- =============================================================== a run

section Run

variable {config : Config} {files : List Source} {name : String}
    {d : Definition}

/-- A record of a report is a record of the last file that has its name. -/
theorem exists_last_of_get?_runChecks
    (hd : (runChecks config files).1.registry.get? name = some d) :
    ∃ before f after, files = before ++ f :: after ∧
      (f.records config (definedNames files)).get? name = some d ∧
      ∀ g ∈ after, name ∉ (g.records config (definedNames files)).keys := by
  rw [get?_runChecks, List.findSome?_eq_some_iff] at hd
  obtain ⟨after, f, before, hfiles, hget, hlater⟩ := hd
  refine ⟨before.reverse, f, after.reverse, ?_, hget, ?_⟩
  · rw [← List.reverse_reverse files, hfiles]
    simp
  · intro g hg
    rw [Map.mem_keys_iff, hlater g (List.mem_reverse.1 hg)]
    simp

end Run

/-- What every run keeps. Every entry of the registry of a file, and of the
merged registry of a report, has the name of its record as its key and is
sound: it names the file that it comes from, which in a report is the last
one that has the name; it is forced only if it is marked; if it is an
protocol, it is marked and has neither dependencies nor calls; it depends
on neither the empty name nor the marker nor the module of the marker; and
all its calls are listed in the configuration. So no finding about
dependencies or calls is about a protocol, or about a record that is not
marked or is forced. -/
theorem records_sound (config : Config) (files : List Source) :
    let report := (runChecks config files).1
    let names := definedNames files
    (∀ f ∈ files, ∀ key d, (key, d) ∈ (f.records config names).entries →
      key = d.name ∧ (f.context config names).Sound d) ∧
    (∀ key d, (key, d) ∈ report.registry.entries →
      key = d.name ∧
      ∃ before f after, files = before ++ f :: after ∧
        (key, d) ∈ (f.records config names).entries ∧
        (∀ g ∈ after, key ∉ (g.records config names).keys) ∧
        (f.context config names).Sound d) ∧
    ∀ x ∈ report.diagnostics, x.code = "PMC001" ∨ x.code = "PMC002" →
      ∃ d, report.registry.get? x.module = some d ∧
        d.marked = true ∧ d.forced = false ∧ d.protocol = false := by
  intro report names
  have hkeyed : report.registry.Keyed := keyed_runChecks config files
  have hmerged : ∀ key d, report.registry.get? key = some d →
      ∃ before f after, files = before ++ f :: after ∧
        (key, d) ∈ (f.records config names).entries ∧
        (∀ g ∈ after, key ∉ (g.records config names).keys) ∧
        (f.context config names).Sound d := by
    intro key d hd
    obtain ⟨before, f, after, hfiles, hget, hlast⟩ :=
      exists_last_of_get?_runChecks hd
    exact ⟨before, f, after, hfiles, Map.mem_entries_iff.2 hget, hlast,
      Context.allSound_collect _ key d hget⟩
  refine ⟨?_, ?_, ?_⟩
  · intro f _ key d hentry
    have hget := Map.mem_entries_iff.1 hentry
    exact ⟨(Context.keyed_collect _ key d hget).symm,
      Context.allSound_collect _ key d hget⟩
  · intro key d hentry
    have hget := Map.mem_entries_iff.1 hentry
    exact ⟨(hkeyed key d hget).symm, hmerged key d hget⟩
  · intro x hx hcode
    have hverdict : x ∈ report.registry.verdict config.library := by
      rw [← filter_violations, List.mem_filter, decide_eq_true_eq]
      exact ⟨hx, hcode⟩
    obtain ⟨d, hd, hmarked, hforced, hfinding⟩ :=
      (Registry.mem_verdict hkeyed).1 hverdict
    obtain ⟨-, f, -, -, -, -, hsound⟩ := hmerged _ d hd
    exact ⟨d, hd, hmarked, hforced, hsound.protocol_of_mem_findings hfinding⟩

/-- A file with a protocol and a class that both read the clock. -/
def facade : Source where
  path := ⟨.relative, ["app", "face.py"]⟩
  moduleName := "app.face"
  package := "app"
  tree := ⟨[
    Context.clockClass "Clock" [.name ⟨1, 1, 12⟩ "Protocol"] 1,
    Context.clockClass "Watch" [] 3]⟩

theorem facade_records_sound :
    ∃ clock watch,
      ("app.face.Clock", clock) ∈ (runChecks {} [facade]).1.registry.entries ∧
      clock.filename = "app/face.py" ∧ clock.protocol = true ∧ clock.calls =
    [] ∧
      ("app.face.Watch", watch) ∈ (runChecks {} [facade]).1.registry.entries ∧
      watch.calls ≠ [] ∧
      ∀ call ∈ watch.calls,
        (facade.context {} (definedNames [facade])).Lists call := by
  obtain ⟨-, hmerged, -⟩ := records_sound {} [facade]
  have hclock : ((runChecks {} [facade]).1.registry.get? "app.face.Clock").any
      Definition.protocol = true := by
    decide +kernel
  have hwatch : ((runChecks {} [facade]).1.registry.get? "app.face.Watch").any
      (fun d => !d.calls.isEmpty) = true := by
    decide +kernel
  obtain ⟨clock, hclockGet, hprotocol⟩ := (Option.any_eq_true _ _).1 hclock
  obtain ⟨watch, hwatchGet, hcalls⟩ := (Option.any_eq_true _ _).1 hwatch
  have hclockEntry := Map.mem_entries_iff.2 hclockGet
  have hwatchEntry := Map.mem_entries_iff.2 hwatchGet
  have honly : ∀ before f after, [facade] = before ++ f :: after →
      f = facade := by
    intro before f after hfiles
    have hmem : f ∈ [facade] := by
      rw [hfiles]
      simp
    exact List.mem_singleton.1 hmem
  obtain ⟨-, before, f, after, hfiles, -, -, hsound⟩ :=
    hmerged _ clock hclockEntry
  obtain ⟨-, before', g, after', hfiles', -, -, hsound'⟩ :=
    hmerged _ watch hwatchEntry
  obtain rfl := honly before f after hfiles
  obtain rfl := honly before' g after' hfiles'
  refine ⟨clock, watch, hclockEntry,
    hsound.filename_eq.trans (by decide +kernel), hprotocol,
    (hsound.of_protocol hprotocol).2.2, hwatchEntry, ?_, hsound'.lists_calls⟩
  simpa using hcalls

end Purity
