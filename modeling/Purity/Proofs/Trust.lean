/-
Trusting more never creates findings elsewhere. Marking further records
moves the end of many walks at once: a class that took its purity from a
far definition now takes it from a nearer one. Acceptance is not lost that
way. A protocol is marked from the start, so a record that gets a mark is
none, and it passes purity down to all that it cuts off from the farther
one (`MarksMore.exists_markedAbove`).

With more names accepted and more entries in the library fewer names are
untrusted (`isTrusted_eq_false_of_subset`), so the list of untrusted
dependencies of a record only gets shorter (`untrusted_sublist`), and a
record that was marked before is checked as before. Calls do not depend
on trust at all (`filter_calls_verdict`).
-/
import Purity.Proofs.Ancestry
import Purity.Proofs.Verdict

namespace Purity

-- ====================================================== trusted names

section Trusted

variable {project project' : NameSet} {library library' : List String}

/-- What is not trusted would not be trusted with fewer names accepted. -/
theorem isTrusted_eq_false_of_subset (hproject : ∀ x ∈ project, x ∈ project')
    (hlibrary : library ⊆ library') {x : RawText}
    (hx : isTrusted x project' library' = false) :
    isTrusted x project library = false := by
  unfold isTrusted at hx ⊢
  simp only [Bool.or_eq_false_iff, List.any_eq_false] at hx ⊢
  obtain ⟨⟨hnames, hentries⟩, hdynamic⟩ := hx
  exact ⟨⟨fun name h => hnames name (hproject name h),
    fun entry h => hentries entry (hlibrary h)⟩, hdynamic⟩

/-- Of the untrusted dependencies some drop out, and the others keep their
order. -/
theorem Definition.untrusted_sublist (d : Definition)
    (hproject : ∀ x ∈ project, x ∈ project') (hlibrary : library ⊆ library') :
    (d.untrusted project' library').toList.Sublist
      (d.untrusted project library).toList := by
  refine List.monotone_filter_right d.dependencies.toList fun x hx => ?_
  rw [Bool.not_eq_true'] at hx ⊢
  exact isTrusted_eq_false_of_subset hproject hlibrary hx

/-- The findings about calls do not depend on what is trusted. -/
theorem Definition.filter_call_findings (d : Definition)
    (project project' : NameSet) (library library' : List String) :
    (d.findings project' library').filter (fun x => x.code = "PMC002")
      = (d.findings project library).filter (fun x => x.code = "PMC002") := by
  have hother : ∀ items, ¬ (d.finding .impureDependencies items).code =
      "PMC002" := by
    intro items
    show ¬ Rule.code .impureDependencies = "PMC002"
    decide
  have hnone : ∀ items : List RawText,
    (if items.isEmpty then []
     else [d.finding .impureDependencies items]).filter (fun x => x.code =
        "PMC002") = [] := by
    intro items
    split <;> simp [hother]
  unfold findings
  simp only [List.filter_append, hnone]

end Trusted

-- ======================================================== further marks

namespace Registry

variable {r r' : Registry} {d e : Definition} {name file : String} {k : Nat}

/-- A registry with further marks: some unmarked records have got one, with
or without the wish to skip the check. -/
def MarksMore (r r' : Registry) : Prop :=
  ∀ name, r'.get? name = r.get? name ∨
    ∃ d force, r.get? name = some d ∧ d.marked = false ∧
    r'.get? name = some (d.mark force)

theorem MarksMore.get?_of_marked (h : r.MarksMore r')
    (hd : r.get? name = some d) (hmarked : d.marked = true) :
    r'.get? name = some d := by
  rcases h name with hsame | ⟨d', force, hd', hunmarked, -⟩
  · rw [hsame, hd]
  · obtain rfl : d = d' := Option.some.inj (hd.symm.trans hd')
    rw [hmarked] at hunmarked
    cases hunmarked

theorem MarksMore.keyed (h : r.MarksMore r') (hkeyed : r.Keyed) :
    r'.Keyed := by
  intro name d hd
  rcases h name with hsame | ⟨d', force, hd', -, hmark⟩
  · exact hkeyed name d (hsame ▸ hd)
  · obtain rfl : d'.mark force = d := Option.some.inj (hmark.symm.trans hd)
    exact hkeyed name d' hd'

theorem MarksMore.mem_keys (h : r.MarksMore r') :
    name ∈ r'.keys ↔ name ∈ r.keys := by
  rw [Map.mem_keys_iff, Map.mem_keys_iff]
  rcases h name with hsame | ⟨d, force, hd, -, hmark⟩
  · rw [hsame]
  · rw [hd, hmark]
    rfl

/-- Where something marked that is no protocol stood above a name, there
still does, at the same place or nearer. -/
theorem MarksMore.exists_markedAbove (h : r.MarksMore r')
    (hprotocols : ∀ name d, r.get? name = some d → d.protocol = true →
      d.marked = true)
    (habove : r.MarkedAbove file name k e) (hkind : e.protocol = false) :
    ∃ j e', r'.MarkedAbove file name j e' ∧ e'.protocol = false := by
  induction k generalizing name with
  | zero =>
      obtain ⟨he, hfile, hmarked⟩ := markedAbove_zero.1 habove
      exact ⟨0, e, markedAbove_zero.2 ⟨h.get?_of_marked he hmarked, hfile,
        hmarked⟩, hkind⟩
  | succ k ih =>
      obtain ⟨⟨s, hs, hfile, hunmarked⟩, hnext⟩ := markedAbove_succ.1 habove
      rcases h name with hsame | ⟨s', force, hs', -, hmark⟩
      · obtain ⟨j, e', habove', hkind'⟩ := ih hnext
        exact ⟨j + 1, e',
          markedAbove_succ.2 ⟨⟨s, hsame ▸ hs, hfile, hunmarked⟩, habove'⟩,
          hkind'⟩
      · -- a record that has just been marked takes over, and it is no protocol
        obtain rfl : s = s' := Option.some.inj (hs.symm.trans hs')
        refine ⟨0, s.mark force, markedAbove_zero.2 ⟨hmark, hfile, rfl⟩, ?_⟩
        cases hprotocol : s.protocol with
        | false => exact hprotocol
        | true =>
            rw [hprotocols name s hs hprotocol] at hunmarked
            cases hunmarked

/-- What is accepted stays so. -/
theorem MarksMore.mem_accepted (h : r.MarksMore r') (hkeyed : r.Keyed)
    (hempty : "" ∉ r.keys)
    (hprotocols : ∀ name d, r.get? name = some d → d.protocol = true →
      d.marked = true)
    (haccepted : name ∈ r.accepted) : name ∈ r'.accepted := by
  have hempty' : "" ∉ r'.keys := fun hmem => hempty (h.mem_keys.1 hmem)
  rw [mem_accepted_iff (h.keyed hkeyed) hempty']
  obtain ⟨k, file, e, habove, rfl | hkind⟩ :=
    (mem_accepted_iff hkeyed hempty).1 haccepted
  · obtain ⟨he, hfile, hmarked⟩ := markedAbove_zero.1 habove
    exact ⟨0, file, e,
      markedAbove_zero.2 ⟨h.get?_of_marked he hmarked, hfile, hmarked⟩,
      Or.inl rfl⟩
  · obtain ⟨j, e', habove', hkind'⟩ :=
      h.exists_markedAbove hprotocols habove hkind
    exact ⟨j, file, e', habove', Or.inr hkind'⟩

theorem marksMore_insert (hd : r.get? name = some d)
    (hunmarked : d.marked = false) (force : Bool) :
    r.MarksMore (r.insert name (d.mark force)) := by
  intro other
  rw [Map.get?_insert]
  split
  next hother => exact Or.inr ⟨d, force, hother ▸ hd, hunmarked, rfl⟩
  next => exact Or.inl rfl

-- ============================================================ findings

/-- The findings about the calls of a name are those about its record,
whatever is trusted. -/
theorem filter_calls_verdict (hkeyed : r.Keyed) (hd : r.get? name = some d)
    (library : List String) :
    (r.verdict library).filter (fun x => x.module = name ∧ x.code = "PMC002")
      = if d.marked &&
        !d.forced then (d.findings {} []).filter (fun x => x.code = "PMC002")
        else [] := by
  have hown : (r.verdict library).filter (fun x => x.module = name ∧
      x.code = "PMC002")
      = ((r.verdict library).filter (fun x => x.module = name)).filter
          (fun x => x.code = "PMC002") := by
    rw [List.filter_filter]
    simp only [Bool.decide_and, Bool.and_comm]
  rw [hown, filter_verdict hkeyed, hd, Option.toList_some, List.filter_cons]
  split
  · rw [List.filter_nil, List.flatMap_singleton]
    exact d.filter_call_findings {} r.accepted [] library
  · rfl

/-- Trusting more never creates findings elsewhere. When unmarked records of
a registry whose protocols are all marked get marks, and the library gets
entries, every accepted name stays accepted. A record that was marked
before has a finding about its dependencies only if it had one, which
listed all that is listed now, and its finding about calls is the same. -/
theorem trusting_more_adds_no_findings (hkeyed : r.Keyed)
    (hempty : "" ∉ r.keys)
    (hprotocols : ∀ name d, r.get? name = some d → d.protocol = true →
      d.marked = true)
    {library library' : List String} (hlibrary : library ⊆ library')
    (hmarks : r.MarksMore r') :
    (∀ name ∈ r.accepted, name ∈ r'.accepted) ∧
    ∀ name d, r.get? name = some d → d.marked = true →
      (∀ x' ∈ r'.verdict library', x'.module = name → x'.code = "PMC001" →
        ∃ x ∈ r.verdict library, x.module = name ∧ x.code = "PMC001" ∧
          x'.details.Sublist x.details) ∧
      (r'.verdict library').filter (fun x => x.module = name ∧
        x.code = "PMC002")
        = (r.verdict library).filter (fun x => x.module = name ∧
          x.code = "PMC002") := by
  have hkeyed' := hmarks.keyed hkeyed
  have haccepted : ∀ name ∈ r.accepted, name ∈ r'.accepted := fun name hname =>
    hmarks.mem_accepted hkeyed hempty hprotocols hname
  refine ⟨haccepted, fun name d hd hmarked => ?_⟩
  have hd' := hmarks.get?_of_marked hd hmarked
  constructor
  · rintro x' hx' rfl hcode
    obtain ⟨e, he, -, hforced, hfinding⟩ := (mem_verdict hkeyed').1 hx'
    obtain rfl : d = e := Option.some.inj (hd'.symm.trans he)
    rcases Definition.mem_findings.1 hfinding
      with ⟨⟨y, hy, huntrusted⟩, rfl⟩ | ⟨-, rfl⟩
    · have huntrusted :=
        isTrusted_eq_false_of_subset haccepted hlibrary huntrusted
      refine ⟨d.finding .impureDependencies
        (d.untrusted r.accepted library).toList, ?_, rfl, rfl,
        d.untrusted_sublist haccepted hlibrary⟩
      exact (mem_verdict hkeyed).2 ⟨d, hd, hmarked, hforced,
        Definition.mem_findings.2 (Or.inl ⟨⟨y, hy, huntrusted⟩, rfl⟩)⟩
    · have hother : Rule.code .impureCalls = "PMC001" := hcode
      exact absurd hother (by decide)
  · rw [filter_calls_verdict hkeyed' hd', filter_calls_verdict hkeyed hd]

/-- A marked file that needs `os` and a class of a file that is not marked,
and a protocol. -/
def bench : Registry := .ofList [
  ("app.core", {
    name := "app.core", filename := "app/core.py", line := 1, marked := true
    dependencies := .ofList ["os", "app.tool.Saw"], calls :=
      [("datetime", "now")] }),
  ("app.tool", { name := "app.tool", filename := "app/tool.py", line := 1 }),
  ("app.tool.Saw",
    { name := "app.tool.Saw", filename := "app/tool.py", line := 3 }),
  ("app.tool.Cutter", {
    name := "app.tool.Cutter", filename := "app/tool.py", line :=
      5, marked := true
    protocol := true })]

/-- The same, with a mark for the other file. -/
def retooledBench : Registry :=
  bench.insert "app.tool"
    (Definition.mark { name := "app.tool",
                       filename := "app/tool.py",
                       line := 1 } true)

/-- Of the two untrusted dependencies of the file one is left, and it was
listed before. -/
theorem retooledBench_findings :
    bench.Keyed ∧ "" ∉ bench.keys ∧ bench.MarksMore retooledBench ∧
    "app.tool.Cutter" ∈ retooledBench.accepted ∧
    (∃ x ∈ bench.verdict [], x.module = "app.core" ∧ x.code = "PMC001" ∧
      [("os" : RawText)].Sublist x.details) ∧
    (retooledBench.verdict ["json"]).filter
        (fun x => x.module = "app.core" ∧ x.code = "PMC002")
      = (bench.verdict []).filter (fun x => x.module = "app.core" ∧
        x.code = "PMC002") := by
  have hkeyed : bench.Keyed := keyed_of_entries (by decide)
  have hempty : "" ∉ bench.keys := by decide
  have hprotocols : ∀ name d, bench.get? name = some d → d.protocol = true →
      d.marked = true := by
    have hentries : ∀ x ∈ bench.entries, x.2.protocol = true →
        x.2.marked = true := by decide
    intro name d hd
    exact hentries (name, d) (Map.mem_entries_iff.2 hd)
  have hmarks : bench.MarksMore retooledBench := marksMore_insert rfl rfl true
  obtain ⟨haccepted, hfindings⟩ :=
    trusting_more_adds_no_findings hkeyed hempty hprotocols
    (List.nil_subset ["json"]) hmarks
  obtain ⟨hdependencies, hcalls⟩ := hfindings "app.core" _ rfl rfl
  refine ⟨hkeyed, hempty, hmarks, haccepted _ (by decide), ?_, hcalls⟩
  have hleft : ∃ x' ∈ retooledBench.verdict ["json"], x'.module = "app.core" ∧
      x'.code = "PMC001" ∧ x'.details = [("os" : RawText)] := by
    decide
  obtain ⟨x', hx', hmodule, hcode, hdetails⟩ := hleft
  rw [← hdetails]
  exact hdependencies x' hx' hmodule hcode

end Registry

end Purity
