/-
Inherited purity and what answers for it. An unmarked class is accepted
because the walk outwards ends at a marked definition, whose own check is
meant to cover the class. The check does cover it where everything in the
class that is rejected is also referred to by the text of the marked
definition, and only there (`covers_iff`).

Two things can come in between. The registry knows definitions by name,
so the text of the marked definition need not be the one that the class
stands in. And where it is, the two texts are read with different
aliases: the class puts its own imports first, the definition around it
takes the first import of the whole text. Imports are covered all the
same (`RefersTo.of_within`), calls only where the two readings meet.
-/
import Mathlib.Data.List.Permutation
import Purity.Proofs.Record

namespace Purity

-- ============================================================ the climb

namespace Registry

variable {r : Registry} {d e : Definition}

/-- A walk outwards that ends at a definition ends at a registered one that
is marked. -/
theorem get?_of_climb (h : r.Keyed) {steps : Nat} (hd : r.get? d.name = some d)
    (hclimb : r.climb steps d = .marked e) :
    r.get? e.name = some e ∧ e.marked = true := by
  induction steps generalizing d with
  | zero => cases hclimb
  | succ steps ih =>
      unfold climb at hclimb
      split at hclimb
      next hmarked =>
        cases hclimb
        exact ⟨hd, hmarked⟩
      next =>
        split at hclimb
        next => cases hclimb
        next around haround =>
          split at hclimb
          next =>
            refine ih ?_ hclimb
            rw [h _ _ haround]
            exact haround
          next => cases hclimb

/-- An unmarked name is accepted because of a marked definition around it
that is no protocol. -/
theorem exists_climb_of_accepted {name : String} (hd : r.get? name = some d)
    (hunmarked : d.marked = false) (haccepted : name ∈ r.accepted) :
    ∃ e, r.climb (d.name.length + 1) d = .marked e ∧ e.protocol = false := by
  obtain ⟨d', hd', hisAccepted⟩ := mem_accepted.1 haccepted
  have hsame : d' = d := Option.some.inj (hd'.symm.trans hd)
  simp only [isAccepted, hsame, hunmarked, Bool.false_or] at hisAccepted
  split at hisAccepted
  next e hclimb => exact ⟨e, hclimb, by simpa using hisAccepted⟩
  next => cases hisAccepted

end Registry

-- ============================================================ nested texts

/-- The imports of a text, and the calls that import, are those of every
text around it. Of the calls of functions only the paths are. -/
theorem Node.RefersTo.of_within {c : Context} {aliases outer : List Alias}
    {m n : Node} {x : RawText} (h : m.RefersTo c aliases x)
    (hin : m.Within n) :
    n.RefersTo c outer x ∨ ∃ path, m.Calls c path ∧
    x = Alias.resolve aliases path := by
  cases h with
  | imported hs himports => exact Or.inl (.imported (hs.trans hin) himports)
  | importCall hcall hpath hmem =>
      exact Or.inl (.importCall (hcall.trans hin) hpath hmem)
  | called hcall => exact Or.inr ⟨_, hcall, rfl⟩

-- ============================================================ coverage

/-- Does the finding about one definition list every dependency of another
that is not trusted? -/
def Report.Covers (report : Report) (config : Config)
    (inner outer : Definition) : Prop :=
  ∀ x ∈ inner.dependencies,
    isTrusted x report.registry.accepted config.library = false →
    report.Blames outer.name x

section Inherited

variable {config : Config} {files : List Source} {name : String}
    {d e : Definition}

/-- A definition is covered by another one exactly when the text at the
origin of the other refers to everything rejected that its own does. -/
theorem covers_iff {f : Source} {v : Visit} {d' : Definition}
    (hdeclared : (f.context config (definedNames files)).declared? v = some d')
    (hbare : d'.bare = d.bare) (hprotocol : d.protocol = false)
    {Outer : RawText → Prop}
    (hblames : ∀ x, (runChecks config files).1.Blames e.name x ↔
      Outer x ∧ (runChecks config files).1.Rejects config x) :
    (runChecks config files).1.Covers config d e ↔
      ∀ x, (runChecks config files).1.Rejects config x →
        (f.context config (definedNames files)).RefersAt v x → Outer x := by
  have hinner :=
    fun x => rejected_dependency_iff (x := x) hdeclared hbare hprotocol
  constructor
  · intro hcovers x hrejects hrefers
    obtain ⟨hx, htrusted⟩ := (hinner x).2 ⟨hrefers, hrejects⟩
    exact ((hblames x).1 (hcovers x hx htrusted)).1
  · intro hall x hx htrusted
    obtain ⟨hrefers, hrejects⟩ := (hinner x).1 ⟨hx, htrusted⟩
    exact (hblames x).2 ⟨hall x hrejects hrefers, hrejects⟩

/-- Purity that is inherited is covered by the check of the definition that
it comes from, exactly when every rejected name that the inner text refers
to is also one that the outer text refers to, each text read with the
aliases of its own. Where the inner text stands in the outer one, the
imports in it are always covered, and it comes down to its calls: a
rejected name that one of them stands for has to be one that the outer
text refers to. -/
theorem inherited_purity_covered_iff
    (hd : (runChecks config files).1.registry.get? name = some d)
    (hunmarked : d.marked = false)
    (haccepted : name ∈ (runChecks config files).1.registry.accepted) :
    ∃ e f v g w,
      let report := (runChecks config files).1
      let inner := f.context config (definedNames files)
      let outer := g.context config (definedNames files)
      report.registry.climb (d.name.length + 1) d = .marked e ∧
      origin? config files name = some (f, v) ∧
      origin? config files e.name = some (g, w) ∧
      (e.forced = false →
        (report.Covers config d e ↔
          ∀ x, report.Rejects config x → inner.RefersAt v x →
          outer.RefersAt w x) ∧
        (g = f → w.node ∈ v.around →
          (∀ s x, (Node.stmt s).Within v.node →
            s.Imports f.package (definedNames files) x →
            report.Rejects config x → report.Blames e.name x) ∧
          (report.Covers config d e ↔
            ∀ path, v.node.Calls inner path →
              report.Rejects config (Alias.resolve (inner.aliasesAt v) path) →
              outer.RefersAt w
                (Alias.resolve (inner.aliasesAt v) path)))) := by
  have hkeyed := keyed_runChecks config files
  obtain ⟨e, hclimb, hkind⟩ :=
    Registry.exists_climb_of_accepted hd hunmarked haccepted
  have hself : (runChecks config files).1.registry.get? d.name = some d := by
    rw [hkeyed _ _ hd]
    exact hd
  obtain ⟨he, hmarked⟩ := Registry.get?_of_climb hkeyed hself hclimb
  obtain ⟨f, v, d', horigin, hdeclared, hbare, hrecord⟩ := exists_origin hd
  obtain ⟨g, w, e', houterOrigin, houterDeclared, houterBare, -⟩ :=
    exists_origin he
  have hprotocol : d.protocol = false := by
    by_contra hne
    have hmarked := Context.marked_of_protocol hrecord (by simpa using hne)
    rw [hunmarked] at hmarked
    cases hmarked
  refine ⟨e, f, v, g, w, hclimb, horigin, houterOrigin, ?_⟩
  intro hforced
  have hblames := fun x =>
    blames_iff (x := x) he hmarked hforced houterDeclared houterBare hkind
  have hcovers := covers_iff hdeclared hbare hprotocol hblames
  refine ⟨hcovers, ?_⟩
  rintro rfl haround
  have hwithin : v.node.Within w.node := by
    rcases Node.within_of_mem_around (mem_visits_of_origin? horigin) haround
      with hnil | hin
    · cases hnil
    · exact hin.1
  constructor
  · intro s x hs himports hrejects
    exact (hblames x).2 ⟨.imported (hs.trans hwithin) himports, hrejects⟩
  · -- what is not a call of the inner text is in the outer text as well
    rw [hcovers]
    constructor
    · intro hall path hpath hrejects
      exact hall _ hrejects (.called hpath)
    · intro hcalls x hrejects hrefers
      rcases hrefers.of_within hwithin with hcovered | ⟨path, hpath, rfl⟩
      · exact hcovered
      · exact hcalls path hpath hrejects

end Inherited

-- ====================================================== a shadowed alias

/-- A class that calls `tool.sax.parse`, where its own `tool` is `xml`. -/
def readerClass : Stmt :=
  .classDef ⟨3, 5, 0⟩ "Reader" [] [] [
    importStmt 4 4 "xml" (some "tool"),
    .expression ⟨5, 5, 4⟩ (.call ⟨5, 5, 4⟩
      (.member ⟨5, 5, 4⟩ (.member ⟨5, 5, 4⟩ (.name ⟨5, 5, 4⟩ "tool") "sax")
        "parse") [] [])] []

/-- A marked file with the class in it, where `tool` is `json` before the
class comes. -/
def shadowing : Source where
  path := ⟨.relative, ["app", "core.py"]⟩
  moduleName := "app.core"
  package := "app"
  tree := ⟨[markerStmt 1, importStmt 2 0 "json" (some "tool"), readerClass]⟩

/-- Settings that accept `xml` and all of `json`, but not what is in `xml`. -/
def lenient : Config where
  extraPure := ["xml", "json.*"]

/-- The class depends on `xml.sax`, which is rejected; for the file the same
call stands for `json.sax`, and its check finds nothing. -/
theorem shadowed_alias_not_covered :
    ∃ d e, (runChecks lenient [shadowing]).1.registry.get? "app.core.Reader" =
      some d ∧
      d.marked = false ∧
      "app.core.Reader" ∈ (runChecks lenient [shadowing]).1.registry.accepted ∧
      (runChecks lenient [shadowing]).1.registry.climb (d.name.length + 1) d =
        .marked e ∧
      e.forced = false ∧
      ¬ (runChecks lenient [shadowing]).1.Covers lenient d e := by
  let c := shadowing.context lenient (definedNames [shadowing])
  have hregistered :
      ((runChecks lenient [shadowing]).1.registry.get? "app.core.Reader").any
      (fun d => !d.marked) = true := by
    decide +kernel
  have hmarks : ∀ x ∈ (runChecks lenient [shadowing]).1.registry.entries,
      x.2.marked = true → x.1 = "app.core" ∧ x.2.forced = false := by
    decide +kernel
  have haccepted : "app.core.Reader" ∈
      (runChecks lenient [shadowing]).1.registry.accepted := by
    decide +kernel
  obtain ⟨d, hd, hunmarked⟩ := (Option.any_eq_true _ _).1 hregistered
  rw [Bool.not_eq_true'] at hunmarked
  obtain ⟨e, f, v, g, w, hclimb, hinner, houter, hcovers⟩ :=
    inherited_purity_covered_iff hd hunmarked haccepted
  have hkeyed := keyed_runChecks lenient [shadowing]
  have hself : (runChecks lenient [shadowing]).1.registry.get? d.name =
      some d := by
    rw [hkeyed _ _ hd]
    exact hd
  obtain ⟨he, hmarked⟩ := Registry.get?_of_climb hkeyed hself hclimb
  obtain ⟨hname, hforced⟩ :=
    hmarks (e.name, e) (Map.mem_entries_iff.2 he) hmarked
  have hname : e.name = "app.core" := hname
  -- the two texts are the class and the file, and they do not read alike
  have hclass : origin? lenient [shadowing] "app.core.Reader"
      = some (shadowing, ⟨.stmt readerClass, [shadowing.tree.node]⟩) := by
    cbv
  have hfile : origin? lenient [shadowing] "app.core"
      = some (shadowing, ⟨shadowing.tree.node, []⟩) := by
    have hnamed : shadowing.tree.WellNamed := by decide +kernel
    have hplaced : shadowing.tree.WellPlaced := by decide +kernel
    have hfiles : [shadowing] = [] ++ shadowing :: [] := rfl
    refine origin?_of_last hfiles ?_
      (Context.site?_moduleName hnamed hplaced.classesInside)
    intro g hg
    cases hg
  rw [hclass] at hinner
  rw [hname, hfile] at houter
  cases hinner
  cases houter
  refine ⟨d, e, hd, hunmarked, haccepted, hclimb, hforced, ?_⟩
  intro hcovered
  have hclassDeps : ((Node.stmt readerClass).dependencies c
      (c.stackAt ⟨.stmt readerClass, [shadowing.tree.node]⟩).flatten).toList
      = ["xml", "xml.sax"] := by
    cbv
  have hfileDeps : (shadowing.tree.node.dependencies c []).toList
      = ["json", "json.sax", "xml"] := by
    cbv
  have hrejects :
      (runChecks lenient [shadowing]).1.Rejects lenient "xml.sax" := by
    refine ⟨⟨by decide, by decide, by decide⟩, ?_⟩
    decide +kernel
  have hclassRefers :
      c.RefersAt ⟨.stmt readerClass, [shadowing.tree.node]⟩ "xml.sax" := by
    refine (Node.mem_dependencies.1 ?_).2
    show ("xml.sax" : RawText) ∈ SortedSet.toList _
    rw [hclassDeps]
    decide
  have hfileRefers :=
    ((hcovers hforced).1.1 hcovered) "xml.sax" hrejects hclassRefers
  have hlisted :
      ("xml.sax" : RawText) ∈ (shadowing.tree.node.dependencies c []).toList :=
    Node.mem_dependencies.2 ⟨by decide, hfileRefers⟩
  rw [hfileDeps] at hlisted
  exact absurd hlisted (by decide)

end Purity
