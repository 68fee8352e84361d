/-
Where charged calls stand. A call waits with the name of the function that
its line is in, and who answers for it is found by dropping segments of
this name, not by going outwards in the tree. The two agree on names: what
is left of the name of a function when segments are dropped is made of its
first segments (`prefix_of_mem_outer`), and these name a place on the way
to the function (`exists_place_of_prefix`). So a call is charged to a name
that some file, class or function around the call bears (`exists_bearer`).

They need not agree on definitions. A function has no record, so a class
elsewhere may have the record of its name, and of two classes with one
name the last one keeps it. Only where nothing else bears the name is a
charged call sure to stand in the definition that it is charged to.

That calls stand inside the definitions whose lines they start on, and that
names have no dots, is assumed here and holds of every parsed file
(`Module.wellFormed_of_parse`).
-/
import Purity.Proofs.Marker

namespace Purity

/-- The first line of what has a record; a file starts on line 1. -/
def Node.firstLine (n : Node) : Int := (n.span?.map Span.line).getD 1

-- ============================================================== layout

namespace Module

/-- A call that starts on a line of a definition is part of it. -/
def CallsInside (m : Module) : Prop :=
  ∀ p q d k span, m.node.definitionAt? p = some d → m.node.at? q = some k →
    k.memberCall?.isSome = true → k.span? = some span →
    d.span.holds span.line = true → p <+: q

/-- Every class and every function has a name without dots. -/
def PlainlyNamed (m : Module) : Prop :=
  ∀ p d, m.node.definitionAt? p = some d → Name.Segment d.definedName

instance (m : Module) : Decidable m.PlainlyNamed :=
  decidable_of_iff _ forall_definitionAt?_iff.symm

theorem callsInside_iff {m : Module} :
    m.CallsInside ↔
    ∀ x ∈ m.node.placed, ∀ d ∈ x.2.definition?, ∀ y ∈ m.node.placed,
      y.2.memberCall?.isSome = true → ∀ span ∈ y.2.span?,
        d.span.holds span.line = true → x.1 <+: y.1 := by
  rw [← forall_definitionAt?_iff (P := fun p d => ∀ y ∈ m.node.placed,
    y.2.memberCall?.isSome = true → ∀ span ∈ y.2.span?,
      d.span.holds span.line = true → p <+: y.1)]
  constructor
  · rintro h p d hd ⟨q, k⟩ hy hcall span hspan
    exact h p q d k span hd (Node.mem_placed.1 hy) hcall hspan
  · intro h p q d k span hd hq hcall hspan
    exact h p d hd (q, k) (Node.mem_placed.2 hq) hcall span hspan

instance (m : Module) : Decidable m.CallsInside :=
  decidable_of_iff _ callsInside_iff.symm

end Module

-- ================================================ beginnings of a chain

theorem exists_of_mem_countedNames {around : Option Stmt} {ds : List Stmt}
    {name : String} (h : name ∈ countedNames around ds) :
    ∃ d ∈ ds, d.definedName = name := by
  induction ds generalizing around with
  | nil => cases h
  | cons d ds ih =>
      rw [countedNames, List.mem_append] at h
      rcases h with hhere | hbelow
      · split at hhere
        · cases hhere
        · exact ⟨d, List.mem_cons_self, (List.mem_singleton.1 hhere).symm⟩
      · obtain ⟨e, he, hname⟩ := ih hbelow
        exact ⟨e, List.mem_cons_of_mem d he, hname⟩

/-- The first names of a chain are the names of a beginning of the chain. -/
theorem exists_prefix_of_countedNames {around : Option Stmt} {ds : List Stmt}
    {names : List String} (h : names <+: countedNames around ds) :
    ∃ es, es <+: ds ∧ countedNames around es = names := by
  induction ds generalizing around names with
  | nil => exact ⟨[], List.nil_prefix, (List.prefix_nil.1 h).symm⟩
  | cons d ds ih =>
      rw [countedNames] at h
      split at h
      next hskip =>
        -- a function directly in a function adds no name
        obtain ⟨es, hes, hnames⟩ := ih h
        refine ⟨d :: es, List.cons_prefix_cons.2 ⟨rfl, hes⟩, ?_⟩
        rw [countedNames, if_pos hskip]
        exact hnames
      next hcount =>
        rcases List.prefix_cons_iff.1 h with rfl | ⟨rest, rfl, hrest⟩
        · exact ⟨[], List.nil_prefix, rfl⟩
        · obtain ⟨es, hes, hnames⟩ := ih hrest
          refine ⟨d :: es, List.cons_prefix_cons.2 ⟨rfl, hes⟩, ?_⟩
          rw [countedNames, if_neg hcount, hnames]
          rfl

/-- A beginning of the definitions on the way to a place is what is on the
way to one of them. -/
theorem Node.exists_place_of_prefix {n k : Node} {p : Place} {ds : List Stmt}
    (hp : n.at? p = some k) (h : ds <+: n.enclosing p) (hne : ds ≠ []) :
    ∃ q, q <+: p ∧ n.enclosing q = ds ∧ ∃ d, n.definitionAt? q = some d := by
  induction p generalizing n ds with
  | nil =>
      rw [enclosing_nil] at h
      cases hdef : n.definition? with
      | none =>
          rw [hdef] at h
          exact absurd (List.prefix_nil.1 h) hne
      | some d =>
          refine ⟨[], List.nil_prefix, ?_, d, hdef⟩
          rw [hdef] at h
          rw [enclosing_nil, hdef]
          rcases List.prefix_cons_iff.1 h with hnil | ⟨rest, rfl, hrest⟩
          · exact absurd hnil hne
          · rw [List.prefix_nil.1 hrest]
            rfl
  | cons i p ih =>
      obtain ⟨c, hc, hp⟩ := at?_cons_eq_some hp
      -- what lies below the first child on the way
      have hbelow : ∀ {es}, es <+: c.enclosing p → es ≠ [] →
          ∃ q, q <+: i :: p ∧ n.enclosing q = n.definition?.toList ++ es ∧
            ∃ d, n.definitionAt? q = some d := by
        intro es hes hesne
        obtain ⟨q, hq, rfl, d, hd⟩ := ih hp hes hesne
        refine ⟨i :: q, List.cons_prefix_cons.2 ⟨rfl, hq⟩, enclosing_cons q hc,
          d, ?_⟩
        rw [definitionAt?_cons q hc, hd]
      rw [enclosing_cons p hc] at h
      cases hdef : n.definition? with
      | none =>
          rw [hdef] at h hbelow
          exact hbelow h hne
      | some d =>
          rw [hdef] at h hbelow
          rcases List.prefix_cons_iff.1 h with hnil | ⟨es, rfl, hes⟩
          · exact absurd hnil hne
          · by_cases hesne : es = []
            · refine ⟨[], List.nil_prefix, ?_, d, hdef⟩
              rw [enclosing_nil, hdef, hesne]
              rfl
            · exact hbelow hes hesne

-- =========================================================== bearers

namespace Module

variable {m : Module}

/-- The names on the way to a place are segments. -/
theorem PlainlyNamed.segment (h : m.PlainlyNamed) {p : Place} {k : Node}
    (hp : m.node.at? p = some k) :
    ∀ x ∈ countedNames none (m.node.enclosing p), Name.Segment x := by
  intro x hx
  obtain ⟨d, hd, rfl⟩ := exists_of_mem_countedNames hx
  rw [Node.enclosing_eq_filterMap_inits hp] at hd
  obtain ⟨q, -, hq⟩ := List.mem_filterMap.1 hd
  exact h q d hq

end Module

namespace Context

variable {c : Context}

/-- Is there a file, class or function with the given name at a place? -/
def Bears (c : Context) (p : Place) (name : String) : Prop :=
  ∃ k, c.tree.node.at? p = some k ∧ Collector.opensScope k = true ∧
    c.qualified p = name

/-- The function that is found for a line has the name of the innermost
definition with this line. -/
theorem exists_definition_of_functionAt? (h : c.tree.WellPlaced) {line : Int}
    {scope : String} (hscope : c.functionAt? line = some scope) :
    ∃ p d, c.tree.node.definitionAt? p = some d ∧ d.span.holds line = true ∧
      c.qualified p = scope := by
  have hlexical := Module.eq_lexical_of_scopeAt (functionAt?_eq_some.1 hscope)
  have hne : c.tree.node.definitionsAround line ≠ [] := by
    intro hnil
    rw [hnil] at hlexical
    cases congrArg Scope.kind hlexical
  obtain ⟨e, he⟩ := List.exists_mem_of_ne_nil _ hne
  obtain ⟨q, -, hq⟩ := Node.exists_place_of_mem_definitionsAround he
  obtain ⟨p, d, hd, hline, hall⟩ := h.exists_innermost ⟨q, e, hq⟩
  have hat := (Node.definitionAt?_eq_some.1 hd).1
  rw [h.definitionsAround_eq hat hline hall] at hlexical
  exact ⟨p, d, hd, hline, (congrArg Scope.name hlexical).symm⟩

/-- A registered name that the name of a definition continues is borne by
something around the definition. -/
theorem exists_bearer (hnames : c.tree.PlainlyNamed) {p q : Place} {k n : Node}
    (hp : c.tree.node.at? p = some k) (hq : c.tree.node.at? q = some n)
    (houter : c.qualified q ∈ Name.outer (c.qualified p)) :
    ∃ r, r <+: p ∧ c.Bears r (c.qualified q) := by
  have hprefix :=
    Name.prefix_of_mem_outer (hnames.segment hq) (hnames.segment hp) houter
  obtain ⟨ds, hds, hsame⟩ := exists_prefix_of_countedNames hprefix
  have hname : (Scope.lexical c.moduleName ds).name = c.qualified q :=
    congrArg (fun names => Name.join (c.moduleName :: names)) hsame
  by_cases hne : ds = []
  · refine ⟨[], List.nil_prefix, c.tree.node, rfl, rfl, ?_⟩
    rw [← hname, hne, ← c.tree.enclosing_root]
    rfl
  · obtain ⟨r, hr, rfl, d, hd⟩ := Node.exists_place_of_prefix hp hds hne
    obtain ⟨hat, hdef⟩ := Node.definitionAt?_eq_some.1 hd
    exact ⟨r, hr, .stmt d, hat,
      Node.opensScope_of_definition? (Node.definition?_eq_some.2 ⟨rfl, hdef⟩),
      hname⟩

/-- A call whose function continues a registered name stands in something
that bears this name. -/
theorem exists_bearer_of_call (hplaced : c.tree.WellPlaced)
    (hcalls : c.tree.CallsInside) (hnames : c.tree.PlainlyNamed) {p q : Place}
    {k n : Node} {call : PendingCall}
    (hp : c.tree.node.at? p = some k) (hcall : c.impureCall? k = some call)
    (hq : c.tree.node.at? q = some n)
    (houter : c.qualified q ∈ Name.outer call.scope) :
    ∃ r, r <+: p ∧ c.Bears r (c.qualified q) := by
  obtain ⟨hmember, e, rfl, hscope⟩ := exists_call_of_impureCall? hcall
  obtain ⟨f, d, hd, hline, hname⟩ :=
    exists_definition_of_functionAt? hplaced hscope
  have hinside : f <+: p :=
    hcalls f p d _ _ hd hp (by rw [hmember]; rfl) rfl hline
  rw [← hname] at houter
  obtain ⟨r, hr, hbears⟩ :=
    exists_bearer hnames (Node.definitionAt?_eq_some.1 hd).1 hq houter
  exact ⟨r, hr.trans hinside, hbears⟩

-- ==================================================== places of charges

/-- The impure calls of a file, place by place. -/
theorem impureCalls_eq_filterMap_placed (c : Context) :
    c.impureCalls = c.tree.node.placed.filterMap fun x =>
      c.impureCall? x.2 := by
  unfold impureCalls
  rw [visits_eq_map_placed, List.filterMap_map]
  rfl

/-- Some of the calls of a file, taken in their order, have places in the
order of the walk. -/
theorem exists_places_of_calls {calls : List PendingCall}
    (h : calls.Sublist c.impureCalls) :
    ∃ xs : List (Place × Node), xs.Sublist c.tree.node.placed ∧
      xs.map (fun x => c.impureCall? x.2) = calls.map some := by
  rw [impureCalls_eq_filterMap_placed] at h
  obtain ⟨xs, hxs, rfl⟩ := List.sublist_filterMap_iff.1 h
  refine ⟨xs.filter fun x => (c.impureCall? x.2).isSome,
    List.filter_sublist.trans hxs, ?_⟩
  rw [List.map_filterMap_some_eq_filter_map_isSome, List.filter_map]
  rfl

/-- The calls of a record, place by place. The function that each is in
continues the name of the record. -/
theorem exists_charged_places {name : String} {d : Definition}
    (hd : c.collect.1.registry.get? name = some d) :
    ∃ xs : List (Place × Node), xs.Sublist c.tree.node.placed ∧
      xs.map (fun x => x.2.memberCall?) = d.calls.map some ∧
      ∀ x ∈ xs, ∃ call, c.impureCall? x.2 = some call ∧
      name ∈ Name.outer call.scope := by
  obtain ⟨e, charged, he, rfl, hsub, houter⟩ := exists_get?_survey hd
  obtain ⟨xs, hxs, hcharged⟩ := exists_places_of_calls hsub
  have hcall : ∀ x ∈ xs, ∃ call ∈ charged, c.impureCall? x.2 = some call := by
    intro x hx
    have hmem : c.impureCall? x.2 ∈ charged.map some := by
      rw [← hcharged]
      exact List.mem_map_of_mem hx
    obtain ⟨call, hmem, hsame⟩ := List.mem_map.1 hmem
    exact ⟨call, hmem, hsame.symm⟩
  refine ⟨xs, hxs, ?_, ?_⟩
  · have hcalls : (e.withCalls charged).calls
        = charged.map fun call => (call.module, call.function) := by
      show e.calls ++ _ = _
      rw [calls_survey he, List.nil_append]
    calc xs.map (fun x => x.2.memberCall?)
        = xs.map fun x => (c.impureCall? x.2).map fun call =>
          (call.module, call.function) := by
          refine List.map_congr_left ?_
          intro x hx
          obtain ⟨call, -, hsome⟩ := hcall x hx
          rw [hsome, (exists_call_of_impureCall? hsome).1]
          rfl
      _ = (charged.map some).map (Option.map fun call =>
        (call.module, call.function)) := by
          rw [← hcharged, List.map_map]
          rfl
      _ = (e.withCalls charged).calls.map some := by
          rw [hcalls, List.map_map, List.map_map]
          rfl
  · intro x hx
    obtain ⟨call, hmem, hsome⟩ := hcall x hx
    exact ⟨call, hsome, houter call hmem⟩

/-- A record has the first line of the definition that it is a record of. -/
theorem line_eq_of_lastNamed? (h : c.tree.WellPlaced) {name : String}
    {d : Definition} {q : Place} {k : Node}
    (hd : c.collect.1.registry.get? name = some d)
    (hfound : c.tree.lastNamed? c.moduleName name = some (q, k)) :
    d.line = k.firstLine := by
  obtain ⟨v, e, hsite, he, hbare⟩ := exists_site hd
  rw [site?_eq_map_lastNamed? h, hfound] at hsite
  obtain rfl : c.tree.node.visitAt (q, k) = v := Option.some.inj hsite
  show d.bare.line = _
  rw [← hbare]
  rcases declared?_cases he with
    ⟨⟨body, hnode⟩, rfl⟩ | ⟨span, name, bases, keywords, body, decorators,
      scope, hnode, -, rfl⟩
  · obtain rfl : k = .module body := hnode
    rfl
  · obtain rfl :
        k = .stmt (.classDef span name bases keywords body decorators) := hnode
    split <;> rfl

/-- Calls are charged to names of definitions around them. The calls of a
record are made at places of the file, each inside a file, class or
function that bears the name of the record. Where no other definition
bears this name, all of them are made inside the definition that the
record is of; otherwise they need not be. -/
theorem charged_calls_inside_bearers (hplaced : c.tree.WellPlaced)
    (hcalls : c.tree.CallsInside) (hnames : c.tree.PlainlyNamed)
    {name : String} {d : Definition}
    (hd : c.collect.1.registry.get? name = some d) :
    ∃ places : List Place, places.Sublist (c.tree.node.placed.map Prod.fst) ∧
      places.map (fun p => (c.tree.node.at? p).bind Node.memberCall?) =
        d.calls.map some ∧
      (∀ p ∈ places, ∃ q, q <+: p ∧ c.Bears q name) ∧
      ∃ q k, c.tree.lastNamed? c.moduleName name = some (q, k) ∧
      d.line = k.firstLine ∧
        ((∀ r, c.Bears r name → r = q) → ∀ p ∈ places, q <+: p) := by
  obtain ⟨xs, hxs, hmember, houter⟩ := exists_charged_places hd
  obtain ⟨q, k, hfound⟩ := exists_lastNamed?_of_get? hplaced hd
  obtain ⟨hq, hqual⟩ := Module.at?_of_lastNamed? hfound
  have hat : ∀ x ∈ xs, c.tree.node.at? x.1 = some x.2 := fun x hx =>
    Node.mem_placed.1 (hxs.subset hx)
  have hbearer : ∀ p ∈ xs.map Prod.fst, ∃ r, r <+: p ∧ c.Bears r name := by
    intro p hp
    obtain ⟨x, hx, rfl⟩ := List.mem_map.1 hp
    obtain ⟨call, hcall, hname⟩ := houter x hx
    rw [← hqual] at hname ⊢
    exact exists_bearer_of_call hplaced hcalls hnames (hat x hx) hcall hq hname
  refine ⟨xs.map Prod.fst, hxs.map _, ?_, hbearer, q, k, hfound,
    line_eq_of_lastNamed? hplaced hd hfound, ?_⟩
  · rw [← hmember, List.map_map]
    refine List.map_congr_left ?_
    intro x hx
    show (c.tree.node.at? x.1).bind Node.memberCall? = _
    rw [hat x hx, Option.bind_some]
  · intro honce p hp
    obtain ⟨r, hr, hbears⟩ := hbearer p hp
    rw [← honce r hbears]
    exact hr

/-- A function with a class that reads the clock in it, and behind them a
marked class with the name of the function. -/
def namesakes : Context :=
  Context.ofTree "pure_module" (.ofList [("datetime", ["now"])]) ⟨[
    .functionDef ⟨1, 3, 0⟩ false "make" ⟨[], [], none, [], [], none, []⟩
      [clockClass "Clock" [] 2] [] none,
    .classDef ⟨4, 5, 0⟩ "make" [] [] [markerLine 5 []] []]⟩
    "app.core" "app" "app/core.py" {}

/-- The class on line 4 is charged with a call that it does not hold. -/
theorem namesake_charged :
    namesakes.tree.WellPlaced ∧ namesakes.tree.CallsInside ∧
    namesakes.tree.PlainlyNamed ∧
    ∃ d p, namesakes.collect.1.registry.get? "app.core.make" = some d ∧
    d.line = 4 ∧
      d.calls = [("datetime", "now")] ∧
      (namesakes.tree.node.at? p).bind Node.memberCall? =
        some ("datetime", "now") ∧
      (∃ q, q <+: p ∧ namesakes.Bears q "app.core.make") ∧ ¬ [1] <+: p := by
  have hplaced : namesakes.tree.WellPlaced := by decide +kernel
  have hcalls : namesakes.tree.CallsInside := by decide +kernel
  have hnames : namesakes.tree.PlainlyNamed := by decide +kernel
  have hrecord : (namesakes.collect.1.registry.get? "app.core.make").map
      (fun d => (d.line, d.calls)) = some (4, [("datetime", "now")]) := by
    decide +kernel
  -- the one call of the file is not in the class
  have hapart : ∀ x ∈ namesakes.tree.node.placed, x.2.memberCall?.isSome =
      true →
      ¬ [1] <+: x.1 := by
    decide +kernel
  obtain ⟨d, hd, hrecord⟩ := Option.map_eq_some_iff.1 hrecord
  obtain ⟨hline, hcharged⟩ := Prod.mk.inj hrecord
  obtain ⟨places, -, hmember, hbearer, -⟩ :=
    charged_calls_inside_bearers hplaced hcalls hnames hd
  rw [hcharged] at hmember
  obtain ⟨p, rfl, hp⟩ := List.map_eq_singleton_iff.1 hmember
  obtain ⟨n, hn, hcall⟩ := Option.bind_eq_some_iff.1 hp
  refine ⟨hplaced, hcalls, hnames, d, p, hd, hline, hcharged, hp,
    hbearer p (by simp), ?_⟩
  exact hapart (p, n) (Node.mem_placed.2 hn) (by rw [hcall]; rfl)

end Context

end Purity
