/-
Who answers for an impure call. The calls that wait at the end of a walk
are charged one after the other, and the definition that a call is
charged to is looked up in the registry as it is by then. Charging adds
to the calls of a record and leaves the rest of it alone, and a look-up
reads nothing but marks and protocols, so the order of the charges does
not matter to it: every call goes to the name that `owner` gives in the
final registry, and the calls of a name are those that it owns, in the
order of the walk.

`owner` is the rule as such, said over all the beginnings of the name of
a scope; the collector finds the same name by dropping one segment after
the other (`map_fst_owner?`). A call without an owner is made directly in
a protocol, since the file itself is always around its functions.
-/
import Purity.Proofs.Collector
import Purity.Proofs.Map
import Purity.Proofs.Scope

namespace Purity

-- =============================================================== owners

namespace Registry

/-- The registered names around a scope, the longest first. -/
def around (r : Registry) (scope : String) : List String :=
  (Name.dottedPrefixes scope).filter fun name => (r.get? name).isSome

/-- The registered names around a scope up to the nearest protocol. -/
def inReach (r : Registry) (scope : String) : List String :=
  (r.around scope).takeWhile fun name => !(r.get? name).any Definition.protocol

/-- The name that answers for the calls in a scope: the longest one in
reach that is marked, else the longest one in reach. -/
def owner (r : Registry) (scope : String) : Option String :=
  ((r.inReach scope).find? fun name => (r.get? name).any Definition.marked).or
    (r.inReach scope).head?

/-- Only marks and protocols matter to who answers for a call. -/
theorem owner_congr {r r' : Registry}
    (h : ∀ name, (r'.get? name).map (fun d => (d.protocol, d.marked))
      = (r.get? name).map fun d => (d.protocol, d.marked)) (scope : String) :
    owner r' scope = owner r scope := by
  have hsome : ∀ name, (r'.get? name).isSome = (r.get? name).isSome := by
    intro name
    simpa using congrArg Option.isSome (h name)
  have hprotocol : ∀ name, (r'.get? name).any Definition.protocol
      = (r.get? name).any Definition.protocol := by
    intro name
    have := congrArg (Option.any Prod.fst) (h name)
    rwa [Option.any_map, Option.any_map] at this
  have hmarked : ∀ name, (r'.get? name).any Definition.marked
      = (r.get? name).any Definition.marked := by
    intro name
    have := congrArg (Option.any Prod.snd) (h name)
    rwa [Option.any_map, Option.any_map] at this
  unfold owner inReach around
  simp only [hsome, hprotocol, hmarked]

/-- No name answers exactly when the nearest registered name around the
scope is a protocol, as long as there is one. -/
theorem owner_eq_none {r : Registry} {scope : String}
    (h : r.around scope ≠ []) :
    owner r scope = none ↔
      ∃ name d, (r.around scope).head? = some name ∧ r.get? name = some d ∧
        d.protocol = true := by
  obtain ⟨name, names, hnames⟩ := List.exists_cons_of_ne_nil h
  have hmem : name ∈ r.around scope := by
    rw [hnames]
    exact List.mem_cons_self
  obtain ⟨d, hd⟩ := Option.isSome_iff_exists.1 (List.mem_filter.1 hmem).2
  unfold owner inReach
  rw [hnames, List.takeWhile_cons, hd]
  cases hprotocol : d.protocol with
  | true =>
      simp only [Option.any_some, hprotocol, Bool.not_true, Bool.false_eq_true,
        if_false]
      exact ⟨fun _ => ⟨name, d, rfl, hd, hprotocol⟩, fun _ => rfl⟩
  | false =>
      simp only [Option.any_some, hprotocol, Bool.not_false, if_true]
      constructor
      · intro hnone
        rw [Option.or_eq_none_iff] at hnone
        cases hnone.2
      · rintro ⟨name', d', hhead, hd', hprotocol'⟩
        cases hhead
        rw [hd] at hd'
        cases hd'
        rw [hprotocol] at hprotocol'
        cases hprotocol'

end Registry

-- ==================================================== the collector's owner

namespace Collector

variable {r : Registry}

/-- What can answer for a scope is registered under a name around it. -/
theorem of_mem_answerable {scope : String} {x : String × Definition}
    (hx : x ∈ answerable r scope) :
    x.1 ∈ Name.outer scope ∧ r.get? x.1 = some x.2 := by
  unfold answerable at hx
  have hx := (List.takeWhile_sublist _).subset hx
  obtain ⟨name, houter, hname⟩ := List.mem_filterMap.1 hx
  obtain ⟨d, hd, rfl⟩ := Option.map_eq_some_iff.1 hname
  exact ⟨houter, hd⟩

/-- The definitions that can answer for a scope have the names in reach. -/
theorem map_fst_answerable (hempty : r.get? "" = none) (scope : String) :
    (answerable r scope).map Prod.fst = r.inReach scope := by
  unfold answerable Registry.inReach Registry.around
  rw [Name.outer_eq_filter_dottedPrefixes]
  induction Name.dottedPrefixes scope with
  | nil => rfl
  | cons name names ih =>
      rw [List.filter_cons, List.filter_cons]
      cases hget : r.get? name with
      | none =>
          -- a name that is not registered is passed over on both sides
          split
          · rw [List.filterMap_cons, hget]
            exact ih
          · exact ih
      | some d =>
          have hne : name ≠ "" := by
            rintro rfl
            rw [hempty] at hget
            cases hget
          rw [if_pos (by simpa using hne), List.filterMap_cons, hget]
          simp only [Option.map_some, Option.isSome_some, if_true,
            List.takeWhile_cons, Option.any_some, hget]
          split
          · rw [List.map_cons, ih]
          · rfl

/-- The collector finds the name that the rule gives. -/
theorem map_fst_owner? (hempty : r.get? "" = none) (scope : String) :
    (owner? r scope).map Prod.fst = r.owner scope := by
  have hmarked : (answerable r scope).find? (fun x => x.2.marked)
      = (answerable r scope).find?
          ((fun name => (r.get? name).any Definition.marked) ∘ Prod.fst) := by
    rw [← List.head?_filter, ← List.head?_filter]
    congr 1
    refine List.filter_congr ?_
    intro x hx
    simp [(of_mem_answerable hx).2]
  unfold owner? Registry.owner
  rw [← map_fst_answerable hempty, List.find?_map, List.head?_map, ← hmarked]
  simp only [Option.map_or]

theorem mem_answerable_of_owner? {scope : String} {x : String × Definition}
    (hx : owner? r scope = some x) : x ∈ answerable r scope := by
  unfold owner? at hx
  rcases Option.or_eq_some_iff.1 hx with hfound | ⟨-, hhead⟩
  · exact List.mem_of_find?_eq_some hfound
  · exact List.mem_of_head? hhead

theorem of_owner? {scope : String} {x : String × Definition}
    (hx : owner? r scope = some x) :
    x.1 ∈ Name.outer scope ∧ r.get? x.1 = some x.2 :=
  of_mem_answerable (mem_answerable_of_owner? hx)

-- ============================================================== charges

/-- Charging a call adds it to the record of its owner. -/
theorem get?_charge (s : Registry × List LogRecord)
    (hempty : s.1.get? "" = none) (call : PendingCall) (name : String) :
    (charge s call).1.get? name
      = if s.1.owner call.scope = some name
        then (s.1.get? name).map (·.addCall call.module call.function)
        else s.1.get? name := by
  unfold charge
  rw [← map_fst_owner? hempty]
  cases howner : owner? s.1 call.scope with
  | none => simp [howner]
  | some x =>
      simp only [howner, Option.map_some, Option.some.injEq, Map.get?_insert]
      by_cases hname : x.1 = name
      · rw [if_pos hname, if_pos hname.symm, ← hname, (of_owner? howner).2]
        rfl
      · have hne : ¬ name = x.1 := fun e => hname e.symm
        rw [if_neg hname, if_neg hne]

/-- Charging a call registers no name. -/
theorem keys_charge (s : Registry × List LogRecord) (call : PendingCall) :
    (charge s call).1.keys = s.1.keys := by
  unfold charge
  cases howner : owner? s.1 call.scope with
  | none => simp only [howner]
  | some x =>
      have hkey : x.1 ∈ s.1.keys := by
        rw [Map.mem_keys_iff, (of_owner? howner).2]
        rfl
      simp only [howner, Map.keys_insert, if_pos hkey]

/-- Charging a call leaves the owners of all calls as they are. -/
theorem owner_charge (s : Registry × List LogRecord)
    (hempty : s.1.get? "" = none) (call : PendingCall) (scope : String) :
    Registry.owner (charge s call).1 scope = s.1.owner scope := by
  refine Registry.owner_congr ?_ scope
  intro name
  rw [get?_charge s hempty]
  split
  · rw [Option.map_map]
    rfl
  · rfl

end Collector

/-- The record with further calls charged to it. -/
def Definition.withCalls (d : Definition) (calls : List PendingCall) :
    Definition :=
  { d with
    calls := d.calls ++ calls.map fun call => (call.module, call.function) }

namespace Collector

/-- After all charges, a record has the calls that its name owns, in
their order. -/
theorem get?_foldl_charge (calls : List PendingCall)
    (s : Registry × List LogRecord) (hempty : s.1.get? "" = none)
    (name : String) :
    (calls.foldl charge s).1.get? name
      = (s.1.get? name).map fun d => d.withCalls
          (calls.filter fun call => s.1.owner call.scope = some name) := by
  induction calls generalizing s with
  | nil => simp [Definition.withCalls]
  | cons call calls ih =>
      have hempty' : (charge s call).1.get? "" = none := by
        rw [get?_charge s hempty, hempty]
        simp
      rw [List.foldl_cons, ih _ hempty', get?_charge s hempty]
      simp only [owner_charge s hempty, List.filter_cons, decide_eq_true_eq]
      split
      · rw [Option.map_map]
        congr 1
        funext d
        simp [Definition.withCalls, Definition.addCall]
      · rfl

/-- Whoever owns the calls, charging them does nothing to a record but add
some of those whose scope continues its name. -/
theorem exists_withCalls_foldl_charge (calls : List PendingCall)
    (s : Registry × List LogRecord) (name : String) :
    ∃ charged : List PendingCall, charged.Sublist calls ∧
      (∀ call ∈ charged, name ∈ Name.outer call.scope) ∧
      (calls.foldl charge s).1.get? name =
        (s.1.get? name).map (·.withCalls charged) := by
  induction calls generalizing s with
  | nil =>
      refine ⟨[], List.Sublist.slnil, by simp, ?_⟩
      simp [Definition.withCalls]
  | cons call calls ih =>
      obtain ⟨charged, hsub, houter, hcharged⟩ := ih (charge s call)
      rw [List.foldl_cons, hcharged]
      unfold charge
      cases howner : owner? s.1 call.scope with
      | none => exact ⟨charged, hsub.cons call, houter, by simp only [howner]⟩
      | some x =>
          simp only [howner, Map.get?_insert]
          split
          next hname =>
            obtain ⟨haround, hget⟩ := of_owner? howner
            refine ⟨call :: charged, hsub.cons_cons call, ?_, ?_⟩
            · rw [hname]
              rw [hname] at houter
              exact List.forall_mem_cons.2 ⟨haround, houter⟩
            · rw [hname, hget]
              simp [Definition.withCalls, Definition.addCall]
          next => exact ⟨charged, hsub.cons call, houter, rfl⟩

theorem keys_foldl_charge (calls : List PendingCall)
    (s : Registry × List LogRecord) :
    (calls.foldl charge s).1.keys = s.1.keys := by
  induction calls generalizing s with
  | nil => rfl
  | cons call calls ih => rw [List.foldl_cons, ih, keys_charge]

theorem owner_foldl_charge (calls : List PendingCall)
    (s : Registry × List LogRecord) (hempty : s.1.get? "" = none)
    (scope : String) :
    Registry.owner (calls.foldl charge s).1 scope = s.1.owner scope := by
  refine Registry.owner_congr ?_ scope
  intro name
  rw [get?_foldl_charge calls s hempty, Option.map_map]
  rfl

end Collector

-- =========================================================== one file

namespace Context

variable {c : Context}

/-- In a file with a name nothing is registered under the empty name. -/
theorem get?_empty_survey (hname : c.moduleName ≠ "") :
    c.survey.registry.get? "" = none := by
  have hnames : ∀ {name d}, c.survey.registry.get? name = some d →
      d.name ≠ "" := by
    refine forall_survey (fun d => d.name ≠ "") ?_ fun d force h => h
    intro v _ d hd
    rcases declared?_cases hd
      with ⟨-, rfl⟩ | ⟨span, _, bases, _, _, _, scope, -, hscope, rfl⟩
    · exact hname
    · have hne := Module.scopeAt_name_ne hname (bodyAt?_eq_some.1 hscope)
      split <;> exact hne
  cases hget : c.survey.registry.get? "" with
  | none => rfl
  | some d => exact absurd (keyed_survey c _ _ hget) (hnames hget)

/-- A walk charges no call. -/
theorem calls_survey {name : String} {d : Definition}
    (hd : c.survey.registry.get? name = some d) : d.calls = [] := by
  refine forall_survey (fun d => d.calls = []) ?_ (fun d force h => h) hd
  intro v _ d hd
  obtain ⟨name, line, rfl | rfl⟩ := exists_eq_of_declared? hd
  · rfl
  · rfl

theorem registry_collect (c : Context) :
    c.collect.1.registry
      = (c.impureCalls.foldl Collector.charge
          (c.survey.registry, c.survey.log)).1 := by
  rw [← pending_survey]
  rfl

/-- The file itself is registered and is around its functions. -/
theorem around_ne_nil (hname : c.moduleName ≠ "") (hnamed : c.tree.WellNamed)
    {call : PendingCall} (hcall : call ∈ c.impureCalls) :
    Registry.around c.survey.registry call.scope ≠ [] := by
  obtain ⟨v, -, hv⟩ := List.mem_filterMap.1 hcall
  obtain ⟨-, e, -, hline⟩ := exists_call_of_impureCall? hv
  rcases hnamed.scopeAt_cases (functionAt?_eq_some.1 hline)
    with ⟨-, hfile⟩ | ⟨rest, hrest, hscope⟩
  · cases hfile
  · have haround : c.moduleName ∈ Name.dottedPrefixes call.scope := by
      rw [Name.mem_dottedPrefixes]
      exact ⟨rest, hscope.trans (Name.join_pair hname hrest)⟩
    exact List.ne_nil_of_mem
      (List.mem_filter.2 ⟨haround, isSome_get?_moduleName c⟩)

/-- No impure call is lost, charged twice or charged to the wrong name. In
a file with a name, whose definitions have names, the records after the
walk get the calls that their names own, in the order of the walk, and
keep everything else; and a call is dropped exactly when the nearest
registered name around its function is a protocol. -/
theorem calls_charged_to_owners (hname : c.moduleName ≠ "")
    (hnamed : c.tree.WellNamed) :
    c.collect.1.registry.keys = c.survey.registry.keys ∧
    (∀ name d, c.survey.registry.get? name = some d →
      c.collect.1.registry.get? name = some { d with
        calls := (c.impureCalls.filter fun call =>
            Registry.owner c.collect.1.registry call.scope = some name).map
          fun call => (call.module, call.function) }) ∧
    ∀ call ∈ c.impureCalls,
      (Registry.owner c.collect.1.registry call.scope = none ↔
        ∃ name d, (Registry.around c.collect.1.registry call.scope).head? =
          some name ∧
          c.collect.1.registry.get? name = some d ∧ d.protocol = true) := by
  have hempty : (c.survey.registry, c.survey.log).1.get? "" = none :=
    get?_empty_survey hname
  have hkeys : c.collect.1.registry.keys = c.survey.registry.keys := by
    rw [registry_collect]
    exact Collector.keys_foldl_charge _ _
  have howner : ∀ scope, Registry.owner c.collect.1.registry scope
      = Registry.owner c.survey.registry scope := by
    intro scope
    rw [registry_collect]
    exact Collector.owner_foldl_charge _ _ hempty scope
  refine ⟨hkeys, ?_, ?_⟩
  · intro name d hd
    simp only [howner]
    rw [registry_collect, Collector.get?_foldl_charge _ _ hempty, hd,
      Option.map_some]
    simp [Definition.withCalls, calls_survey hd]
  · intro call hcall
    refine Registry.owner_eq_none ?_
    have haround : Registry.around c.collect.1.registry call.scope
        = Registry.around c.survey.registry call.scope := by
      unfold Registry.around
      refine List.filter_congr ?_
      intro name _
      rw [Bool.eq_iff_iff, ← Map.mem_keys_iff, ← Map.mem_keys_iff, hkeys]
    rw [haround]
    exact around_ne_nil hname hnamed hcall

/-- A method that reads the clock, in the given class. -/
def clockClass (name : String) (bases : List Expr) (line : Int) : Stmt :=
  .classDef ⟨line, line + 1, 0⟩ name bases [] [
    .functionDef ⟨line + 1, line + 1, 4⟩ false "read"
      ⟨[], [], none, [], [], none, []⟩ [
      .expression ⟨line + 1, line + 1, 16⟩ (.call ⟨line + 1, line + 1, 16⟩
        (.member ⟨line + 1, line + 1, 16⟩
          (.name ⟨line + 1, line + 1, 16⟩ "datetime") "now")
        [] [])] [] none] []

/-- A file with a protocol and a class that both read the clock. -/
def clocks : Context :=
  Context.ofTree "pure_module" (.ofList [("datetime", ["now", "today"])])
    ⟨[clockClass "Clock" [.name ⟨1, 1, 12⟩ "Protocol"] 1,
      clockClass "Watch" [] 3]⟩
    "app.clocks" "app" "app/clocks.py" {}

theorem clocks_charged :
    clocks.moduleName ≠ "" ∧ clocks.tree.WellNamed ∧
    (∃ d, clocks.collect.1.registry.get? "app.clocks.Watch" = some d ∧
      d.calls = [("datetime", "now")]) ∧
    Registry.owner clocks.collect.1.registry "app.clocks.Clock.read" =
      none := by
  have hname : clocks.moduleName ≠ "" := by decide
  have hnamed : clocks.tree.WellNamed := by decide +kernel
  obtain ⟨-, hcalls, hdropped⟩ := calls_charged_to_owners hname hnamed
  refine ⟨hname, hnamed, ?_, ?_⟩
  · obtain ⟨d, hd⟩ : ∃ d, clocks.survey.registry.get? "app.clocks.Watch" =
        some d :=
      Option.isSome_iff_exists.1 (by decide +kernel)
    have howned : (clocks.impureCalls.filter fun call =>
        Registry.owner clocks.collect.1.registry call.scope
          = some "app.clocks.Watch").map (fun call =>
            (call.module, call.function))
        = [("datetime", "now")] := by
      decide +kernel
    exact ⟨_, hcalls _ d hd, howned⟩
  · obtain ⟨call, hcall, hscope⟩ : ∃ call ∈ clocks.impureCalls,
        call.scope = "app.clocks.Clock.read" := by
      decide +kernel
    rw [← hscope]
    refine (hdropped call hcall).2 ?_
    rw [hscope]
    obtain ⟨d, hd⟩ : ∃ d, clocks.collect.1.registry.get? "app.clocks.Clock" =
        some d :=
      Option.isSome_iff_exists.1 (by decide +kernel)
    have hprotocol : (clocks.collect.1.registry.get? "app.clocks.Clock").any
        Definition.protocol = true := by
      decide +kernel
    rw [hd] at hprotocol
    exact ⟨"app.clocks.Clock", d, by decide +kernel, hd, hprotocol⟩

end Context

end Purity
