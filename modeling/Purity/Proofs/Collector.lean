/- The collector as a fold. A walk over a file meets the nodes of the file
one after the other, each with the aliases of the definitions around it on
the stack, and nothing else that the walk keeps depends on where in the
tree it is. What a walk over a node puts on the stack it takes off again
(`enclosing_walk`). So a walk is a fold over visits (`survey_eq_foldl`),
and what it finds is said by three functions of a single visit:

- `declared?`, the fresh record that a definition registers;
- `marks?`, the name that a purity marker marks, and its wish to skip;
- `impureCall?`, the call that is kept for the end of the walk.

The registry after a walk is the fold of the first two (`registry_survey`)
and the kept calls are the third, in the order of the visits
(`pending_survey`). A record that is declared under a name that is taken
leaves a collision (`clash?`). The entry of one name only sees the visits
that declare or mark this name (`get?_enter`). Consumed by the proofs about
charged calls, about reports and about inherited purity.
-/
import Purity.Collector
import Purity.Proofs.Place

namespace Purity

-- ==================================================== what a visit does

/-- The module and the function that a node calls, when it calls the
function as a member of the module. -/
def Node.memberCall? : Node → Option (String × String)
  | .expr (.call _ (.member _ (.name _ base) function) ..) =>
      some (base, function)
  | _ => none

namespace Context

/-- The nodes of the file, as the walk meets them. -/
def visits (c : Context) : List Visit := c.tree.node.visits []

/-- The aliases that a visit sees of the definitions around it, the
innermost definition first. -/
def stackAt (c : Context) (v : Visit) : List (List Alias) :=
  (v.around.filter Collector.opensScope).map (Node.shownAliases c.package)

/-- The record that a definition registers under a name. Its text is all
that is below the node. -/
def recordOf (c : Context) (v : Visit) (name : String) (line : Int) :
    Definition :=
  Collector.definitionOf c name v.node line { enclosing := c.stackAt v }

/-- The file or class whose body holds a line. -/
def bodyAt? (c : Context) (line : Int) : Option String :=
  match c.tree.scopeAt c.moduleName line with
  | some ⟨.module, scope⟩ => some scope
  | _ => none

/-- The function that holds a line. -/
def functionAt? (c : Context) (line : Int) : Option String :=
  match c.tree.scopeAt c.moduleName line with
  | some ⟨.function, scope⟩ => some scope
  | _ => none

/-- The record that a visit registers. Files register under their own name
and classes under the scope of their line. -/
def declared? (c : Context) (v : Visit) : Option Definition :=
  match v.node with
  | .module _ => some (c.recordOf v c.moduleName 1)
  | .stmt (.classDef span _ bases ..) =>
      (c.bodyAt? span.line).map fun scope =>
        if hasProtocolBase bases then Collector.protocolOf c scope span.line
        else c.recordOf v scope span.line
  | _ => none

/-- The wish of a marker to skip the check, when it can be told. -/
def wish (keywords : List (Keyword Expr)) : Bool :=
  match markerForce keywords with
  | .ok (force, _) => force
  | .error _ => false

/-- The name that a visit marks, and the wish to skip its check. -/
def marks? (c : Context) (v : Visit) : Option (String × Bool) :=
  match v.node with
  | .stmt (.expression span (.call _ func _ keywords)) =>
      if func.path? = some c.marker then
        (c.bodyAt? span.line).map fun scope => (scope, wish keywords)
      else none
  | _ => none

/-- The impure call that a node is, if it is made in a function. -/
def impureCall? (c : Context) (n : Node) : Option PendingCall :=
  match n with
  | .expr (.call span (.member _ (.name _ module) function) ..) =>
      if function ∈ c.impureOf module then
        (c.functionAt? span.line).map fun scope => { scope, module, function }
      else none
  | _ => none

/-- The impure calls that the functions of a file make, in the order of
the walk. -/
def impureCalls (c : Context) : List PendingCall :=
  c.visits.filterMap fun v => c.impureCall? v.node

/-- The registry after a mark. -/
def enterMark (r : Registry) (mark : String × Bool) : Registry :=
  match r.get? mark.1 with
  | some d => r.insert d.name (d.mark mark.2)
  | none => r

/-- The registry after a visit. No visit both declares and marks. -/
def enter (c : Context) (r : Registry) (v : Visit) : Registry :=
  match c.declared? v, c.marks? v with
  | some d, _ => r.insert d.name d
  | none, some mark => enterMark r mark
  | none, none => r

end Context

/-- The collision that a record leaves when it is registered under a name
that is taken. -/
def Registry.clash? (r : Registry) (d : Definition) : Option Collision :=
  (r.get? d.name).map fun previous =>
    { name := d.name, replaced := previous, kept := d }

-- ============================================================= one step

namespace Collector

variable (c : Context)

/-- Dealing with the node of a visit, with the aliases of what is around
it on the stack. -/
def visit (s : Collector) (v : Visit) : Collector :=
  { s with enclosing := c.stackAt v }.meet c v.node

theorem registry_register (d : Definition) (s : Collector) :
    (s.register c d).registry = s.registry.insert d.name d := by
  unfold register
  split <;> rfl

theorem pending_register (d : Definition) (s : Collector) :
    (s.register c d).pending = s.pending := by
  unfold register
  split <;> rfl

theorem enclosing_register (d : Definition) (s : Collector) :
    (s.register c d).enclosing = s.enclosing := by
  unfold register
  split <;> rfl

theorem collisions_register (d : Definition) (s : Collector) :
    (s.register c d).collisions =
      s.collisions ++ (s.registry.clash? d).toList := by
  unfold register Registry.clash?
  cases s.registry.get? d.name with
  | none => exact (List.append_nil _).symm
  | some previous => rfl

theorem registry_markAround (keywords : List (Keyword Expr)) (line : Int)
    (s : Collector) :
    (s.markAround c keywords line).registry
      = match (c.bodyAt? line).map (·, Context.wish keywords) with
        | some mark => Context.enterMark s.registry mark
        | none => s.registry := by
  unfold markAround Context.bodyAt? Context.enterMark Context.wish
  rcases hscope : c.tree.scopeAt c.moduleName line with _ | ⟨_ | _, scope⟩
  case some.module =>
    cases hget : s.registry.get? scope with
    | none => simp [hget, note]
    | some d => cases hforce : markerForce keywords <;> simp [hget]
  all_goals simp [note]

theorem frame_markAround (keywords : List (Keyword Expr)) (line : Int)
    (s : Collector) :
    (s.markAround c keywords line).pending = s.pending ∧
      (s.markAround c keywords line).enclosing = s.enclosing ∧
      (s.markAround c keywords line).collisions = s.collisions := by
  unfold markAround
  simp only
  split
  · exact ⟨rfl, rfl, rfl⟩
  · split <;> exact ⟨rfl, rfl, rfl⟩

theorem defineClass_eq (n : Node) (name : String) (bases : List Expr)
    (line : Int) (s : Collector) :
    s.defineClass c n name bases line
      = match c.bodyAt? line with
        | some scope =>
            s.register c
              (if hasProtocolBase bases then protocolOf c scope line
               else s.definitionOf c scope n line)
        | none => s.note (.noScope name (c.location line)) := by
  unfold defineClass Context.bodyAt?
  rcases hscope : c.tree.scopeAt c.moduleName line with _ | ⟨_ | _, scope⟩
  case some.module => cases hprotocol : hasProtocolBase bases <;> simp
  all_goals rfl

theorem keepCall_eq (module function : String) (line : Int) (s : Collector) :
    s.keepCall c module function line
      = match c.functionAt? line with
        | some scope =>
            { s with pending := s.pending ++ [{ scope, module, function }] }
        | none =>
            s.note (.callOutsideFunction module function
              (c.location line)) := by
  unfold keepCall Context.functionAt?
  rcases hscope : c.tree.scopeAt c.moduleName line with _ | ⟨_ | _, scope⟩
    <;> rfl

/-- Dealing with a node leaves the stack alone. -/
theorem enclosing_meet (n : Node) (s : Collector) :
    (s.meet c n).enclosing = s.enclosing := by
  unfold meet
  split
  · exact enclosing_register ..
  · rw [defineClass_eq]
    split
    · exact enclosing_register ..
    · rfl
  · split
    · exact (frame_markAround ..).2.1
    · rfl
  · split
    · rw [keepCall_eq]
      split <;> rfl
    · rfl
  · rfl

/-- What dealing with one node does to the registry, to the calls that
wait, to the stack and to the collisions. -/
theorem visit_spec (s : Collector) (v : Visit) :
    (s.visit c v).registry = c.enter s.registry v ∧
    (s.visit c v).pending = s.pending ++ (c.impureCall? v.node).toList ∧
    (s.visit c v).enclosing = c.stackAt v ∧
    (s.visit c v).collisions
      = s.collisions ++ ((c.declared? v).bind s.registry.clash?).toList := by
  suffices hothers : (s.visit c v).registry = c.enter s.registry v ∧
      (s.visit c v).pending = s.pending ++ (c.impureCall? v.node).toList ∧
      (s.visit c v).collisions
        = s.collisions ++ ((c.declared? v).bind s.registry.clash?).toList from
    ⟨hothers.1, hothers.2.1, enclosing_meet c v.node _, hothers.2.2⟩
  obtain ⟨n, around⟩ := v
  unfold visit Context.enter
  -- only four kinds of nodes do anything
  cases n with
  | module body =>
      refine ⟨registry_register .., ?_, collisions_register ..⟩
      exact (pending_register ..).trans (List.append_nil _).symm
  | stmt t =>
      cases t with
      | classDef span name bases keywords body decorators =>
          simp only [meet, defineClass_eq, Context.declared?, Context.marks?,
            Context.impureCall?]
          cases hbody : c.bodyAt? span.line with
          | none =>
              exact ⟨rfl, (List.append_nil _).symm, (List.append_nil _).symm⟩
          | some scope =>
              refine ⟨registry_register .., ?_, collisions_register ..⟩
              exact (pending_register ..).trans (List.append_nil _).symm
      | expression span value =>
          cases value with
          | call callSpan func args keywords =>
              simp only [meet, Context.declared?, Context.marks?,
                Context.impureCall?]
              split
              · refine ⟨?_, ?_, ?_⟩
                · rw [registry_markAround]
                  cases c.bodyAt? span.line <;> rfl
                · exact (frame_markAround ..).1.trans (List.append_nil _).symm
                · exact (frame_markAround ..).2.2.trans
                    (List.append_nil _).symm
              · exact ⟨rfl, (List.append_nil _).symm, (List.append_nil _).symm⟩
          | _ =>
              exact ⟨rfl, (List.append_nil _).symm, (List.append_nil _).symm⟩
      | _ => exact ⟨rfl, (List.append_nil _).symm, (List.append_nil _).symm⟩
  | expr e =>
      cases e with
      | call span func args keywords =>
          cases func with
          | member memberSpan value function =>
              cases value with
              | name nameSpan module =>
                  simp only [meet, keepCall_eq, Context.declared?,
                    Context.marks?, Context.impureCall?]
                  split
                  · cases hfun : c.functionAt? span.line with
                    | none =>
                        exact ⟨rfl, (List.append_nil _).symm,
                          (List.append_nil _).symm⟩
                    | some scope => exact ⟨rfl, rfl, (List.append_nil _).symm⟩
                  · exact ⟨rfl, (List.append_nil _).symm,
                      (List.append_nil _).symm⟩
              | _ =>
                  exact ⟨rfl, (List.append_nil _).symm,
                    (List.append_nil _).symm⟩
          | _ =>
              exact ⟨rfl, (List.append_nil _).symm, (List.append_nil _).symm⟩
      | _ => exact ⟨rfl, (List.append_nil _).symm, (List.append_nil _).symm⟩
  | _ => exact ⟨rfl, (List.append_nil _).symm, (List.append_nil _).symm⟩

-- ============================================================= the walk

theorem walk_eq (n : Node) (s : Collector) :
    walk c n s
      = comeBack n (n.children.foldl (fun s child =>
        walk c child s) (goBelow c n (s.meet c n))) := by
  rw [walk, List.foldl_attach (f := fun s child => walk c child s)]

theorem goBelow_eq (n : Node) (s : Collector) :
    goBelow c n s = { s with
      enclosing :=
        (if opensScope n then n.shownAliases c.package :: s.enclosing
          else s.enclosing) } := by
  unfold goBelow
  split <;> rfl

/-- Coming back undoes going below: what was put on the stack is taken
off. -/
theorem comeBack_eq {n : Node} {s t : Collector}
    (hbelow : t.enclosing = (goBelow c n s).enclosing) :
    comeBack n t = { t with enclosing := s.enclosing } := by
  rw [goBelow_eq] at hbelow
  unfold comeBack
  split
  next hopens => rw [hbelow, if_pos hopens, List.tail_cons]
  next hclosed =>
    rw [if_neg hclosed] at hbelow
    rw [← hbelow]

/-- Walks that each keep the stack keep it one after the other. -/
theorem enclosing_foldl {cs : List Node} {step : Collector → Node → Collector}
    (hstep : ∀ child ∈ cs, ∀ s, (step s child).enclosing = s.enclosing)
    (s : Collector) :
    (cs.foldl step s).enclosing = s.enclosing := by
  induction cs generalizing s with
  | nil => rfl
  | cons child cs ih =>
      rw [List.foldl_cons,
        ih fun x hx => hstep x (List.mem_cons_of_mem child hx)]
      exact hstep child List.mem_cons_self s

/-- A walk over a node leaves the stack as it was, however much is below the
node. -/
theorem enclosing_walk (n : Node) (s : Collector) :
    (walk c n s).enclosing = s.enclosing := by
  induction n using Node.childrenInduction generalizing s with
  | step n ih =>
      rw [walk_eq, comeBack_eq c (enclosing_foldl ih _)]
      exact enclosing_meet c n s

/-- The stack below a node: the aliases of the node come first if it is a
definition. -/
theorem stackAt_below (n child : Node) (around : List Node) :
    c.stackAt ⟨child, n :: around⟩ =
        if opensScope n then n.shownAliases c.package :: c.stackAt ⟨n, around⟩
        else c.stackAt ⟨n, around⟩ := by
  unfold Context.stackAt
  rw [List.filter_cons]
  split <;> rfl

/-- A visit sets the stack itself, so what it was before does not matter
to a sequence of visits. -/
theorem foldl_visit_enclosing (e e' : List (List Alias)) (vs : List Visit)
    (s : Collector) :
    { vs.foldl (visit c) { s with enclosing := e } with enclosing := e' }
      = { vs.foldl (visit c) s with enclosing := e' } := by
  cases vs with
  | nil => rfl
  | cons v vs => rfl

/-- A walk over a node that has its stack is the fold over the visits. -/
theorem walk_eq_foldl (n : Node) (around : List Node) (s : Collector)
    (hstack : s.enclosing = c.stackAt ⟨n, around⟩) :
    walk c n s
      = { (n.visits around).foldl (visit c) s with
        enclosing := s.enclosing } := by
  induction n using Node.childrenInduction generalizing around s with
  | step n ih =>
      have hfirst : s.visit c ⟨n, around⟩ = s.meet c n := by
        unfold visit
        rw [← hstack]
      -- the children are walked in turn, each with the same stack
      have hchildren : ∀ (cs : List Node) (t : Collector),
          (∀ child ∈ cs, child ∈ n.children) →
          t.enclosing = (goBelow c n (s.meet c n)).enclosing →
          cs.foldl (fun t child => walk c child t) t
            = { (cs.flatMap (Node.visits (n :: around))).foldl (visit c) t with
                enclosing := t.enclosing } := by
        intro cs
        induction cs with
        | nil => intros; rfl
        | cons child cs ihcs =>
            intro t hmem hbelow
            have hchild : t.enclosing = c.stackAt ⟨child, n :: around⟩ := by
              rw [hbelow, goBelow_eq, enclosing_meet, hstack, stackAt_below]
            rw [List.foldl_cons, ihcs _ (fun x hx => hmem x (by simp [hx]))
              ((enclosing_walk ..).trans hbelow), enclosing_walk,
              ih child (hmem child (by simp)) (n :: around) t hchild,
              foldl_visit_enclosing, List.flatMap_cons, List.foldl_append]
      rw [walk_eq,
        comeBack_eq c (enclosing_foldl (fun child _ =>
          enclosing_walk c child) _),
        hchildren n.children _ (fun _ h => h) rfl, enclosing_meet, goBelow_eq,
        Node.visits_eq, List.foldl_cons, hfirst]
      exact foldl_visit_enclosing ..

end Collector

/-- What a walk over a file finds is found by the visits in turn. -/
theorem Context.survey_eq_foldl (c : Context) :
    c.survey =
      { c.visits.foldl (Collector.visit c) {} with enclosing := [] } :=
  Collector.walk_eq_foldl c c.tree.node [] {} rfl

theorem Collector.foldl_visit_spec (c : Context) (vs : List Visit)
    (s : Collector) :
    (vs.foldl (visit c) s).registry = vs.foldl c.enter s.registry ∧
    (vs.foldl (visit c) s).pending
      = s.pending ++ vs.filterMap fun v => c.impureCall? v.node := by
  induction vs generalizing s with
  | nil => exact ⟨rfl, (List.append_nil _).symm⟩
  | cons v vs ih =>
      obtain ⟨hregistry, hpending, -⟩ := visit_spec c s v
      obtain ⟨ihregistry, ihpending⟩ := ih (s.visit c v)
      constructor
      · rw [List.foldl_cons, ihregistry, hregistry, List.foldl_cons]
      · rw [List.foldl_cons, ihpending, hpending, List.filterMap_cons,
          List.append_assoc]
        cases c.impureCall? v.node <;> rfl

namespace Context

variable (c : Context)

theorem registry_survey : c.survey.registry = c.visits.foldl c.enter {} := by
  rw [survey_eq_foldl]
  exact (Collector.foldl_visit_spec c c.visits {}).1

theorem pending_survey : c.survey.pending = c.impureCalls := by
  rw [survey_eq_foldl]
  exact (Collector.foldl_visit_spec c c.visits {}).2

/-- The record that the file itself registers. -/
theorem declared?_file :
    c.declared? ⟨c.tree.node, []⟩
      = some (c.recordOf ⟨c.tree.node, []⟩ c.moduleName 1) := rfl

/-- What registers a record: the file itself, or a class. -/
theorem declared?_cases {c : Context} {v : Visit} {d : Definition}
    (h : c.declared? v = some d) :
    ((∃ body, v.node = .module body) ∧ d = c.recordOf v c.moduleName 1) ∨
    ∃ span name bases keywords body decorators scope,
      v.node = .stmt (.classDef span name bases keywords body decorators) ∧
      c.bodyAt? span.line = some scope ∧
      d =
        if hasProtocolBase bases then Collector.protocolOf c scope span.line
        else c.recordOf v scope span.line := by
  unfold declared? at h
  split at h
  next body hnode =>
    injection h with h
    exact Or.inl ⟨⟨body, hnode⟩, h.symm⟩
  next span name bases keywords body decorators hnode =>
    obtain ⟨scope, hscope, rfl⟩ := Option.map_eq_some_iff.1 h
    exact Or.inr ⟨span, name, bases, keywords, body, decorators, scope, hnode,
      hscope, rfl⟩
  next => cases h

/-- What is registered is a protocol, or has the text of the visit. -/
theorem exists_eq_of_declared? {c : Context} {v : Visit} {d : Definition}
    (h : c.declared? v = some d) :
    ∃ name line, d = Collector.protocolOf c name line ∨
    d = c.recordOf v name line := by
  rcases declared?_cases h
    with ⟨-, rfl⟩ | ⟨span, _, bases, _, _, _, scope, -, -, rfl⟩
  · exact ⟨_, _, Or.inr rfl⟩
  · refine ⟨scope, span.line, ?_⟩
    split
    · exact Or.inl rfl
    · exact Or.inr rfl

theorem bodyAt?_eq_some {c : Context} {line : Int} {name : String} :
    c.bodyAt? line = some name ↔
      c.tree.scopeAt c.moduleName line = some ⟨.module, name⟩ := by
  unfold bodyAt?
  rcases c.tree.scopeAt c.moduleName line with _ | ⟨_ | _, scope⟩ <;> simp

theorem functionAt?_eq_some {c : Context} {line : Int} {name : String} :
    c.functionAt? line = some name ↔
      c.tree.scopeAt c.moduleName line = some ⟨.function, name⟩ := by
  unfold functionAt?
  rcases c.tree.scopeAt c.moduleName line with _ | ⟨_ | _, scope⟩ <;> simp

/-- An impure call is kept with the function that its line is in. -/
theorem exists_call_of_impureCall? {c : Context} {n : Node}
    {call : PendingCall} (h : c.impureCall? n = some call) :
    n.memberCall? = some (call.module, call.function) ∧
    ∃ e, n = .expr e ∧ c.functionAt? e.span.line = some call.scope := by
  unfold impureCall? at h
  split at h
  next =>
    split at h
    next =>
      obtain ⟨scope, hscope, rfl⟩ := Option.map_eq_some_iff.1 h
      exact ⟨rfl, _, rfl, hscope⟩
    next => cases h
  next => cases h

/-- The first visit of a walk is that of the file itself. -/
theorem visits_eq_cons : ∃ vs, c.visits = ⟨c.tree.node, []⟩ :: vs :=
  ⟨_, Node.visits_eq [] c.tree.node⟩

theorem within_of_mem_visits {v : Visit} (hv : v ∈ c.visits) :
    v.node.Within c.tree.node :=
  Node.exists_mem_visits.1 ⟨v, hv, rfl⟩

end Context

-- ======================================================= one name at a time

/-- Every record is registered under its own name. -/
def Registry.Keyed (r : Registry) : Prop :=
  ∀ name d, r.get? name = some d → d.name = name

theorem Registry.Keyed.insert {r : Registry} (h : r.Keyed) (d : Definition) :
    Registry.Keyed (r.insert d.name d) := by
  intro name e he
  rw [Map.get?_insert] at he
  split at he
  next hname =>
    injection he with he
    rw [← he, hname]
  next => exact h name e he

namespace Context

variable {c : Context} {r : Registry}

/-- A mark only touches the entry of the name that is marked. -/
theorem get?_enterMark (h : r.Keyed) (mark : String × Bool) (name : String) :
    (enterMark r mark).get? name =
        if name = mark.1 then (r.get? name).map (·.mark mark.2)
        else r.get? name := by
  unfold enterMark
  by_cases hname : name = mark.1
  · rw [if_pos hname, ← hname]
    cases hget : r.get? name with
    | none => exact hget
    | some d =>
        simp only [Map.get?_insert, h _ _ hget]
        rfl
  · rw [if_neg hname]
    cases hget : r.get? mark.1 with
    | none => rfl
    | some d =>
        simp only [Map.get?_insert, h _ _ hget]
        rw [if_neg hname]

/-- The entry of a name after a visit. -/
theorem get?_enter (h : r.Keyed) (v : Visit) (name : String) :
    (c.enter r v).get? name
      = match c.declared? v, c.marks? v with
        | some d, _ => if name = d.name then some d else r.get? name
        | none, some mark =>
            if name = mark.1 then (r.get? name).map (·.mark mark.2)
            else r.get? name
        | none, none => r.get? name := by
  unfold enter
  cases c.declared? v with
  | some d => exact Map.get?_insert ..
  | none =>
      cases c.marks? v with
      | some mark => exact get?_enterMark h mark name
      | none => rfl

theorem keyed_enter (h : r.Keyed) (v : Visit) :
    Registry.Keyed (c.enter r v) := by
  unfold enter
  cases c.declared? v with
  | some d => exact h.insert d
  | none =>
      cases c.marks? v with
      | none => exact h
      | some mark =>
          intro name d hd
          rw [get?_enterMark h] at hd
          split at hd
          next =>
            obtain ⟨e, he, rfl⟩ := Option.map_eq_some_iff.1 hd
            exact h name e he
          next => exact h name d hd

theorem keyed_foldl_enter (h : r.Keyed) (vs : List Visit) :
    Registry.Keyed (vs.foldl c.enter r) := by
  induction vs generalizing r with
  | nil => exact h
  | cons v vs ih => exact ih (keyed_enter h v)

theorem keyed_empty : Registry.Keyed {} := by
  intro name d hd
  cases hd

theorem keyed_survey (c : Context) : Registry.Keyed c.survey.registry := by
  rw [registry_survey]
  exact keyed_foldl_enter keyed_empty _

/-- What holds of every record when it is declared, and survives the marks
that are made, holds of every record after a sequence of visits. -/
theorem forall_foldl_enter {P : Definition → Prop} (h : r.Keyed)
    (vs : List Visit) (hstart : ∀ name d, r.get? name = some d → P d)
    (hdeclared : ∀ v ∈ vs, ∀ d, c.declared? v = some d → P d)
    (hmark : ∀ v ∈ vs, ∀ mark, c.marks? v = some mark → ∀ d, P d →
      P (d.mark mark.2)) :
    ∀ name d, (vs.foldl c.enter r).get? name = some d → P d := by
  induction vs generalizing r with
  | nil => exact hstart
  | cons v vs ih =>
      refine ih (keyed_enter h v) ?_ (fun w hw => hdeclared w (by simp [hw]))
        fun w hw => hmark w (by simp [hw])
      intro name d hd
      rw [get?_enter h] at hd
      cases hdecl : c.declared? v with
      | some e =>
          simp only [hdecl] at hd
          split at hd
          next =>
            injection hd with hd
            exact hd ▸ hdeclared v (by simp) e hdecl
          next => exact hstart name d hd
      | none =>
          cases hmarks : c.marks? v with
          | some mark =>
              simp only [hdecl, hmarks] at hd
              split at hd
              next =>
                obtain ⟨e, he, rfl⟩ := Option.map_eq_some_iff.1 hd
                exact hmark v (by simp) mark hmarks e (hstart name e he)
              next => exact hstart name d hd
          | none =>
              simp only [hdecl, hmarks] at hd
              exact hstart name d hd

/-- What holds of every declared record and survives marks holds of every
record that a walk leaves. -/
theorem forall_survey (P : Definition → Prop)
    (hdeclared : ∀ v ∈ c.visits, ∀ d, c.declared? v = some d → P d)
    (hmark : ∀ d force, P d → P (d.mark force)) {name : String}
    {d : Definition} (hd : c.survey.registry.get? name = some d) : P d := by
  rw [registry_survey] at hd
  exact forall_foldl_enter keyed_empty c.visits (fun _ _ h => by cases h)
    hdeclared (fun _ _ mark _ d => hmark d mark.2) name d hd

/-- A name that is registered stays so. -/
theorem isSome_foldl_enter (h : r.Keyed) (vs : List Visit) {name : String}
    (hsome : (r.get? name).isSome) :
    ((vs.foldl c.enter r).get? name).isSome := by
  induction vs generalizing r with
  | nil => exact hsome
  | cons v vs ih =>
      refine ih (keyed_enter h v) ?_
      rw [get?_enter h]
      split
      · split
        · rfl
        · exact hsome
      · split
        · rw [Option.isSome_map]
          exact hsome
        · exact hsome
      · exact hsome

/-- A file registers its own name. -/
theorem isSome_get?_moduleName (c : Context) :
    (c.survey.registry.get? c.moduleName).isSome := by
  obtain ⟨vs, hvs⟩ := c.visits_eq_cons
  rw [registry_survey, hvs, List.foldl_cons]
  refine isSome_foldl_enter (keyed_enter keyed_empty _) vs ?_
  rw [get?_enter keyed_empty, declared?_file]
  exact congrArg Option.isSome (if_pos rfl)

end Context

end Purity
