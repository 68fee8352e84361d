/-
Names by place. The collector asks for the scope of a line; here the same
names are read off the nesting of the tree. A file and every class have a
record (`hasRecord`), whose name is that of the file with the names of the
definitions on the way down to it (`qualified`), and a statement belongs to
the innermost file, class or function that it stands in (`homeOf`).

In a well-placed tree a walk does what these say: it registers each class
and the file under their qualified names (`map_name_declared?`), and a
marker marks the record of its home or, inside a function, nothing
(`marks?_visitAt`). So the record of a name comes from the last place
with that name (`site?_eq_map_lastNamed?`). Consumed by the proofs about
markers, about charged calls and about what a run registers.
-/
import Mathlib.Data.List.Find
import Purity.Proofs.Order
import Purity.Proofs.Origin

namespace Purity

-- ========================================================== nested names

theorem countedNames_append (around : Option Stmt) (xs ys : List Stmt) :
    countedNames around (xs ++ ys)
      = countedNames around xs ++ countedNames (xs.getLast?.or around) ys := by
  induction xs generalizing around with
  | nil => rfl
  | cons d ds ih =>
      have hlast : ((d :: ds).getLast?.or around) =
          ds.getLast?.or (some d) := by
        cases ds <;> simp [List.getLast?_cons]
      rw [List.cons_append, countedNames, countedNames, ih, hlast,
        List.append_assoc]

/-- The name of a class always counts. -/
theorem definedName_mem_countedNames {d : Stmt} {ds : List Stmt}
    (around : Option Stmt) (hd : d ∈ ds) (hclass : d.isClass = true) :
    d.definedName ∈ countedNames around ds := by
  induction ds generalizing around with
  | nil => cases hd
  | cons e ds ih =>
      rw [countedNames, List.mem_append]
      rcases List.mem_cons.1 hd with rfl | hd
      · have hdef : d.isDefinition =
            true := by simp [Stmt.isDefinition, hclass]
        have hfun := Stmt.isFunction_eq_not_isClass hdef
        exact Or.inl (by simp [hfun, hclass])
      · exact Or.inr (ih (some e) hd)

namespace Node

/-- The way to a place below another one goes through the other one. -/
theorem exists_at?_of_append {n k : Node} {p t : Place}
    (h : n.at? (p ++ t) = some k) :
    ∃ m, n.at? p = some m ∧ m.at? t = some k := by
  induction p generalizing n with
  | nil => exact ⟨n, rfl, h⟩
  | cons i p ih =>
      obtain ⟨c, hc, h⟩ := at?_cons_eq_some h
      obtain ⟨m, hm, ht⟩ := ih h
      exact ⟨m, by rw [at?_cons p hc, hm], ht⟩

/-- Only the whole tree is a file. -/
theorem eq_nil_of_at?_module {n : Node} {p : Place} {body : List Stmt}
    (h : n.at? p = some (.module body)) : p = [] := by
  cases p with
  | nil => rfl
  | cons i p =>
      obtain ⟨c, hc, hp⟩ := at?_cons_eq_some h
      have hchild := List.mem_of_getElem? hc
      rw [eq_of_module_within ⟨p, hp⟩] at hchild
      exact absurd hchild module_not_mem_children

theorem enclosing_nil (n : Node) : n.enclosing [] = n.definition?.toList := by
  unfold enclosing along
  cases hdef : n.definition? <;> simp [hdef]

theorem enclosing_cons {n c : Node} {i : Nat} (p : Place)
    (hc : n.children[i]? = some c) :
    n.enclosing (i :: p) = n.definition?.toList ++ c.enclosing p := by
  unfold enclosing
  rw [along_cons p hc]
  cases hdef : n.definition? <;> simp [hdef]

/-- The definitions on the way to a place below another one. -/
theorem enclosing_append {n c : Node} {p : Place} {i : Nat} (t : Place)
    (hc : n.at? (p ++ [i]) = some c) :
    n.enclosing (p ++ i :: t) = n.enclosing p ++ c.enclosing t := by
  induction p generalizing n with
  | nil =>
      obtain ⟨b, hb, hc⟩ := at?_cons_eq_some hc
      cases hc
      rw [List.nil_append, enclosing_cons t hb, enclosing_nil]
  | cons j p ih =>
      obtain ⟨b, hb, hc⟩ := at?_cons_eq_some hc
      rw [List.cons_append, enclosing_cons _ hb, enclosing_cons _ hb, ih hc,
        List.append_assoc]

/-- A definition is the innermost one on the way to itself. -/
theorem enclosing_eq_concat {n m : Node} {p : Place} (hp : n.at? p = some m) :
    n.enclosing p = (n.along p).dropLast.filterMap Node.definition? ++
      m.definition?.toList := by
  unfold enclosing
  rw [along_eq_concat hp, List.filterMap_append, List.dropLast_concat]
  cases hdef : m.definition? <;> simp [hdef]

theorem mem_enclosing_self {n : Node} {p : Place} {d : Stmt}
    (hd : n.definitionAt? p = some d) : d ∈ n.enclosing p := by
  obtain ⟨hp, hdef⟩ := definitionAt?_eq_some.1 hd
  rw [enclosing_eq_concat hp, definition?_eq_some.2 ⟨rfl, hdef⟩]
  simp

end Node

-- ====================================================== qualified names

/-- Does a walk leave a record of a node? It does of files and classes. -/
def Node.hasRecord : Node → Bool
  | .module _ => true
  | .stmt s => s.isClass
  | _ => false

namespace Module

/-- The name of what stands at a place: that of the file, and those of the
definitions on the way down that count. -/
def qualified (m : Module) (moduleName : String) (p : Place) : String :=
  (Scope.lexical moduleName (m.node.enclosing p)).name

/-- The last place of a file or class with the given name, with the node
there. -/
def lastNamed? (m : Module) (moduleName name : String) :
    Option (Place × Node) :=
  m.node.placed.reverse.find? fun x =>
    x.2.hasRecord && decide (m.qualified moduleName x.1 = name)

/-- The last place with a name splits the order of a walk: nothing behind
it has the name. -/
theorem exists_split_of_lastNamed? {m : Module} {moduleName name : String}
    {q : Place} {k : Node} (h : m.lastNamed? moduleName name = some (q, k)) :
    ∃ before after, m.node.placed = before ++ (q, k) :: after ∧
      (k.hasRecord = true ∧ m.qualified moduleName q = name) ∧
      ∀ x ∈ after, (x.2.hasRecord &&
        decide (m.qualified moduleName x.1 = name)) = false := by
  obtain ⟨hhere, later, earlier, hreverse, hnot⟩ :=
    List.find?_eq_some_iff_append.1 h
  refine ⟨earlier.reverse, later.reverse, ?_, by simpa using hhere, ?_⟩
  · rw [← List.reverse_reverse m.node.placed, hreverse]
    simp
  · intro x hx
    have hno := hnot x (List.mem_reverse.1 hx)
    rwa [Bool.not_eq_true'] at hno

theorem at?_of_lastNamed? {m : Module} {moduleName name : String} {q : Place}
    {k : Node} (h : m.lastNamed? moduleName name = some (q, k)) :
    m.node.at? q = some k ∧ m.qualified moduleName q = name := by
  obtain ⟨before, after, hplaces, ⟨-, hname⟩, -⟩ :=
    exists_split_of_lastNamed? h
  refine ⟨Node.mem_placed.1 ?_, hname⟩
  rw [hplaces]
  exact List.mem_append_right before List.mem_cons_self

theorem enclosing_root (m : Module) : m.node.enclosing [] = [] := by
  rw [Node.enclosing_nil]
  rfl

theorem qualified_nil (m : Module) (moduleName : String) :
    m.qualified moduleName [] = moduleName := by
  unfold qualified
  rw [enclosing_root]
  exact Name.join_singleton moduleName

/-- A class does not have the name of anything that it stands in. -/
theorem WellNamed.qualified_ne {m : Module} (hnamed : m.WellNamed)
    (moduleName : String) {p q : Place} {s : Stmt}
    (hq : m.node.at? q = some (.stmt s)) (hclass : s.isClass = true)
    (hpre : p <+: q) (hne : p ≠ q) :
    m.qualified moduleName p ≠ m.qualified moduleName q := by
  obtain ⟨t, rfl⟩ := hpre
  cases t with
  | nil => exact absurd (List.append_nil p).symm hne
  | cons i t =>
      have hbelow : m.node.at? ((p ++ [i]) ++ t) = some (.stmt s) := by
        rw [List.append_assoc]
        exact hq
      obtain ⟨c, hc, ht⟩ := Node.exists_at?_of_append hbelow
      have hdef : s.isDefinition = true := by simp [Stmt.isDefinition, hclass]
      have hmem : s ∈ c.enclosing t :=
        Node.mem_enclosing_self (Node.definitionAt?_eq_some.2 ⟨ht, hdef⟩)
      have hself : s.definedName ≠ "" :=
        hnamed _ s (Node.definitionAt?_eq_some.2 ⟨hq, hdef⟩)
      -- the inner name is the outer one and a rest that holds the class
      have hinner : m.qualified moduleName (p ++ i :: t)
          = Name.join [m.qualified moduleName p,
              Name.join (countedNames (m.node.enclosing p).getLast?
                (c.enclosing t))] := by
        show Name.join (moduleName ::
            countedNames none (m.node.enclosing (p ++ i :: t))) = _
        rw [Node.enclosing_append t hc, countedNames_append, Option.or_none,
          ← List.cons_append, Name.join_append]
        rfl
      have hrest :
          Name.join (countedNames (m.node.enclosing p).getLast?
            (c.enclosing t)) ≠ "" := by
        intro hempty
        exact hself (Name.join_eq_empty.1 hempty _
          (definedName_mem_countedNames _ hmem hclass))
      rw [hinner]
      exact (Name.join_pair_ne hrest).symm

end Module

-- =============================================================== homes

namespace Node

/-- The innermost file, class or function that a place is in, other than
what is there itself. -/
def homeOf : Node → Place → Option Place
  | _, [] => none
  | n, i :: p =>
      match n.children[i]? with
      | some c =>
          ((c.homeOf p).map (i :: ·)).or
            (if Collector.opensScope n then some [] else none)
      | none => none

theorem homeOf_cons {n c : Node} {i : Nat} (p : Place)
    (hc : n.children[i]? = some c) :
    n.homeOf (i :: p)
      = ((c.homeOf p).map (i :: ·)).or
        (if Collector.opensScope n then some [] else none) := by
  simp only [homeOf, hc]

/-- A home is a file, class or function around the place. -/
theorem exists_of_homeOf {n : Node} {p q : Place} (h : n.homeOf p = some q) :
    q <+: p ∧ q ≠ p ∧ ∃ k, n.at? q = some k ∧
    Collector.opensScope k = true := by
  induction p generalizing n q with
  | nil => cases h
  | cons i p ih =>
      cases hc : n.children[i]? with
      | none => simp [homeOf, hc] at h
      | some c =>
          rw [homeOf_cons p hc] at h
          rcases Option.or_eq_some_iff.1 h with hdeep | ⟨-, hhere⟩
          · obtain ⟨r, hr, rfl⟩ := Option.map_eq_some_iff.1 hdeep
            obtain ⟨hpre, hne, k, hk, hopens⟩ := ih hr
            refine ⟨List.cons_prefix_cons.2 ⟨rfl, hpre⟩, by simpa using hne, k,
              ?_, hopens⟩
            rw [at?_cons r hc, hk]
          · split at hhere
            next hopens =>
              cases hhere
              exact ⟨List.nil_prefix, by simp, n, rfl, hopens⟩
            next => cases hhere

/-- What stands in a file, class or function has a home, and the home is in
there too or is that very one. -/
theorem exists_homeOf_of_prefix {n m k : Node} {p r : Place}
    (hp : n.at? p = some m) (hpre : r <+: p) (hne : r ≠ p)
    (hr : n.at? r = some k)
    (hopens : Collector.opensScope k = true) :
    ∃ q, n.homeOf p = some q ∧ r <+: q := by
  induction p generalizing n r with
  | nil => exact absurd (List.prefix_nil.1 hpre) hne
  | cons i p ih =>
      obtain ⟨c, hc, hbelow⟩ := at?_cons_eq_some hp
      rw [homeOf_cons p hc]
      cases r with
      | nil =>
          cases hr
          cases c.homeOf p with
          | some q => exact ⟨i :: q, rfl, List.nil_prefix⟩
          | none => exact ⟨[], by simp [hopens], List.nil_prefix⟩
      | cons j r =>
          obtain ⟨rfl, hrest⟩ := List.cons_prefix_cons.1 hpre
          rw [at?_cons r hc] at hr
          obtain ⟨q, hq, hin⟩ := ih hbelow hrest (fun e => hne (by rw [e])) hr
          exact ⟨j :: q, by rw [hq]; rfl, List.cons_prefix_cons.2 ⟨rfl, hin⟩⟩

theorem opensScope_of_definition? {n : Node} {d : Stmt}
    (h : n.definition? = some d) :
    Collector.opensScope n = true := by
  obtain ⟨rfl, hdef⟩ := definition?_eq_some.1 h
  cases d <;> simp_all [Stmt.isDefinition, Stmt.isClass, Stmt.isFunction,
    Collector.opensScope]

/-- The definitions on the way to a place are those on the way to its home,
and the one that may be at the place itself. -/
theorem enclosing_eq_of_homeOf {n m : Node} {p : Place}
    (hp : n.at? p = some m) :
    n.enclosing p = (match n.homeOf p with
      | some q => n.enclosing q
      | none => []) ++ m.definition?.toList := by
  induction p generalizing n with
  | nil =>
      cases hp
      rw [enclosing_nil]
      rfl
  | cons i p ih =>
      obtain ⟨c, hc, hp⟩ := at?_cons_eq_some hp
      rw [enclosing_cons p hc, ih hp, homeOf_cons p hc, ← List.append_assoc]
      congr 1
      cases hhome : c.homeOf p with
      | some q =>
          simp only [Option.map_some, Option.some_or, enclosing_cons q hc]
      | none =>
          simp only [Option.map_none, Option.none_or, List.append_nil]
          split
          next q hq =>
            split at hq
            next =>
              cases hq
              rw [enclosing_nil]
            next => cases hq
          next hclosed =>
            cases hdef : n.definition? with
            | none => rfl
            | some d => simp [opensScope_of_definition? hdef] at hclosed

end Node

namespace Module

/-- Everything in a file has a home. -/
theorem exists_homeOf (m : Module) {p : Place} {k : Node}
    (hp : m.node.at? p = some k) (hne : p ≠ []) :
    ∃ q, m.node.homeOf p = some q := by
  obtain ⟨q, hq, -⟩ :=
    Node.exists_homeOf_of_prefix hp List.nil_prefix hne.symm rfl rfl
  exact ⟨q, hq⟩

/-- Directly inside a file or class the scope is one of a module, inside a
function it is not. -/
theorem kind_lexical_eq {m : Module} (moduleName : String) {q : Place}
    {k : Node} (hk : m.node.at? q = some k)
    (hopens : Collector.opensScope k = true) :
    (Scope.lexical moduleName (m.node.enclosing q)).kind
      = if k.hasRecord then .module else .function := by
  unfold Scope.lexical
  cases k with
  | module body =>
      obtain rfl := Node.eq_nil_of_at?_module hk
      rw [enclosing_root]
      rfl
  | stmt s =>
      rw [Node.enclosing_eq_concat hk]
      cases s with
      | classDef span name bases keywords body decorators =>
          simp [Node.definition?, Stmt.isDefinition, Stmt.isClass,
            Stmt.isFunction, Node.hasRecord]
      | functionDef span isAsync name params body decorators returns =>
          simp [Node.definition?, Stmt.isDefinition, Stmt.isClass,
            Stmt.isFunction, Node.hasRecord]
      | _ => cases hopens
  | _ => cases hopens

/-- The scope of the first line of a statement, by the place of the
statement. -/
theorem WellPlaced.scopeAt_line {m : Module} (h : m.WellPlaced)
    (moduleName : String) {p : Place} {s : Stmt}
    (hs : m.node.at? p = some (.stmt s)) :
    m.scopeAt moduleName s.span.line
      = some (Scope.lexical moduleName (m.node.enclosing p)) := by
  have hfound : m.scopeAt moduleName s.span.line
      = some (.ofChain moduleName (m.node.definitionsAround s.span.line)) :=
    if_pos (h.holds_line hs)
  have hline : s.span.holds s.span.line = true := by
    have hord := h.ordered p s hs
    rw [Span.holds_iff]
    omega
  rw [hfound, Module.eq_lexical_of_scopeAt hfound,
    h.definitionsAround_eq hs hline fun q d hd hdline =>
      h.apart q p d s hd hs hdline]

end Module

-- ================================================= what a walk registers

/-- The arguments of the marker, when a node is a statement that calls it. -/
def Node.marker? (marker : List String) : Node → Option (List (Keyword Expr))
  | .stmt (.expression _ (.call _ func _ keywords)) =>
      if func.path? = some marker then some keywords else none
  | _ => none

namespace Context

variable {c : Context}

/-- The qualified name of what stands at a place of the file. -/
def qualified (c : Context) (p : Place) : String :=
  c.tree.qualified c.moduleName p

/-- The name of the home of a place, if there is a record of the home. -/
def homeName? (c : Context) (p : Place) : Option String :=
  (c.tree.node.homeOf p).bind fun q =>
    if (c.tree.node.at? q).any Node.hasRecord then some (c.qualified q)
    else none

/-- The file and every class are registered under their qualified names,
and nothing else is. -/
theorem map_name_declared? (h : c.tree.WellPlaced) {p : Place} {n : Node}
    (hp : c.tree.node.at? p = some n) :
    (c.declared? (c.tree.node.visitAt (p, n))).map Definition.name
      = if n.hasRecord then some (c.qualified p) else none := by
  cases n with
  | module body =>
      obtain rfl := Node.eq_nil_of_at?_module hp
      show some c.moduleName = some (c.qualified [])
      rw [qualified, Module.qualified_nil]
  | stmt s =>
      cases s with
      | classDef span name bases keywords body decorators =>
          have hkind := Module.kind_lexical_eq c.moduleName hp rfl
          have hbody : c.bodyAt? span.line = some (c.qualified p) := by
            rw [bodyAt?_eq_some]
            refine (h.scopeAt_line c.moduleName hp).trans (congrArg some ?_)
            exact congrArg (Scope.mk · (c.qualified p)) hkind
          show ((c.bodyAt? span.line).map _).map Definition.name =
              some (c.qualified p)
          rw [hbody, Option.map_some, Option.map_some]
          split <;> rfl
      | _ => rfl
  | _ => rfl

theorem isSome_declared? (h : c.tree.WellPlaced) {p : Place} {n : Node}
    (hp : c.tree.node.at? p = some n) :
    (c.declared? (c.tree.node.visitAt (p, n))).isSome = n.hasRecord := by
  have hname := congrArg Option.isSome (map_name_declared? h hp)
  rw [Option.isSome_map] at hname
  rw [hname]
  cases n.hasRecord <;> rfl

theorem declares_visitAt (h : c.tree.WellPlaced) {p : Place} {n : Node}
    (hp : c.tree.node.at? p = some n) (name : String) :
    c.declares name (c.tree.node.visitAt (p, n))
      = (n.hasRecord && decide (c.qualified p = name)) := by
  have hname :=
    congrArg (Option.any fun x => decide (x = name)) (map_name_declared? h hp)
  rw [Option.any_map] at hname
  refine Eq.trans hname ?_
  cases n.hasRecord <;> rfl

/-- The body that a statement which is no definition stands in, by line and
by nesting. -/
theorem bodyAt?_line (h : c.tree.WellPlaced) {p : Place} {s : Stmt}
    (hs : c.tree.node.at? p = some (.stmt s))
    (hdef : (Node.stmt s).definition? = none) :
    c.bodyAt? s.span.line = c.homeName? p := by
  have hne : p ≠ [] := by
    rintro rfl
    cases hs
  obtain ⟨q, hq⟩ := c.tree.exists_homeOf hs hne
  obtain ⟨-, -, k, hk, hopens⟩ := Node.exists_of_homeOf hq
  have hchain : c.tree.node.enclosing p = c.tree.node.enclosing q := by
    rw [Node.enclosing_eq_of_homeOf hs, hq, hdef, Option.toList_none,
      List.append_nil]
  have hkind := Module.kind_lexical_eq c.moduleName hk hopens
  unfold bodyAt? homeName?
  rw [h.scopeAt_line c.moduleName hs, hchain, hq, Option.bind_some, hk,
    Option.any_some]
  cases hrecord : k.hasRecord with
  | true =>
      rw [hrecord] at hkind
      have hscope : Scope.lexical c.moduleName (c.tree.node.enclosing q)
          = ⟨.module, c.qualified q⟩ :=
            congrArg (Scope.mk · (c.qualified q)) hkind
      rw [hscope]
      rfl
  | false =>
      rw [hrecord] at hkind
      have hscope : Scope.lexical c.moduleName (c.tree.node.enclosing q)
          = ⟨.function, c.qualified q⟩ :=
            congrArg (Scope.mk · (c.qualified q)) hkind
      rw [hscope]
      rfl

/-- A marker marks the record of its home, if there is one. -/
theorem marks?_visitAt (h : c.tree.WellPlaced) {p : Place} {n : Node}
    (hp : c.tree.node.at? p = some n) :
    c.marks? (c.tree.node.visitAt (p, n))
      = (n.marker? c.marker).bind fun keywords =>
          (c.homeName? p).map fun name => (name, wish keywords) := by
  cases n with
  | stmt s =>
      cases s with
      | expression span value =>
          cases value with
          | call callSpan func args keywords =>
              have hbody : c.bodyAt? span.line = c.homeName? p :=
                bodyAt?_line h hp rfl
              unfold marks? Node.marker?
              simp only [Node.visitAt]
              split
              · rw [hbody]
                rfl
              · rfl
          | _ => rfl
      | _ => rfl
  | _ => rfl

/-- The record of a name comes from the last place with that name. -/
theorem site?_eq_map_lastNamed? (h : c.tree.WellPlaced) (name : String) :
    c.site? name =
      (c.tree.lastNamed? c.moduleName name).map c.tree.node.visitAt := by
  unfold site? Module.lastNamed?
  rw [visits_eq_map_placed, ← List.map_reverse, List.find?_map]
  congr 1
  refine List.find?_congr ?_
  rintro ⟨p, n⟩ hx
  exact declares_visitAt h (Node.mem_placed.1 (List.mem_reverse.1 hx)) name

theorem exists_lastNamed?_of_get? (h : c.tree.WellPlaced) {name : String}
    {d : Definition} (hd : c.collect.1.registry.get? name = some d) :
    ∃ q k, c.tree.lastNamed? c.moduleName name = some (q, k) := by
  obtain ⟨v, -, hsite, -⟩ := exists_site hd
  rw [site?_eq_map_lastNamed? h] at hsite
  obtain ⟨⟨q, k⟩, hfound, -⟩ := Option.map_eq_some_iff.1 hsite
  exact ⟨q, k, hfound⟩

end Context

end Purity
