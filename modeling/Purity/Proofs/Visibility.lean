/-
What a class sees of the text around it. A walk over a tree passes through
every place: it comes there in some state, walks over what is there, and
resumes with the rest of the tree (`exists_arrival`). It keeps the aliases
of the definitions around the current node on a stack, so when it comes to
a place the stack holds what the files, classes and functions around the
place show, the innermost first, whatever was walked over before. A record
that stays registered was made with these aliases
(`exists_dependenciesAt`).

Aliases follow the nesting of the text. An import counts for a node when
every class and function around the import is also around the node, or is
the node or inside it (`mem_table`); imports of siblings do not count.
-/
import Purity.Proofs.Alias
import Purity.Proofs.Finding
import Purity.Proofs.Importable
import Purity.Proofs.Marker

namespace Purity

-- ================================================ definitions around a place

namespace Node

/-- The files, classes and functions around a place, the innermost first.
What is at the place itself is not among them. -/
def definitionsOver (n : Node) (p : Place) : List Node :=
  (p.inits.dropLast.reverse.filterMap n.at?).filter Collector.opensScope

theorem definitionsOver_cons {n c : Node} {i : Nat} (p : Place)
    (hc : n.children[i]? = some c) :
    n.definitionsOver (i :: p)
      = c.definitionsOver p ++ if Collector.opensScope n then [n] else [] := by
  have hne : p.inits.map (i :: ·) ≠ [] := by
    cases p <;> simp
  have hbelow : n.at? ∘ (i :: ·) = c.at? := by
    funext q
    exact at?_cons q hc
  have hself : ([n].filter Collector.opensScope) =
      if Collector.opensScope n then [n] else [] := by
    rw [List.filter_cons, List.filter_nil]
  unfold definitionsOver
  rw [List.inits_cons, List.dropLast_cons_of_ne_nil hne, ← List.map_dropLast,
    List.reverse_cons, ← List.map_reverse, List.filterMap_append,
    List.filterMap_map, hbelow, List.filter_append,
    ← hself]
  rfl

theorem mem_definitionsOver {n m k : Node} {p : Place}
    (hp : n.at? p = some m) :
    k ∈ n.definitionsOver p ↔
      ∃ q, q <+: p ∧ q ≠ p ∧ n.at? q = some k ∧
      Collector.opensScope k = true := by
  induction p generalizing n with
  | nil =>
      constructor
      · intro hk
        cases hk
      · rintro ⟨q, hpre, hne, -⟩
        exact absurd (List.prefix_nil.1 hpre) hne
  | cons i p ih =>
      obtain ⟨c, hc, hp⟩ := at?_cons_eq_some hp
      rw [definitionsOver_cons p hc, List.mem_append, ih hp]
      constructor
      · rintro (⟨q, hpre, hne, hq, hopens⟩ | hself)
        · refine ⟨i :: q,
            List.cons_prefix_cons.2 ⟨rfl, hpre⟩, by simpa using hne, ?_,
            hopens⟩
          rw [at?_cons q hc, hq]
        · split at hself
          next hopens =>
            obtain rfl := List.mem_singleton.1 hself
            exact ⟨[], List.nil_prefix, by simp, rfl, hopens⟩
          next => cases hself
      · rintro ⟨q, hpre, hne, hq, hopens⟩
        cases q with
        | nil =>
            cases hq
            exact Or.inr (by simp [hopens])
        | cons j q =>
            obtain ⟨rfl, hrest⟩ := List.cons_prefix_cons.1 hpre
            rw [at?_cons q hc] at hq
            exact Or.inl ⟨q, hrest, by simpa using hne, hq, hopens⟩

/-- The definitions around a visit, by place. -/
theorem filter_around_visitAt {n m : Node} {p : Place}
    (hp : n.at? p = some m) :
    (n.visitAt (p, m)).around.filter Collector.opensScope =
      n.definitionsOver p := by
  unfold visitAt
  induction p generalizing n with
  | nil => rfl
  | cons i p ih =>
      obtain ⟨c, hc, hp⟩ := at?_cons_eq_some hp
      rw [dropLast_along_cons hc hp, List.reverse_cons, List.filter_append,
        ih hp, definitionsOver_cons p hc, List.filter_cons, List.filter_nil]

-- ================================================= imports and their homes

/-- What opens a scope below the file is a class or a function. -/
theorem definitionAt?_of_opensScope {n k : Node} {r : Place}
    (hr : n.at? r = some k) (hne : r ≠ [])
    (hopens : Collector.opensScope k = true) :
    ∃ d, n.definitionAt? r = some d := by
  cases k with
  | module body => exact absurd (eq_nil_of_at?_module hr) hne
  | stmt s =>
      refine ⟨s, definitionAt?_eq_some.2 ⟨hr, ?_⟩⟩
      cases s <;> simp_all [Collector.opensScope, Stmt.isDefinition,
        Stmt.isClass, Stmt.isFunction]
  | _ => cases hopens

theorem isBody_of_isDefinition {d : Stmt} (hd : d.isDefinition = true) :
    (Node.stmt d).isBody = true := by
  cases d <;> simp_all [isBody, Stmt.isDefinition, Stmt.isClass,
    Stmt.isFunction]

/-- What has a body of its own is a definition, or a lambda. -/
theorem opensScope_or_inExpression {n : Node} (h : n.isBody = true) :
    Collector.opensScope n = true ∨ n.inExpression = true := by
  unfold isBody at h
  split at h
  · exact Or.inl rfl
  · exact Or.inl rfl
  · exact Or.inr rfl
  · cases h

/-- Inside its home an import is reached without entering a body. -/
theorem openWay_of_homeOf {n k m : Node} {r t : Place} (hr : n.at? r = some k)
    (hm : n.at? (r ++ t) = some m) (himport : m.isImport = true)
    (hhome : n.homeOf (r ++ t) = some r) : k.OpenWay t := by
  intro u b hne hpre hb
  obtain ⟨w, rfl⟩ := hpre
  have hbody : n.at? (r ++ u) = some b := by rw [at?_append u hr, hb]
  have hbelow : b.at? w = some m := by
    rw [← hm, ← List.append_assoc, at?_append w hbody]
  obtain ⟨s, rfl, hplain⟩ := exists_stmt_of_isImport himport
  by_contra hisBody
  rw [Bool.not_eq_false] at hisBody
  rcases opensScope_or_inExpression hisBody with hopens | hinside
  · -- a definition on the way would be a home further in
    have hproper : r ++ u ≠ r ++ (u ++ w) := by
      intro hsame
      obtain rfl : w = [] := by simpa using hsame
      cases hbelow
      rw [hplain] at hisBody
      cases hisBody
    have hway : r ++ u <+: r ++ (u ++ w) := by
      rw [← List.append_assoc]
      exact List.prefix_append (r ++ u) w
    obtain ⟨q, hq, hin⟩ := exists_homeOf_of_prefix hm hway hproper hbody hopens
    obtain rfl := Option.some.inj (hhome.symm.trans hq)
    have hlength := hin.length_le
    have hpositive : 0 < u.length := List.length_pos_iff.2 hne
    rw [List.length_append] at hlength
    omega
  · exact not_within_expression hinside ⟨w, hbelow⟩

end Node

-- ========================================================== the stack

namespace Collector

variable (c : Context)

/-- The state in which the walk over a node comes to one of its children:
the node has been met and the earlier children have been walked over. -/
def beforeChild (n : Node) (i : Nat) (s : Collector) : Collector :=
  (n.children.take i).foldl (fun s earlier =>
    walk c earlier s) (goBelow c n (s.meet c n))

/-- The state in which the walk over a node comes to a place below it. -/
def arrival? (n : Node) (s : Collector) : Place → Option Collector
  | [] => some s
  | i :: p =>
      n.children[i]?.bind fun child => arrival? child (beforeChild c n i s) p

/-- What is left of the walk over a node when the place has been walked
over: on the way out, each node has its later children walked over and is
then left. -/
def resume (n : Node) : Place → Collector → Collector
  | [], t => t
  | i :: p, t =>
      let reached := match n.children[i]? with
        | some child => resume child p t
        | none => t
      comeBack n ((n.children.drop (i + 1)).foldl (fun s later =>
        walk c later s) reached)

/-- A walk takes each child from the state before it, and goes on with the
later ones. -/
theorem walk_eq_beforeChild {n child : Node} {i : Nat}
    (hc : n.children[i]? = some child) (s : Collector) :
    walk c n s = comeBack n
      ((n.children.drop (i + 1)).foldl (fun s later =>
        walk c later s) (walk c child (beforeChild c n i s))) := by
  obtain ⟨hi, rfl⟩ := List.getElem?_eq_some_iff.1 hc
  have hsplit : n.children
      = n.children.take i ++ n.children[i] :: n.children.drop (i + 1) := by
    rw [List.getElem_cons_drop, List.take_append_drop]
  rw [walk_eq]
  conv => lhs; rw [hsplit]
  rw [List.foldl_append, List.foldl_cons]
  rfl

theorem enclosing_beforeChild (n : Node) (i : Nat) (s : Collector) :
    (beforeChild c n i s).enclosing =
        (if opensScope n then [n.shownAliases c.package]
         else []) ++ s.enclosing := by
  unfold beforeChild
  rw [enclosing_foldl fun child _ => enclosing_walk c child, goBelow_eq,
    enclosing_meet]
  split <;> rfl

/-- A walk passes through every place. When it comes there, the aliases of
the definitions around the place are on the stack, above what was there at
the start; it walks over what is at the place, and resumes with the rest. -/
theorem exists_arrival {n k : Node} {p : Place} (hp : n.at? p = some k)
    (s : Collector) :
    ∃ t, arrival? c n s p = some t ∧ walk c n s = resume c n p (walk c k t) ∧
      t.enclosing = (n.definitionsOver p).map (Node.shownAliases c.package) ++
        s.enclosing := by
  induction p generalizing n s with
  | nil =>
      cases hp
      exact ⟨s, rfl, rfl, rfl⟩
  | cons i p ih =>
      obtain ⟨child, hc, hp⟩ := Node.at?_cons_eq_some hp
      obtain ⟨t, ht, hwalk, hstack⟩ := ih hp (beforeChild c n i s)
      refine ⟨t, by rw [arrival?, hc]; exact ht, ?_, ?_⟩
      · rw [walk_eq_beforeChild c hc, hwalk, resume, hc]
      · rw [hstack, enclosing_beforeChild, Node.definitionsOver_cons p hc,
          List.map_append, List.append_assoc]
        split <;> rfl

/-- A class that is no protocol registers the record of its text. -/
theorem get?_meet_class {s : Stmt} (hclass : s.isClass = true)
    (hplain : (Node.stmt s).isProtocol = false) {scope : String}
    (hscope : c.bodyAt? s.span.line = some scope) (t : Collector) :
    (t.meet c (.stmt s)).registry.get? scope
      = some (t.definitionOf c scope (.stmt s) s.span.line) := by
  cases s with
  | classDef span name bases keywords body decorators =>
      have hplain : hasProtocolBase bases = false := hplain
      have hscope : c.bodyAt? span.line = some scope := hscope
      simp only [meet, defineClass_eq, hscope, hplain, registry_register,
        Map.get?_insert]
      exact if_pos rfl
  | _ => cases hclass

end Collector

-- ==================================================== visible aliases

namespace Context

variable {c : Context}

/-- The state in which the walk over the file comes to a place. -/
def arrival? (c : Context) (p : Place) : Option Collector :=
  Collector.arrival? c c.tree.node {} p

/-- The aliases that the definitions around a place show, the innermost
definition first. -/
def visibleAt (c : Context) (p : Place) : List Alias :=
  (c.tree.node.definitionsOver p).flatMap (Node.shownAliases c.package)

/-- The modules that a node at a place depends on. The marker and the
module that it is a member of do not count. -/
def dependenciesAt (c : Context) (p : Place) (k : Node) : SortedSet RawText :=
  (k.dependencies c (c.visibleAt p)).filter
    fun dependency => dependency ≠ c.dottedMarker && dependency ≠ c.markerHome

theorem flatten_stackAt {p : Place} {k : Node}
    (hp : c.tree.node.at? p = some k) :
    (c.stackAt (c.tree.node.visitAt (p, k))).flatten = c.visibleAt p := by
  unfold stackAt visibleAt
  rw [Node.filter_around_visitAt hp, List.flatMap_def]

/-- A record that stays registered has the dependencies of its site. -/
theorem exists_dependenciesAt {name : String} {d : Definition}
    (hd : c.collect.1.registry.get? name = some d)
    (hplain : d.protocol = false) :
    ∃ p k, c.tree.node.at? p = some k ∧
    c.site? name = some (c.tree.node.visitAt (p, k)) ∧
      d.dependencies = c.dependenciesAt p k := by
  obtain ⟨v, e, hsite, hdecl, hbare⟩ := exists_site hd
  have hvisit : v ∈ c.visits :=
    List.mem_reverse.1 (List.mem_of_find?_eq_some hsite)
  obtain ⟨p, k, hp, rfl⟩ := mem_visits.1 hvisit
  refine ⟨p, k, hp, hsite, ?_⟩
  have hprotocol : e.bare.protocol = false := by
    rw [hbare]
    exact hplain
  have hdependencies :
      d.bare.dependencies = e.bare.dependencies := by rw [hbare]
  obtain ⟨name', line, rfl | rfl⟩ := exists_eq_of_declared? hdecl
  · cases hprotocol
  · refine hdependencies.trans ?_
    unfold dependenciesAt
    rw [← flatten_stackAt hp]
    rfl

-- ==================================================== the alias table

/-- The aliases that a node at a place is read with, by the imports that
make them: no class or function around such an import leaves the node
out, unless it is inside the node. -/
theorem mem_table {p : Place} {k : Node} (hp : c.tree.node.at? p = some k)
    {a : Alias} :
    a ∈ k.aliases c.package ++ c.visibleAt p ↔
      ∃ q m, c.tree.node.at? q = some m ∧ m.isImport = true ∧
      a ∈ m.bindings c.package ∧
        ∀ r d, c.tree.node.definitionAt? r = some d → r <+: q →
        r <+: p ∨ p <+: r := by
  unfold visibleAt
  rw [List.mem_append, Node.mem_aliases, List.mem_flatMap]
  constructor
  · rintro (⟨m, ⟨t, ht⟩, himport, ha⟩ | ⟨e, he, ha⟩)
    · refine ⟨p ++ t, m, by rw [Node.at?_append t hp, ht], himport, ha, ?_⟩
      intro r d _ hpre
      exact List.prefix_or_prefix_of_prefix hpre (List.prefix_append p t)
    · obtain ⟨r₀, hover, -, hr₀, -⟩ := (Node.mem_definitionsOver hp).1 he
      obtain ⟨m, t, himport, ha, -, ht, hopen⟩ := Node.mem_shownAliases.1 ha
      refine ⟨r₀ ++ t, m, by rw [Node.at?_append t hr₀, ht], himport, ha, ?_⟩
      intro r d hd hpre
      left
      rcases List.prefix_or_prefix_of_prefix hpre (List.prefix_append r₀ t)
        with hout | ⟨u, rfl⟩
      · exact hout.trans hover
      · -- a definition further in would be entered on the way
        obtain ⟨hat, hdef⟩ := Node.definitionAt?_eq_some.1 hd
        rw [Node.at?_append u hr₀] at hat
        by_cases hu : u = []
        · subst hu
          rw [List.append_nil]
          exact hover
        · have hclosed :=
            hopen u _ hu ((List.prefix_append_right_inj r₀).1 hpre) hat
          rw [Node.isBody_of_isDefinition hdef] at hclosed
          cases hclosed
  · rintro ⟨q, m, hq, himport, ha, hover⟩
    by_cases hin : p <+: q
    · obtain ⟨t, rfl⟩ := hin
      rw [Node.at?_append t hp] at hq
      exact Or.inl ⟨m, ⟨t, hq⟩, himport, ha⟩
    · -- the home of an import outside is around the node
      have hne : q ≠ [] := by
        rintro rfl
        cases hq
        cases himport
      obtain ⟨r, hhome⟩ := c.tree.exists_homeOf hq hne
      obtain ⟨⟨t, rfl⟩, hproper, e, he, hopens⟩ := Node.exists_of_homeOf hhome
      have haround : r <+: p := by
        by_cases hr : r = []
        · subst hr
          exact List.nil_prefix
        · obtain ⟨d, hd⟩ := Node.definitionAt?_of_opensScope he hr hopens
          refine (hover r d hd (List.prefix_append r t)).resolve_right ?_
          intro hbelow
          exact hin (hbelow.trans (List.prefix_append r t))
      have hother : r ≠ p := by
        rintro rfl
        exact hin (List.prefix_append r t)
      right
      refine ⟨e,
        (Node.mem_definitionsOver hp).2 ⟨r, haround, hother, he, hopens⟩, ?_⟩
      refine Node.mem_shownAliases.2 ⟨m, t, himport, ha, ?_, ?_, ?_⟩
      · rintro rfl
        exact hproper (List.append_nil r).symm
      · rw [← Node.at?_append t he, hq]
      · exact Node.openWay_of_homeOf he hq himport hhome

/-- Aliases follow the nesting of the text. The walk comes to every class,
walks over it and resumes with the rest of the file. When it comes there,
the stack gives the aliases that the file, classes and functions around
the class show, the innermost first; a class that is no protocol is
registered with the dependencies that it has under them. The class is read
with an alias just when some import makes it of which every class and
function around it is also around the class, or is the class or inside it.
Every record that stays and is no protocol has the dependencies of its
place, and the walk ends with an empty stack. -/
theorem aliases_follow_nesting (c : Context) :
    (∀ p s, c.tree.node.at? p = some (.stmt s) → s.isClass = true →
      (∃ t, c.arrival? p = some t ∧
        c.survey = Collector.resume c c.tree.node p
          (Collector.walk c (.stmt s) t) ∧
        t.enclosing.flatten = c.visibleAt p ∧
        ((Node.stmt s).isProtocol = false →
          ∀ scope, c.bodyAt? s.span.line = some scope →
          ∃ d, (t.meet c (.stmt s)).registry.get? scope = some d ∧
            d.dependencies = c.dependenciesAt p (.stmt s))) ∧
      ∀ a, a ∈ (Node.stmt s).aliases c.package ++ c.visibleAt p ↔
        ∃ q m, c.tree.node.at? q = some m ∧ m.isImport = true ∧
        a ∈ m.bindings c.package ∧
          ∀ r d, c.tree.node.definitionAt? r = some d → r <+: q →
          r <+: p ∨ p <+: r) ∧
    (∀ name d, c.collect.1.registry.get? name = some d → d.protocol = false →
      ∃ p k, c.tree.node.at? p = some k ∧
      c.site? name = some (c.tree.node.visitAt (p, k)) ∧
        d.dependencies = c.dependenciesAt p k) ∧
    c.survey.enclosing = [] := by
  refine ⟨?_, fun name d => exists_dependenciesAt,
    Collector.enclosing_walk c c.tree.node {}⟩
  intro p s hp hclass
  refine ⟨?_, fun a => mem_table hp⟩
  obtain ⟨t, ht, hwalk, hstack⟩ := Collector.exists_arrival c hp {}
  have hvisible : t.enclosing.flatten = c.visibleAt p := by
    rw [hstack, visibleAt, List.flatMap_def]
    exact congrArg List.flatten (List.append_nil _)
  refine ⟨t, ht, hwalk, hvisible, ?_⟩
  intro hplain scope hscope
  refine ⟨_, Collector.get?_meet_class c hclass hplain hscope t, ?_⟩
  unfold Collector.definitionOf dependenciesAt
  rw [hvisible]

/-- A file with an alias, a class with another one around a class, and a
class beside them that imports `sys`. -/
def cabinet : Context :=
  Context.ofTree "pure_module" {} ⟨[
    importStmt 1 0 "json" (some "j"),
    .classDef ⟨2, 4, 0⟩ "Outer" [] [] [
      importStmt 3 4 "os.path" (some "osp"),
      emptyClass 4 4 "Inner"] [],
    .classDef ⟨5, 6, 0⟩ "Other" [] [] [importStmt 6 4 "sys" none] []]⟩
    "app.core" "app" "app/core.py" {}

/-- The inner class is read with the aliases of the class and of the file
around it, and not with that of the class beside them. -/
theorem cabinet_inner_table :
    (∃ t d, cabinet.arrival? [1, 1] = some t ∧
      cabinet.survey = Collector.resume cabinet cabinet.tree.node [1, 1]
        (Collector.walk cabinet (.stmt (emptyClass 4 4 "Inner")) t) ∧
      (t.meet cabinet (.stmt (emptyClass 4 4 "Inner"))).registry.get?
        "app.core.Outer.Inner"
        = some d ∧
      d.dependencies = cabinet.dependenciesAt
    [1, 1] (.stmt (emptyClass 4 4 "Inner"))) ∧
    ⟨"osp", "os.path"⟩ ∈ (Node.stmt (emptyClass 4 4 "Inner")).aliases "app"
      ++ cabinet.visibleAt [1, 1] ∧
    ⟨"j", "json"⟩ ∈ (Node.stmt (emptyClass 4 4 "Inner")).aliases "app"
      ++ cabinet.visibleAt [1, 1] ∧
    ⟨"sys", "sys"⟩ ∉ (Node.stmt (emptyClass 4 4 "Inner")).aliases "app"
      ++ cabinet.visibleAt [1, 1] := by
  obtain ⟨⟨t, ht, hwalk, -, hstored⟩, htable⟩ :=
    (aliases_follow_nesting cabinet).1 [1, 1] (emptyClass 4 4 "Inner") rfl rfl
  have hscope : cabinet.bodyAt? 4 =
      some "app.core.Outer.Inner" := by decide +kernel
  obtain ⟨d, hd, hdependencies⟩ := hstored rfl _ hscope
  refine ⟨⟨t, d, ht, hwalk, hd, hdependencies⟩, (htable _).2 ?_,
    (htable _).2 ?_, ?_⟩
  · refine ⟨[1, 0], _, rfl, rfl, List.mem_singleton_self _, ?_⟩
    intro r d hr hpre
    rcases (List.mem_inits r [1, 0]).2 hpre
      with _ | ⟨_, _ | ⟨_, _ | ⟨_, hnone⟩⟩⟩
    · exact Or.inl List.nil_prefix
    · exact Or.inl (by decide)
    · cases hr
    · cases hnone
  · refine ⟨[0], _, rfl, rfl, List.mem_singleton_self _, ?_⟩
    intro r d hr hpre
    rcases (List.mem_inits r [0]).2 hpre with _ | ⟨_, _ | ⟨_, hnone⟩⟩
    · exact Or.inl List.nil_prefix
    · cases hr
    · cases hnone
  · intro hsys
    obtain ⟨q, m, hq, himport, hbinds, hover⟩ := (htable _).1 hsys
    -- the import of `sys` is in the other class
    have hplaces : ∀ x ∈ cabinet.tree.node.placed, x.2.isImport = true →
        (⟨"sys", "sys"⟩ : Alias) ∈ x.2.bindings "app" → x.1 = [2, 0] := by
      decide +kernel
    obtain rfl : q = [2, 0] :=
      hplaces (q, m) (Node.mem_placed.2 hq) himport hbinds
    have hother := hover [2] _ rfl (by decide)
    exact absurd hother (by decide)

end Context

end Purity
