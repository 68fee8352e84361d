/-
Own and nested imports. The imports of a text are those that it shows to
the definitions nested in it and those inside its outermost bodies, which
are the classes, functions and lambdas that are not inside another one.
No import is in both parts, nor twice in one: taken with their numbers,
the imports of the parts are those of the whole (`imports_perm`).

The collections differ in how they go through the text: all imports come
from a walk level by level and sorted by position, the shown ones from a
walk in depth that stops at bodies. Both are compared with the plain walk
in depth (`nodes`).

Names that count as modules are picked from all imports, so each of them
has an alias (`exists_alias_of_mem_boundNames`), and a call on one of them
in a file is read with an alias of the file itself (`exists_reading`).
-/
import Mathlib.Data.List.Perm.Basic
import Purity.Proofs.Alias
import Purity.Proofs.Finding
import Purity.Proofs.Name
import Purity.Proofs.Reference

namespace Purity

variable {package x : String} {project : NameSet} {a : Alias}

namespace Node

variable {b m n : Node} {p : Place}

-- ============================================================= in depth

/-- A node and everything below it, each node before those below it. -/
def nodes (n : Node) : List Node := (n.visits []).map Visit.node

theorem map_node_visits (around : List Node) (n : Node) :
    (n.visits around).map Visit.node = n.nodes := by
  unfold nodes
  generalize ([] : List Node) = other
  induction n using childrenInduction generalizing around other with
  | step n ih =>
      rw [visits_eq, visits_eq, List.map_cons, List.map_cons, List.map_flatMap,
        List.map_flatMap]
      congr 1
      exact List.flatMap_congr fun c hc => ih c hc _ _

theorem nodes_eq (n : Node) : n.nodes = n :: n.children.flatMap nodes := by
  have hbelow : (fun c => (visits [n] c).map Visit.node) = nodes :=
    funext fun c => map_node_visits [n] c
  unfold nodes
  rw [visits_eq, List.map_cons, List.map_flatMap, hbelow]
  rfl

/-- A walk level by level meets what a walk in depth meets. -/
theorem walkLevels_perm (ns : List Node) :
    (walkLevels ns).Perm (ns.flatMap nodes) := by
  fun_induction walkLevels ns with
  | case1 => exact .nil
  | case2 n ns ih =>
      have hlevel : (n :: ns).flatMap (fun m => [m]) = n :: ns :=
        List.flatMap_singleton' _
      have hbelow : (n :: ns).flatMap (fun m => m.children.flatMap nodes)
          = ((n :: ns).flatMap children).flatMap nodes :=
            List.flatMap_assoc.symm
      have hsplit : (n :: ns).flatMap nodes
          = (n :: ns).flatMap fun m => [m] ++ m.children.flatMap nodes :=
        List.flatMap_congr fun m _ => nodes_eq m
      rw [hsplit]
      refine List.Perm.trans ?_ (List.flatMap_append_perm _ _ _)
      rw [hlevel, hbelow]
      exact ih.append_left _

/-- The imports of a text are those that a walk in depth meets. -/
theorem imports_perm_nodes (n : Node) :
    n.imports.Perm (n.nodes.filter isImport) := by
  have hwalk : n.walk.Perm n.nodes := by
    refine (walkLevels_perm [n]).trans ?_
    rw [List.flatMap_singleton]
  exact (List.mergeSort_perm _ _).trans (hwalk.filter _)

-- ===================================================== outermost bodies

/-- The classes, functions and lambdas below a node that are not inside
another one below it. -/
def outermostBodies (n : Node) : List Node :=
  n.children.attach.flatMap fun ⟨c, _⟩ =>
    if c.isBody then [c] else c.outermostBodies
termination_by sizeOf n
decreasing_by exact Node.sizeOf_lt_of_mem_children ‹_›

theorem outermostBodies_eq (n : Node) :
    n.outermostBodies = n.children.flatMap fun c =>
      if c.isBody then [c] else c.outermostBodies := by
  rw [outermostBodies]
  simp only [List.flatMap_subtype, List.unattach_attach]

/-- The outermost bodies are the bodies that an open way leads up to. -/
theorem mem_outermostBodies :
    b ∈ n.outermostBodies ↔
      b.isBody = true ∧ ∃ p, p ≠
    [] ∧ n.at? p = some b ∧ n.OpenWay p.dropLast := by
  induction n using childrenInduction with
  | step n ih =>
      rw [outermostBodies_eq, List.mem_flatMap]
      constructor
      · rintro ⟨c, hmem, hb⟩
        obtain ⟨i, hc⟩ := List.mem_iff_getElem?.1 hmem
        split at hb
        next hbody =>
          obtain rfl : b = c := List.mem_singleton.1 hb
          refine ⟨hbody, [i], by simp, ?_, openWay_nil n⟩
          rw [at?_cons [] hc, at?_nil]
        next hplain =>
          obtain ⟨hbody, p, hne, hp, hopen⟩ := (ih c hmem).1 hb
          refine ⟨hbody, i :: p, by simp, ?_, ?_⟩
          · rw [at?_cons p hc, hp]
          · rw [List.dropLast_cons_of_ne_nil hne]
            exact (openWay_cons hc).2 ⟨by simpa using hplain, hopen⟩
      · rintro ⟨hbody, p, hne, hp, hopen⟩
        cases p with
        | nil => exact absurd rfl hne
        | cons i p =>
            obtain ⟨c, hc, hp⟩ := at?_cons_eq_some hp
            have hmem := List.mem_of_getElem? hc
            refine ⟨c, hmem, ?_⟩
            by_cases hnil : p = []
            · subst hnil
              cases hp
              rw [if_pos hbody]
              exact List.mem_singleton_self b
            · rw [List.dropLast_cons_of_ne_nil hnil] at hopen
              obtain ⟨hplain, hopen⟩ := (openWay_cons hc).1 hopen
              rw [if_neg (by simp [hplain])]
              exact (ih c hmem).2 ⟨hbody, p, hnil, hp, hopen⟩

-- ============================================================ two parts

/-- An import shows nothing to others: it has no text of its own. -/
theorem directImports_of_isImport (hm : m.isImport = true) :
    m.directImports = [] := by
  refine List.eq_nil_iff_forall_not_mem.2 fun k hk => ?_
  obtain ⟨hk, p, hne, hp, -⟩ := mem_directImports.1 hk
  exact hne (eq_nil_of_isImport hm hk hp)

/-- The imports that a walk in depth meets are the node itself, those that
it shows and those inside its outermost bodies. -/
theorem filter_nodes_perm (n : Node) :
    (n.nodes.filter isImport).Perm
      ((if n.isImport then [n] else []) ++ (n.directImports
        ++ n.outermostBodies.flatMap fun b => b.nodes.filter isImport)) := by
  induction n using childrenInduction with
  | step n ih =>
      -- each child gives its imports to one part or is split itself
      have hchild : ∀ c ∈ n.children, ((if c.isBody then []
            else if c.isImport then [c] else c.directImports)
          ++ (if c.isBody then [c] else c.outermostBodies).flatMap fun b =>
            b.nodes.filter isImport).Perm (c.nodes.filter isImport) := by
        intro c hc
        by_cases hbody : c.isBody = true
        · simp only [hbody, if_true, List.nil_append, List.flatMap_singleton]
          exact .rfl
        · refine List.Perm.trans (.of_eq ?_) (ih c hc).symm
          by_cases himport : c.isImport = true
          · simp only [hbody, himport, directImports_of_isImport himport,
              if_true, if_false, List.nil_append, Bool.false_eq_true]
          · simp only [hbody, himport, if_false, List.nil_append,
              Bool.false_eq_true]
      have hself : [n].filter isImport = if n.isImport then [n] else [] := by
        rw [List.filter_singleton, cond_eq_ite]
      rw [nodes_eq, ← List.singleton_append, List.filter_append, hself,
        List.filter_flatMap]
      refine List.Perm.append_left _ ?_
      rw [directImports_eq, outermostBodies_eq, List.flatMap_assoc]
      exact (List.Perm.flatMap_left _ fun c hc => (hchild c hc).symm).trans
        (List.flatMap_append_perm _ _ _).symm

/-- The imports of a text are those that it shows and those inside its
outermost bodies. -/
theorem imports_perm (hn : n.isImport = false) :
    n.imports.Perm (n.directImports ++ n.outermostBodies.flatMap imports) := by
  have hinside :
      (n.outermostBodies.flatMap fun b => b.nodes.filter isImport).Perm
      (n.outermostBodies.flatMap imports) :=
    List.Perm.flatMap_left _ fun b _ => (imports_perm_nodes b).symm
  have hsplit := (imports_perm_nodes n).trans (filter_nodes_perm n)
  rw [hn, if_neg Bool.false_ne_true, List.nil_append] at hsplit
  exact hsplit.trans (hinside.append_left _)

theorem mem_aliases_iff_shown (hn : n.isImport = false) :
    a ∈ n.aliases package ↔
      a ∈ n.shownAliases package ∨
      ∃ b ∈ n.outermostBodies, a ∈ b.aliases package := by
  unfold aliases shownAliases
  simp only [mem_bindingsOf, (imports_perm hn).mem_iff, List.mem_append,
    List.mem_flatMap]
  constructor
  · rintro ⟨m, hm | ⟨b, hb, hm⟩, ha⟩
    · exact .inl ⟨m, hm, ha⟩
    · exact .inr ⟨b, hb, m, hm, ha⟩
  · rintro (⟨m, hm, ha⟩ | ⟨b, hb, m, hm, ha⟩)
    · exact ⟨m, .inl hm, ha⟩
    · exact ⟨m, .inr ⟨b, hb, hm⟩, ha⟩

-- ========================================================== bound names

/-- Imports that take members out of a module. -/
def TakesMembers (m : Node) : Prop :=
  ∃ span source names level, m = .stmt (.importFrom span source names level)

/-- An import binds modules, and a member is one when the project defines
it. -/
theorem mem_moduleAliases :
    a ∈ m.moduleAliases package project ↔
      a ∈ m.bindings package ∧ (m.TakesMembers → a.target ∈ project) := by
  unfold moduleAliases
  split
  next span source names level =>
    have htakes : TakesMembers (.stmt (.importFrom span source names level)) :=
      ⟨span, source, names, level, rfl⟩
    rw [List.mem_filter, decide_eq_true_eq]
    exact and_congr_right fun _ =>
      ⟨fun htarget _ => htarget, fun h => h htakes⟩
  next hother =>
    refine ⟨fun ha => ⟨ha, ?_⟩, And.left⟩
    rintro ⟨span, source, names, level, hm⟩
    exact absurd hm (hother span source names level)

theorem mem_boundNames :
    x ∈ n.boundNames package project ↔
      ∃ (m : Node) (a : Alias), m.Within n ∧ m.isImport = true ∧
      a ∈ m.bindings package ∧
        (m.TakesMembers → a.target ∈ project) ∧ a.short = x := by
  unfold boundNames imports
  simp only [SortedSet.mem_ofList, List.mem_map, List.mem_flatMap,
    mem_textOrder, List.mem_filter, mem_walk, mem_moduleAliases]
  constructor
  · rintro ⟨a, ⟨m, ⟨hm, himport⟩, hbinds, htarget⟩, hshort⟩
    exact ⟨m, a, hm, himport, hbinds, htarget, hshort⟩
  · rintro ⟨m, a, hm, himport, hbinds, htarget, hshort⟩
    exact ⟨a, ⟨m, ⟨hm, himport⟩, hbinds, htarget⟩, hshort⟩

/-- A name that counts as a module has an alias. -/
theorem exists_alias_of_mem_boundNames
    (hx : x ∈ n.boundNames package project) :
    ∃ a ∈ n.aliases package, a.short = x := by
  obtain ⟨m, a, hm, himport, hbinds, -, hshort⟩ := mem_boundNames.1 hx
  exact ⟨a, mem_aliases.2 ⟨m, hm, himport, hbinds⟩, hshort⟩

theorem mem_called_references {c : Context} {path : String} :
    path ∈ (n.references c).called ↔ n.Calls c path := by
  unfold references
  simp only [List.mem_flatMap, mem_textOrder, mem_walk]
  exact exists_mem_called

end Node

-- =========================================================== resolution

/-- What a name stands for by some aliases, if one of them binds its head. -/
def Alias.reading? (aliases : List Alias) (name : String) : Option String :=
  (aliases.find? (·.short = (Name.headTail name).1)).map fun a =>
    Name.join [a.target, (Name.headTail name).2]

/-- Later aliases are asked only where the earlier ones have no answer. -/
theorem Alias.resolve_append (aliases visible : List Alias) (name : String) :
    Alias.resolve (aliases ++ visible) name
      = (Alias.reading? aliases name).getD (Alias.resolve visible name) := by
  unfold Alias.resolve Alias.reading?
  simp only [List.find?_append]
  cases aliases.find? (·.short = (Name.headTail name).1) <;> rfl

/-- A call in a file of a function of a module is read with an alias of
the file itself. -/
theorem Source.exists_reading {f : Source} {config : Config} {path : String}
    (hnames : ∀ x ∈ f.tree.node.boundNames f.package project, Name.Segment x)
    (hpath :
      path ∈ (f.tree.node.references (f.context config project)).called) :
    ∃ name, Alias.reading? (f.tree.node.aliases f.package) path =
      some name := by
  cases Node.mem_called_references.1 hpath with
  | @call _ _ _ _ head rest _ _ hrest hhead =>
      obtain ⟨a, ha, hshort⟩ := Node.exists_alias_of_mem_boundNames hhead
      have hfound : ((f.tree.node.aliases f.package).find?
          (·.short = head)).isSome :=
        List.find?_isSome.2 ⟨a, ha, by simpa using hshort⟩
      obtain ⟨first, hfirst⟩ := Option.isSome_iff_exists.1 hfound
      refine ⟨Name.join [first.target, Name.join rest.dropLast], ?_⟩
      rw [List.dropLast_cons_of_ne_nil hrest]
      unfold Alias.reading?
      rw [Name.headTail_join (hnames head hhead), hfirst, Option.map_some]

/-- Every import of a text that is no import itself is either shown or
inside one of the outermost bodies, so the aliases of the text are the
shown ones and those of these bodies. The names that count as modules are
those that some import binds, to a member only if the project defines it,
so each of them has an alias. Where these names are identifiers, each call
in a file of a function of a module is therefore read with an alias of the
file, and the dependencies of the file are what it imports and what the
calls are read as, whatever else is visible. -/
theorem imports_split_at_bodies (package : String) (project : NameSet) :
    (∀ n : Node, n.isImport = false →
      n.imports.Perm (n.directImports ++
        n.outermostBodies.flatMap Node.imports) ∧
      (∀ b, b ∈ n.outermostBodies ↔
        b.isBody = true ∧
          ∃ p, p ≠ [] ∧ n.at? p = some b ∧ n.OpenWay p.dropLast) ∧
      ∀ a, a ∈ n.aliases package ↔
        a ∈ n.shownAliases package ∨
        ∃ b ∈ n.outermostBodies, a ∈ b.aliases package) ∧
    (∀ (n : Node) (x : String),
      (x ∈ n.boundNames package project ↔
        ∃ (m : Node) (a : Alias), m.Within n ∧ m.isImport = true ∧
        a ∈ m.bindings package ∧
          (m.TakesMembers → a.target ∈ project) ∧ a.short = x) ∧
      (x ∈ n.boundNames package project →
        ∃ a ∈ n.aliases package, a.short = x)) ∧
    ∀ (f : Source) (config : Config) (visible : List Alias),
      (∀ x ∈ f.tree.node.boundNames f.package project, Name.Segment x) →
      (∀ path ∈ (f.tree.node.references (f.context config project)).called,
        ∃ name, Alias.reading? (f.tree.node.aliases f.package) path =
          some name ∧
        Alias.resolve (f.tree.node.aliases f.package ++ visible) path = name) ∧
      ∀ x, x ∈ f.tree.node.dependencies (f.context config project) visible ↔
        x ≠ "" ∧
        (x ∈ (f.tree.node.references (f.context config project)).imported ∨
          ∃ path ∈ (f.tree.node.references (f.context config project)).called,
            (Alias.reading? (f.tree.node.aliases f.package) path).map
              RawText.ofString
              = some x) := by
  refine ⟨fun n hn => ⟨Node.imports_perm hn, fun b => Node.mem_outermostBodies,
    fun a => Node.mem_aliases_iff_shown hn⟩,
    fun n x => ⟨Node.mem_boundNames, Node.exists_alias_of_mem_boundNames⟩, ?_⟩
  intro f config visible hnames
  have hread :
    ∀ path ∈ (f.tree.node.references (f.context config project)).called,
    ∃ name,
      Alias.reading? (f.tree.node.aliases f.package) path = some name ∧
      Alias.resolve (f.tree.node.aliases f.package ++ visible) path =
        name := by
    intro path hpath
    obtain ⟨name, hname⟩ := Source.exists_reading hnames hpath
    refine ⟨name, hname, ?_⟩
    rw [Alias.resolve_append, hname, Option.getD_some]
  refine ⟨hread, fun x => ?_⟩
  unfold Node.dependencies
  simp only [SortedSet.mem_ofList, List.mem_filter, List.mem_append,
    List.mem_map, decide_eq_true_eq]
  rw [and_comm]
  refine and_congr_right fun _ => or_congr_right (exists_congr fun path =>
    and_congr_right fun hpath => ?_)
  obtain ⟨name, hname, hresolve⟩ := hread path hpath
  change RawText.ofString
    (Alias.resolve (f.tree.node.aliases f.package ++ visible) path) = x ↔ _
  rw [hname, hresolve, Option.map_some, Option.some_inj]

/-- A file with four imports: `json` as `j` at its top, `re` in a block under
a condition, `csv` in the class `Reader`, and `xml.etree` as `tree` in a
function of the class. Its last line calls `tree.parse`. -/
def reader : Source where
  path := ⟨.relative, ["app", "core.py"]⟩
  moduleName := "app.core"
  package := "app"
  tree := ⟨[
    importStmt 1 0 "json" (some "j"),
    .conditional ⟨2, 3, 0⟩ (.name ⟨2, 2, 3⟩ "j") [importStmt 3 4 "re" none] [],
    .classDef ⟨4, 7, 0⟩ "Reader" [] [] [
      importStmt 5 4 "csv" none,
      .functionDef ⟨6, 7, 4⟩ false "read" ⟨[], [], none, [], [], none, []⟩
        [importStmt 7 8 "xml.etree" (some "tree")] [] none] [],
    .expression ⟨8, 8, 0⟩ (.call ⟨8, 8, 0⟩
      (.member ⟨8, 8, 0⟩ (.name ⟨8, 8, 0⟩ "tree") "parse") [] [])]⟩

/-- The file shows two of its four imports, and its call is read with the
alias that the function makes. -/
theorem reader_imports_split :
    (reader.tree.node.imports.Perm
      (reader.tree.node.directImports ++
        reader.tree.node.outermostBodies.flatMap Node.imports) ∧
      reader.tree.node.directImports.length = 2 ∧
      reader.tree.node.outermostBodies.length = 1) ∧
    (⟨"tree", "xml.etree"⟩ ∉ reader.tree.node.shownAliases "app" ∧
      ∃ b ∈ reader.tree.node.outermostBodies, ⟨"tree", "xml.etree"⟩ ∈
        b.aliases "app") ∧
    ∀ visible, ("xml.etree" : RawText)
      ∈ reader.tree.node.dependencies (reader.context {} {}) visible := by
  obtain ⟨hsplit, -, hfile⟩ := imports_split_at_bodies "app" {}
  obtain ⟨hperm, -, halias⟩ := hsplit reader.tree.node rfl
  have hinner : Node.Within (.stmt (importStmt 7 8 "xml.etree" (some "tree")))
      reader.tree.node :=
    ⟨[2, 1, 1], rfl⟩
  have hmade : ⟨"tree", "xml.etree"⟩ ∈ reader.tree.node.aliases "app" :=
    Node.mem_aliases.2 ⟨_, hinner, rfl, List.mem_singleton_self _⟩
  have hhidden :
      ⟨"tree", "xml.etree"⟩ ∉ reader.tree.node.shownAliases "app" := by
    intro hshown
    obtain ⟨m, hm, hbinds⟩ := mem_bindingsOf.1 hshown
    have hnone : ∀ m ∈ reader.tree.node.directImports,
        (⟨"tree", "xml.etree"⟩ : Alias) ∉ m.bindings "app" := by
      decide +kernel
    exact hnone m hm hbinds
  have hshown : reader.tree.node.directImports.length = 2 := by decide +kernel
  have hbodies :
      reader.tree.node.outermostBodies.length = 1 := by decide +kernel
  have hnested := ((halias _).1 hmade).resolve_left hhidden
  refine ⟨⟨hperm, hshown, hbodies⟩, ⟨hhidden, hnested⟩, fun visible => ?_⟩
  have hall : ∀ y ∈ reader.tree.node.placed, y.2.isImport = true →
      ∀ a ∈ y.2.bindings "app", Name.Segment a.short ∧
      (a.short = "tree" → a.target = "xml.etree") := by
    decide +kernel
  have haliases : ∀ a ∈ reader.tree.node.aliases "app",
      Name.Segment a.short ∧ (a.short = "tree" → a.target = "xml.etree") := by
    intro a ha
    obtain ⟨m, ⟨p, hp⟩, himport, hbinds⟩ := Node.mem_aliases.1 ha
    exact hall (p, m) (Node.mem_placed.2 hp) himport a hbinds
  have hnames : ∀ x ∈ reader.tree.node.boundNames "app" {},
      Name.Segment x := by
    intro x hx
    obtain ⟨a, ha, rfl⟩ := Node.exists_alias_of_mem_boundNames hx
    exact (haliases a ha).1
  have hbound : "tree" ∈ reader.tree.node.boundNames "app" {} := by
    refine Node.mem_boundNames.2 ⟨_, _, hinner, rfl, List.mem_singleton_self _,
      ?_, rfl⟩
    rintro ⟨span, source, names, level, hm⟩
    cases hm
  have hcalls : reader.tree.node.Calls (reader.context {} {})
      (Name.join (["tree", "parse"].dropLast)) :=
    .call ⟨[3, 0], rfl⟩ rfl (List.cons_ne_nil _ _) hbound
  have hcalled : "tree" ∈
      (reader.tree.node.references (reader.context {} {})).called := by
    rw [Node.mem_called_references]
    exact hcalls
  obtain ⟨hread, hdependencies⟩ := hfile reader {} visible hnames
  obtain ⟨name, hreading, -⟩ := hread "tree" hcalled
  obtain ⟨a, hfound, rfl⟩ := Option.map_eq_some_iff.1 hreading
  have hshort : a.short =
      (Name.headTail "tree").1 := by simpa using List.find?_some hfound
  have htarget := (haliases a (List.mem_of_find?_eq_some hfound)).2 hshort
  rw [htarget] at hreading
  refine (hdependencies (RawText.ofString "xml.etree")).2 ⟨by decide,
    .inr ⟨"tree", hcalled, ?_⟩⟩
  rw [hreading]
  rfl

end Purity
