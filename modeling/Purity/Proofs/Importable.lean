/-
The two namings of classes. The classes that can be imported from a file
are listed by a recursion that carries the name so far and leaves out what
is inside functions (`classNames`); the collector finds the name of a class
from its line. Both give the qualified name (`mem_importableClasses`), so
what the project is said to define is what its files register, and a name
that is taken from a file as that of a class is a registered one.
-/
import Purity.Proofs.Inventory

namespace Purity

namespace Node

-- ============================================== no statements in expressions

/-- Is a node an expression, or a part of one? -/
def inExpression : Node → Bool
  | .expr _ | .keyword _ | .params _ | .param _ | .clause _ => true
  | _ => false

theorem inExpression_of_mem_children {c n : Node} (hn : n.inExpression = true)
    (hc : c ∈ n.children) : c.inExpression = true := by
  cases n with
  | expr e =>
      cases e <;> simp only [children, Expr.children, List.mem_append,
        List.mem_cons, List.mem_map, List.not_mem_nil, or_false] at hc
          <;> grind [inExpression]
  | params ps =>
      obtain ⟨_, _, _, _, _, _, _⟩ := ps
      simp only [children, List.mem_append, List.mem_map] at hc
      grind [inExpression]
  | keyword k =>
      simp only [children, List.mem_singleton] at hc
      grind [inExpression]
  | param p =>
      simp only [children, List.mem_map] at hc
      grind [inExpression]
  | clause k =>
      simp only [children, List.mem_cons, List.mem_map] at hc
      grind [inExpression]
  | _ => cases hn

/-- No statement stands in an expression. -/
theorem not_within_expression {s : Stmt} {n : Node}
    (hn : n.inExpression = true) :
    ¬ (Node.stmt s).Within n := by
  induction n using childrenInduction with
  | step n ih =>
      intro h
      rcases within_iff.1 h with rfl | ⟨c, hc, h⟩
      · cases hn
      · exact ih c hc (inExpression_of_mem_children hn hc) h

-- ==================================================== names from the top

/-- The names that one child of a node gives. -/
def classNamesIn (around : String) (c : Node) : List String :=
  match c with
  | .stmt (.classDef _ name ..) =>
      Name.join [around, name] :: c.classNames (Name.join [around, name])
  | .stmt (.functionDef ..) | .expr (.lambda ..) => []
  | _ => c.classNames around

theorem classNames_eq (around : String) (n : Node) :
    n.classNames around = n.children.flatMap (classNamesIn around) := by
  rw [classNames]
  conv_rhs => rw [← List.attach_map_subtype_val n.children, List.flatMap_map]
  refine List.flatMap_congr ?_
  rintro ⟨c, hc⟩ -
  unfold classNamesIn
  cases c with
  | stmt s => cases s <;> rfl
  | expr e => cases e <;> rfl
  | _ => rfl

/-- Does a node hold a class at a place, with nothing but classes among the
definitions on the way? -/
def ShowsClass (n : Node) (p : Place) : Prop :=
  (n.at? p).any isClass = true ∧ ∀ d ∈ n.enclosing p, d.isClass = true

theorem showsClass_nil {n : Node} : n.ShowsClass [] ↔ n.isClass = true := by
  unfold ShowsClass
  rw [at?_nil, Option.any_some, enclosing_nil]
  refine and_iff_left_of_imp ?_
  intro hclass d hd
  obtain ⟨rfl, -⟩ := definition?_eq_some.1 (Option.mem_toList.1 hd)
  exact hclass

theorem showsClass_cons {n c : Node} {i : Nat} {p : Place}
    (hc : n.children[i]? = some c) :
    n.ShowsClass (i :: p) ↔ (∀ d ∈ n.definition?, d.isClass = true) ∧
    c.ShowsClass p := by
  unfold ShowsClass
  rw [at?_cons p hc, enclosing_cons p hc]
  simp only [List.mem_append, Option.mem_toList, or_imp, forall_and]
  exact and_left_comm

/-- The name that counts inside a node which lies in `around`. -/
def inside (around : String) (n : Node) : String :=
  Name.join (around :: n.definition?.toList.map Stmt.definedName)

/-- The name of what is at a place of a node which lies in `around`. -/
def nameBelow (around : String) (n : Node) (p : Place) : String :=
  Name.join (around :: (n.enclosing p).map Stmt.definedName)

theorem nameBelow_nil (around : String) (n : Node) :
    n.nameBelow around [] = n.inside around := by
  unfold nameBelow inside
  rw [enclosing_nil]

theorem nameBelow_cons {n c : Node} {i : Nat} (around : String) (p : Place)
    (hc : n.children[i]? = some c) :
    n.nameBelow around (i :: p) = c.nameBelow (n.inside around) p := by
  unfold nameBelow inside
  rw [enclosing_cons p hc, List.map_append, Name.join_join_cons,
    List.cons_append]

/-- Does a child of a node show a class of a name, the node being inside
`around`? -/
def ShowsBelow (n : Node) (around name : String) : Prop :=
  ∃ (i : Nat) (c : Node) (p : Place),
    n.children[i]? = some c ∧ c.ShowsClass p ∧ c.nameBelow around p = name

/-- A node shows itself and what its children show. -/
theorem exists_showsClass_iff {n : Node} {around name : String} :
    (∃ p, n.ShowsClass p ∧ n.nameBelow around p = name) ↔
      (n.isClass = true ∧ n.inside around = name) ∨
        (∀ d ∈ n.definition?, d.isClass = true) ∧
        n.ShowsBelow (n.inside around) name := by
  constructor
  · rintro ⟨p, hshows, hname⟩
    cases p with
    | nil =>
        rw [nameBelow_nil] at hname
        exact Or.inl ⟨showsClass_nil.1 hshows, hname⟩
    | cons i p =>
        obtain ⟨k, hk, -⟩ := (Option.any_eq_true _ _).1 hshows.1
        obtain ⟨c, hc, -⟩ := at?_cons_eq_some hk
        obtain ⟨hself, hbelow⟩ := (showsClass_cons hc).1 hshows
        rw [nameBelow_cons around p hc] at hname
        exact Or.inr ⟨hself, i, c, p, hc, hbelow, hname⟩
  · rintro (⟨hclass, hname⟩ | ⟨hself, i, c, p, hc, hbelow, hname⟩)
    · exact ⟨[], showsClass_nil.2 hclass, (nameBelow_nil around n).trans hname⟩
    · exact ⟨i :: p, (showsClass_cons hc).2 ⟨hself, hbelow⟩,
        (nameBelow_cons around p hc).trans hname⟩

/-- An expression shows no class. -/
theorem not_showsBelow_of_inExpression {n : Node} {around name : String}
    (hn : n.inExpression = true) : ¬ n.ShowsBelow around name := by
  rintro ⟨i, c, p, hc, ⟨hclass, -⟩, -⟩
  obtain ⟨k, hk, hk'⟩ := (Option.any_eq_true _ _).1 hclass
  cases k with
  | stmt s =>
      refine not_within_expression hn (s := s) ⟨i :: p, ?_⟩
      rw [at?_cons p hc, hk]
  | _ => cases hk'

/-- One child gives the names of the classes that it shows, if its own
children do. -/
theorem mem_classNamesIn {c : Node} {name : String}
    (ih : ∀ around, name ∈ c.classNames around ↔ c.ShowsBelow around name)
    (around : String) :
    name ∈ classNamesIn around c ↔
    ∃ p, c.ShowsClass p ∧ c.nameBelow around p = name := by
  rw [exists_showsClass_iff]
  -- what is neither class nor function passes the name on
  have hplain : c.isClass = false → c.definition? = none →
      (name ∈ c.classNames around ↔
        (c.isClass = true ∧ c.inside around = name) ∨
        (∀ d ∈ c.definition?, d.isClass = true) ∧
        c.ShowsBelow (c.inside around) name) := by
    intro hclass hdef
    have hsame : c.inside around = around := by
      unfold inside
      rw [hdef]
      exact Name.join_singleton around
    rw [ih around, hsame, hclass, hdef]
    simp
  cases c with
  | stmt s =>
      cases s with
      | classDef span className bases keywords body decorators =>
          refine List.mem_cons.trans (or_congr ?_ ?_)
          · exact ⟨fun hname => ⟨rfl, hname.symm⟩, fun hname => hname.2.symm⟩
          · refine (ih _).trans (and_iff_right ?_).symm
            rintro d ⟨⟩
            rfl
      | functionDef span isAsync functionName params body decorators returns =>
          constructor
          · intro hname
            cases hname
          · rintro (⟨hclass, -⟩ | ⟨hall, -⟩)
            · cases hclass
            · cases hall _ rfl
      | _ => exact hplain rfl rfl
  | expr e =>
      cases e with
      | lambda span params body =>
          constructor
          · intro hname
            cases hname
          · rintro (⟨hclass, -⟩ | ⟨-, hbelow⟩)
            · cases hclass
            · exact absurd hbelow (not_showsBelow_of_inExpression rfl)
      | _ => exact hplain rfl rfl
  | _ => exact hplain rfl rfl

/-- The recursion from the top finds the classes that a node shows, under
their names. -/
theorem mem_classNames {n : Node} {around name : String} :
    name ∈ n.classNames around ↔ n.ShowsBelow around name := by
  induction n using childrenInduction generalizing around with
  | step n ih =>
      rw [classNames_eq, List.mem_flatMap]
      constructor
      · rintro ⟨c, hc, hname⟩
        obtain ⟨i, hi⟩ := List.mem_iff_getElem?.1 hc
        obtain ⟨p, hshows, hp⟩ :=
          (mem_classNamesIn (fun _ => ih c hc) around).1 hname
        exact ⟨i, c, p, hi, hshows, hp⟩
      · rintro ⟨i, c, p, hi, hshows, hp⟩
        have hc := List.mem_of_getElem? hi
        exact ⟨c, hc,
          (mem_classNamesIn (fun _ => ih c hc) around).2 ⟨p, hshows, hp⟩⟩

end Node

/-- Where only classes are on the way, all their names count. -/
theorem countedNames_of_classes (around : Option Stmt) {ds : List Stmt}
    (hds : ∀ d ∈ ds, d.isClass = true) :
    countedNames around ds = ds.map Stmt.definedName := by
  induction ds generalizing around with
  | nil => rfl
  | cons d ds ih =>
      have hclass : d.isClass = true := hds d (by simp)
      have hfun : d.isFunction = false := by
        rw [Stmt.isFunction_eq_not_isClass
          (by simp [Stmt.isDefinition, hclass]), hclass]
        rfl
      rw [countedNames, hfun, ih _ fun e he => hds e (by simp [he])]
      rfl

/-- The classes that can be imported from a file are those outside of all
functions, under their qualified names. -/
theorem Module.mem_importableClasses {m : Module} {moduleName name : String} :
    name ∈ m.importableClasses moduleName ↔
      ∃ p, m.node.ShowsClass p ∧ m.qualified moduleName p = name := by
  have hroot : m.node.inside moduleName = moduleName :=
    Name.join_singleton moduleName
  have hnames : ∀ p, m.node.ShowsClass p →
      m.qualified moduleName p = m.node.nameBelow moduleName p := by
    intro p hshows
    show Name.join (moduleName :: countedNames none _) = _
    rw [countedNames_of_classes none hshows.2]
    rfl
  unfold importableClasses
  rw [SortedSet.mem_ofList, Node.mem_classNames]
  constructor
  · intro hbelow
    rw [← hroot] at hbelow
    obtain ⟨p, hshows, hp⟩ := Node.exists_showsClass_iff.2
      (Or.inr ⟨(fun d hd => by cases hd), hbelow⟩)
    exact ⟨p, hshows, (hnames p hshows).trans hp⟩
  · rintro ⟨p, hshows, hp⟩
    rw [hnames p hshows] at hp
    rcases Node.exists_showsClass_iff.1 ⟨p, hshows, hp⟩
      with ⟨hclass, -⟩ | ⟨-, hbelow⟩
    · cases hclass
    · rwa [hroot] at hbelow

-- ================================================== names from the lines

/-- Does a node define a function? -/
def Node.isFunction : Node → Bool
  | .stmt s => s.isFunction
  | _ => false

/-- A class is shown exactly when no function is around it. -/
theorem Node.showsClass_iff {n m : Node} {p : Place} (hp : n.at? p = some m) :
    n.ShowsClass p ↔
      m.isClass = true ∧ ∀ k ∈ (n.visitAt (p, m)).around,
      k.isFunction = false := by
  unfold ShowsClass
  rw [hp, Option.any_some, enclosing_eq_concat hp]
  refine and_congr_right fun hclass => ?_
  constructor
  · intro hall k hk
    cases k with
    | stmt s =>
        by_contra hne
        have hfun : s.isFunction = true := Bool.eq_true_of_not_eq_false hne
        have hdef : s.isDefinition = true := by simp [Stmt.isDefinition, hfun]
        have hway : Node.stmt s ∈ (n.along p).dropLast := List.mem_reverse.1 hk
        have hmem :=
          List.mem_filterMap.2 ⟨_, hway, definition?_eq_some.2 ⟨rfl, hdef⟩⟩
        have hnot := Stmt.isFunction_eq_not_isClass hdef
        rw [hfun, hall s (List.mem_append_left _ hmem)] at hnot
        cases hnot
    | _ => rfl
  · intro hall d hd
    rcases List.mem_append.1 hd with hway | hself
    · obtain ⟨k, hk, hkd⟩ := List.mem_filterMap.1 hway
      obtain ⟨rfl, hdef⟩ := definition?_eq_some.1 hkd
      have hfun : d.isFunction = false := hall _ (List.mem_reverse.2 hk)
      have hnot := Stmt.isFunction_eq_not_isClass hdef
      rw [hfun] at hnot
      simpa using hnot.symm
    · obtain ⟨rfl, -⟩ := definition?_eq_some.1 (Option.mem_toList.1 hself)
      exact hclass

namespace Collector

/-- Dealing with a visit stores a record under a name, whatever was found
before. -/
def Registers (c : Context) (v : Visit) (name : String) : Prop :=
  ∃ d : Definition, ∀ s : Collector, (s.visit c v).registry =
    s.registry.insert name d

theorem registers_iff {c : Context} {v : Visit} {name : String} :
    Registers c v name ↔ ∃ d, c.declared? v = some d ∧ d.name = name := by
  constructor
  · rintro ⟨d, hd⟩
    -- seen on an empty registry, the name is there because it was stored
    have hget : (c.enter {} v).get? name = some d := by
      rw [← (visit_spec c {} v).1, hd, Map.get?_insert, if_pos rfl]
    rw [Context.get?_enter Context.keyed_empty] at hget
    cases hdecl : c.declared? v with
    | some e =>
        simp only [hdecl] at hget
        split at hget
        next hname => exact ⟨e, rfl, hname.symm⟩
        next => cases hget
    | none =>
        cases hmarks : c.marks? v with
        | some mark =>
            simp only [hdecl, hmarks] at hget
            split at hget <;> cases hget
        | none =>
            simp only [hdecl, hmarks] at hget
            cases hget
  · rintro ⟨d, hd, rfl⟩
    refine ⟨d, fun s => ?_⟩
    rw [(visit_spec c s v).1]
    unfold Context.enter
    rw [hd]

end Collector

namespace Context

variable {c : Context}

/-- A class or file at a place is registered under its qualified name. -/
theorem registers_visitAt (h : c.tree.WellPlaced) {p : Place} {n : Node}
    (hp : c.tree.node.at? p = some n) (hrecord : n.hasRecord = true) :
    Collector.Registers c (c.tree.node.visitAt (p, n)) (c.qualified p) := by
  have hdeclared := map_name_declared? h hp
  rw [if_pos hrecord] at hdeclared
  exact Collector.registers_iff.2 (Option.map_eq_some_iff.1 hdeclared)

theorem mem_visits {v : Visit} :
    v ∈ c.visits ↔ ∃ p n, c.tree.node.at? p = some n ∧
    c.tree.node.visitAt (p, n) = v := by
  rw [visits_eq_map_placed, List.mem_map]
  simp only [Prod.exists, Node.mem_placed]

end Context

theorem Node.hasRecord_of_isClass {n : Node} (h : n.isClass = true) :
    n.hasRecord = true := by
  cases n with
  | stmt s => exact h
  | _ => cases h

/-- What the project defines is registered. -/
theorem mem_keys_of_mem_definedNames {config : Config} {files : List Source}
    (hplaced : ∀ f ∈ files, f.tree.WellPlaced) {name : String}
    (h : name ∈ definedNames files) :
    name ∈ (runChecks config files).1.registry.keys := by
  unfold definedNames at h
  rw [SortedSet.mem_ofList, List.mem_flatMap] at h
  obtain ⟨f, hf, hname⟩ := h
  rw [mem_keys_runChecks]
  refine ⟨f, hf, (Context.mem_keys_collect (hplaced f hf)).2 ?_⟩
  rcases List.mem_cons.1 hname with rfl | hclass
  · exact ⟨[], f.tree.node, rfl, rfl, f.tree.qualified_nil f.moduleName⟩
  · obtain ⟨p, hshows, hp⟩ := Module.mem_importableClasses.1 hclass
    obtain ⟨n, hn, hisclass⟩ := (Option.any_eq_true _ _).1 hshows.1
    exact ⟨p, n, hn, Node.hasRecord_of_isClass hisclass, hp⟩

/-- The two namings of classes agree. In a well-placed file, the walk stores
every class outside of functions under a name that the recursion from the
top gives, and each name that it gives is that of such a class. So in a run
over well-placed files every name that the project is said to define is
registered, and what `from a import b` refers to is `a` or registered. -/
theorem class_namings_agree :
    (∀ c : Context, c.tree.WellPlaced →
      (∀ v ∈ c.visits, v.node.isClass = true →
        (∀ n ∈ v.around, n.isFunction = false) →
        ∃ name ∈ c.tree.importableClasses c.moduleName,
        Collector.Registers c v name) ∧
      ∀ name ∈ c.tree.importableClasses c.moduleName,
        ∃ v ∈ c.visits, v.node.isClass = true ∧
        (∀ n ∈ v.around, n.isFunction = false) ∧
          Collector.Registers c v name) ∧
    ∀ (config : Config) (files : List Source),
    (∀ f ∈ files, f.tree.WellPlaced) →
      (∀ name ∈ definedNames files, name ∈
        (runChecks config files).1.registry.keys) ∧
      ∀ f ∈ files, ∀ span source names level,
        ∀ r ∈ (Node.stmt (.importFrom span source names level)).importTargets
            (f.context config (definedNames files)),
          r = Name.relative source level f.package ∨
            r ∈ (runChecks config files).1.registry.keys := by
  constructor
  · intro c h
    constructor
    · intro v hv hclass haround
      obtain ⟨p, n, hp, rfl⟩ := Context.mem_visits.1 hv
      have hshows := (Node.showsClass_iff hp).2 ⟨hclass, haround⟩
      exact ⟨c.qualified p, Module.mem_importableClasses.2 ⟨p, hshows, rfl⟩,
        Context.registers_visitAt h hp (Node.hasRecord_of_isClass hclass)⟩
    · intro name hname
      obtain ⟨p, hshows, rfl⟩ := Module.mem_importableClasses.1 hname
      obtain ⟨n, hp, -⟩ := (Option.any_eq_true _ _).1 hshows.1
      obtain ⟨hclass, haround⟩ := (Node.showsClass_iff hp).1 hshows
      exact ⟨_, Context.mem_visits.2 ⟨p, n, hp, rfl⟩, hclass, haround,
        Context.registers_visitAt h hp (Node.hasRecord_of_isClass hclass)⟩
  · intro config files hplaced
    refine ⟨fun name => mem_keys_of_mem_definedNames hplaced, ?_⟩
    intro f _ span source names level r hr
    cases Node.mem_importTargets.1 hr with
    | member _ hmem => exact Or.inr (mem_keys_of_mem_definedNames hplaced hmem)
    | home _ _ => exact Or.inl rfl

/-- A file with a class in a class, both under a condition, and a class in
a function. -/
def shelves : Source where
  path := ⟨.relative, ["app", "shelf.py"]⟩
  moduleName := "app.shelf"
  package := "app"
  tree := ⟨[
    .conditional ⟨1, 3, 0⟩ (.name ⟨1, 1, 3⟩ "wide") [
      .classDef ⟨2, 3, 4⟩ "Shelf" [] [] [emptyClass 3 8 "Slot"] []] [],
    .functionDef ⟨4, 5, 0⟩ false "make" ⟨[], [], none, [], [], none, []⟩
      [emptyClass 5 4 "Hidden"] [] none]⟩

/-- The names of `from .shelf import Shelf, make`. -/
def shelfNames : List ImportName :=
  [⟨⟨1, 1, 19⟩, "Shelf", none⟩, ⟨⟨1, 1, 26⟩, "make", none⟩]

/-- A file that imports the outer class and the function. -/
def shelfReader : Source where
  path := ⟨.relative, ["app", "reader.py"]⟩
  moduleName := "app.reader"
  package := "app"
  tree := ⟨[.importFrom ⟨1, 1, 0⟩ (some "shelf") shelfNames 1]⟩

theorem shelves_registered :
    (∀ f ∈ [shelves, shelfReader], f.tree.WellPlaced) ∧
    (∃ v ∈ (shelves.context {} {}).visits,
      Collector.Registers (shelves.context {} {}) v "app.shelf.Shelf.Slot") ∧
    "app.shelf.Shelf.Slot" ∈
      (runChecks {} [shelves, shelfReader]).1.registry.keys ∧
    ∀ r ∈ ["app.shelf.Shelf", "app.shelf"],
    r = Name.relative (some "shelf") 1 "app" ∨
      r ∈ (runChecks {} [shelves, shelfReader]).1.registry.keys := by
  have hplaced : ∀ f ∈ [shelves, shelfReader],
      f.tree.WellPlaced := by decide +kernel
  have hslot : "app.shelf.Shelf.Slot" ∈
      shelves.tree.importableClasses "app.shelf" := by
    decide +kernel
  obtain ⟨hfile, hrun⟩ := class_namings_agree
  obtain ⟨hdefined, htargets⟩ := hrun {} [shelves, shelfReader] hplaced
  refine ⟨hplaced, ?_, hdefined _ (by decide +kernel), ?_⟩
  · obtain ⟨v, hv, -, -, hregisters⟩ :=
      (hfile (shelves.context {} {}) (hplaced shelves (by simp))).2 _ hslot
    exact ⟨v, hv, hregisters⟩
  · intro r hr
    refine htargets shelfReader (by simp) ⟨1, 1, 0⟩ (some "shelf")
      shelfNames 1 r ?_
    have htarget :
        Node.importTargets
          (shelfReader.context {} (definedNames [shelves, shelfReader]))
          (.stmt (.importFrom ⟨1, 1, 0⟩ (some "shelf") shelfNames 1))
        = ["app.shelf.Shelf", "app.shelf"] := by
      decide +kernel
    rw [htarget]
    exact hr

end Purity
