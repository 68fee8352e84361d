/-
Imports and the dependencies they leave. Every dependency of a text is the
share of one node in it (`mem_dependencies_iff_share`), so an import is
lost when its node has no share, and that happens in two ways.

- A relative import without a module text has the package that its dots
  lead to as its only name. Each dot but the first leaves a package, and
  dots that lead out of all of them leave no name (`relative_eq_empty_iff`).
  The import then counts only if the project defines the member itself.
- A call that imports a module when it runs is read by its first argument.
  A module that is given by name instead is not seen
  (`imported_importCall`).

Every other import is a dependency. A third kind ends the collection
without an answer: an argument that is no plain name and cannot be written
(`obstacle?_eq_none_iff`).
-/
import Purity.Proofs.Order
import Purity.Proofs.Reference
import Purity.Proofs.RelativeName

namespace Purity

-- ======================================================= relative names

namespace Name

/-- Do the dots of a relative import lead out of a package? Each dot but the
first leaves one segment, and empty segments are no packages. -/
def LeadsOut (level : Nat) (package : String) : Prop :=
  ∀ s ∈ (segments package).take ((segments package).length + 1 - level), s = ""

instance (level : Nat) (package : String) :
    Decidable (LeadsOut level package) :=
  inferInstanceAs (Decidable (∀ s ∈ _, s = ""))

theorem relative_eq_empty_iff {source : Option String} {level : Nat}
    {package : String} :
    relative source level package = "" ↔
      source.getD "" = "" ∧ (level = 0 ∨ LeadsOut level package) := by
  cases level with
  | zero => simp [relative]
  | succ n =>
      have hsource : (∀ s ∈ source.toList, s = "") ↔ source.getD "" = "" := by
        cases source <;> simp
      have hleft : (∀ s ∈ (segments package).rdrop n, s = "") ↔
          LeadsOut (n + 1) package := by
        rw [LeadsOut, Nat.add_sub_add_right]
        rfl
      rw [Int.natCast_succ, relative_eq_rdrop, join_eq_empty,
        List.forall_mem_append, hsource, hleft]
      simp [and_comm]

end Name

-- ==================================================== import statements

variable {c : Context} {i : ImportName} {x : RawText}

namespace Stmt

/-- The names that an import statement lists. -/
def importNames : Stmt → List ImportName
  | .importModules _ names | .importFrom _ _ names _ => names
  | _ => []

/-- The module that an import statement refers to by one of its names. -/
def targetOf (c : Context) (s : Stmt) (i : ImportName) : String :=
  match s with
  | .importFrom _ source _ level =>
      memberModule c.project (Name.relative source level c.package) i
  | _ => i.name

/-- Does a name of an import statement refer to no module? Only an imported
member can: no module text stands with it, its dots lead out of all
packages, and the project does not define it there. Without dots there is
always a module text. -/
def Loses (c : Context) : Stmt → ImportName → Prop
  | .importFrom _ source _ level, i =>
      (source.getD "" = "" ∧ (level = 0 ∨ Name.LeadsOut level c.package)) ∧
        i.name ∉ c.project
  | _, _ => False

theorem targetOf_eq_empty_iff {s : Stmt} (hname : i.name ≠ "") :
    s.targetOf c i = "" ↔ s.Loses c i := by
  cases s with
  | importFrom span source names level =>
      unfold targetOf Loses memberModule
      simp only
      rw [← Name.relative_eq_empty_iff]
      generalize Name.relative source level c.package = base
      by_cases hbase : base = ""
      · rw [hbase, Name.join_empty_left]
        by_cases hmem : i.name ∈ c.project
        · simp [hmem, hname]
        · simp [hmem]
      · have hmember : Name.join [base, i.name] ≠ "" := fun hempty =>
          hname (Name.join_eq_empty.1 hempty _ (by simp))
        split
        · simp [hmember, hbase]
        · simp [hbase]
  | _ => exact iff_of_false hname id

end Stmt

-- ========================================================= single nodes

namespace Node

variable {aliases : List Alias}

theorem imported_stmt (s : Stmt) :
    (Node.stmt s).imported c =
      (s.importNames.map (s.targetOf c)).map RawText.ofString := by
  cases s with
  | importModules => rfl
  | importFrom => rfl
  | _ => rfl

/-- The share of a statement is made by its imports. -/
theorem share_stmt (s : Stmt) :
    (Node.stmt s).share c aliases
      = ((s.importNames.map (s.targetOf c)).filter (· ≠ "")).map
        RawText.ofString := by
  have hcalled : (Node.stmt s).called c = [] := rfl
  have hempty : (fun x : RawText => decide (x ≠ RawText.ofString "")) ∘
      RawText.ofString
      = fun r => decide (r ≠ "") := by
    funext r
    simp [RawText.ofString_inj]
  simp only [share, imported_stmt, hcalled, List.map_nil, List.append_nil]
  rw [List.filter_map, hempty]

end Node

-- ========================================================= import calls

/-- Does a call of a function import a module when it runs? -/
def Expr.importsModule (func : Expr) : Bool :=
  func.path?.any importFunctions.contains

theorem Expr.importsModule_iff {func : Expr} :
    func.importsModule = true ↔ ∃ path, func.path? = some path ∧
    path ∈ importFunctions := by
  unfold importsModule
  simp [Option.any_eq_true]

/-- A module that is imported by a call has a name. -/
theorem importedBy_ne_empty (argument : Expr) : importedBy argument ≠ "" := by
  unfold importedBy
  cases hnamed : namedModule? argument with
  | none =>
      rw [Option.getD_none, Ne, RawText.ofString_inj]
      intro hempty
      simp [Name.dynamicMark] at hempty
  | some name =>
      unfold namedModule? at hnamed
      split at hnamed
      next =>
        simp only [Option.ite_none_left_eq_some, Bool.or_eq_true,
          decide_eq_true_eq] at hnamed
        obtain ⟨hplain, hname⟩ := hnamed
        rw [Option.getD_some, ← Option.some.inj hname]
        exact fun hempty => hplain (.inl (congrArg RawText.points hempty))
      next => cases hnamed

namespace Node

variable {n : Node} {aliases : List Alias} {span : Span} {func : Expr}
    {args : List Expr}
  {keywords : List (Keyword Expr)}

/-- A call is asked for its first argument and for nothing else. -/
theorem imported_importCall (hfunc : func.importsModule = true) :
    (Node.expr (.call span func args keywords)).imported c
      = (args.head?.map importedBy).toList := by
  obtain ⟨path, hpath, hmem⟩ := Expr.importsModule_iff.1 hfunc
  simp [imported, hpath, calledImports, hmem]

/-- Besides its first argument, such a call can only refer to the module
that the function is taken from. -/
theorem share_importCall (hfunc : func.importsModule = true)
    (hx : x ∈ (Node.expr (.call span func args keywords)).share c aliases) :
    (∃ argument, args.head? = some argument ∧ x = importedBy argument) ∨
      func.path? = some ["importlib", "import_module"] ∧
        x = Alias.resolve aliases "importlib" := by
  rcases (mem_share.1 hx).2 with himported | ⟨path, hcalled, rfl⟩
  · rw [imported_importCall hfunc, Option.mem_toList,
      Option.map_eq_some_iff] at himported
    obtain ⟨argument, hfirst, rfl⟩ := himported
    exact .inl ⟨argument, hfirst, rfl⟩
  · right
    obtain ⟨whole, hwhole, hmem⟩ := Expr.importsModule_iff.1 hfunc
    unfold importFunctions at hmem
    rcases List.mem_cons.1 hmem with rfl | hmem
    · refine ⟨hwhole, ?_⟩
      simp only [called, hwhole] at hcalled
      split at hcalled
      next =>
        rw [List.mem_singleton.1 hcalled]
        rfl
      next => cases hcalled
    · obtain rfl := List.mem_singleton.1 hmem
      simp [called, hwhole] at hcalled

theorem importsUnwritable_iff {m : Node} :
    m.importsUnwritable = true ↔
      ∃ span func argument args keywords,
        m = .expr (.call span func (argument :: args) keywords) ∧
        func.importsModule = true ∧
          ¬ ((namedModule? argument).isSome ∨ argument.isWritable = true) := by
  constructor
  · intro hm
    unfold importsUnwritable at hm
    split at hm
    next span func argument args keywords =>
      rw [Bool.and_eq_true, Bool.and_eq_true] at hm
      have hfunc : func.importsModule = true := by
        rw [Expr.importsModule_iff]
        simpa [Option.any_eq_true] using hm.1.1
      refine ⟨span, func, argument, args, keywords, rfl, hfunc, ?_⟩
      simpa using And.intro hm.1.2 hm.2
    next => cases hm
  · rintro ⟨span, func, argument, args, keywords, rfl, hfunc, hneither⟩
    rw [not_or] at hneither
    obtain ⟨path, hpath, hmem⟩ := Expr.importsModule_iff.1 hfunc
    simp_all [importsUnwritable]

/-- The dependencies of a text can be told when every module that a call in
it imports has a name in the text or an argument that can be written. -/
theorem obstacle?_eq_none_iff :
    n.obstacle? = none ↔
      ∀ span func argument args keywords,
        (Node.expr (.call span func (argument :: args) keywords)).Within n →
        func.importsModule = true → (namedModule? argument).isSome ∨
        argument.isWritable = true := by
  unfold obstacle?
  rw [ite_eq_right_iff]
  simp only [reduceCtorEq, imp_false, List.any_eq_true, mem_walk,
    importsUnwritable_iff, not_exists, not_and]
  constructor
  · intro hall span func argument args keywords hin hfunc
    by_contra hneither
    exact hall _ hin span func argument args keywords rfl hfunc hneither
  · rintro hall m hin span func argument args keywords rfl hfunc hneither
    exact hneither (hall span func argument args keywords hin hfunc)

end Node

-- ========================================================= lost imports

/-- Which imports of a text are lost. The dependencies of a text are the
shares of the nodes in it. A statement has those of its names as its
share, and each is a dependency unless it loses it. A call that imports a
module when it runs has its first argument as its share, and that is a
dependency; what is given by name is in no share. The collection ends
without an answer just when such an argument can be neither read nor
written. -/
theorem imports_lost_iff (c : Context) (n : Node) (visible : List Alias) :
    let aliases := n.aliases c.package ++ visible
    (∀ x, x ∈ n.dependencies c visible ↔
      ∃ m : Node, m.Within n ∧ x ∈ m.share c aliases) ∧
    (∀ s, (Node.stmt s).Within n →
      (Node.stmt s).share c aliases
        = ((s.importNames.map (s.targetOf c)).filter (· ≠ "")).map
          RawText.ofString ∧
      ∀ i ∈ s.importNames, i.name ≠ "" →
        (RawText.ofString (s.targetOf c i) ∈ n.dependencies c visible ↔
          ¬ s.Loses c i)) ∧
    (∀ span func args keywords,
      (Node.expr (.call span func args keywords)).Within n →
      func.importsModule = true →
      (∀ argument, args.head? = some argument →
        importedBy argument ≠ "" ∧
        importedBy argument ∈ n.dependencies c visible) ∧
      ∀ x ∈ (Node.expr (.call span func args keywords)).share c aliases,
        (∃ argument, args.head? = some argument ∧ x = importedBy argument) ∨
          func.path? = some ["importlib", "import_module"] ∧
            x = Alias.resolve aliases "importlib") ∧
    (n.obstacle? = none ↔
      ∀ span func argument args keywords,
        (Node.expr (.call span func (argument :: args) keywords)).Within n →
        func.importsModule = true →
        (namedModule? argument).isSome ∨ argument.isWritable = true) := by
  refine ⟨fun x => Node.mem_dependencies_iff_share, ?_, ?_,
    Node.obstacle?_eq_none_iff⟩
  · intro s hin
    refine ⟨Node.share_stmt s, fun i hi hname => ?_⟩
    rw [← Stmt.targetOf_eq_empty_iff hname, Node.mem_dependencies_iff_share]
    constructor
    · rintro ⟨m, -, hshare⟩ hempty
      exact (Node.mem_share.1 hshare).1 (congrArg RawText.ofString hempty)
    · intro hne
      refine ⟨_, hin, ?_⟩
      rw [Node.share_stmt]
      refine List.mem_map_of_mem
        (List.mem_filter.2 ⟨List.mem_map_of_mem hi, ?_⟩)
      simpa using hne
  · intro span func args keywords hin hfunc
    refine ⟨fun argument hfirst => ?_, fun x => Node.share_importCall hfunc⟩
    have hne := importedBy_ne_empty argument
    refine ⟨hne, Node.mem_dependencies_iff_share.2 ⟨_, hin,
      Node.mem_share.2 ⟨hne, .inl ?_⟩⟩⟩
    rw [Node.imported_importCall hfunc, hfirst]
    exact List.mem_singleton_self _

/-- An import of one member of a module. -/
def memberImport (line : Int) (source : Option String) (name : String)
    (level : Nat) : Stmt :=
  .importFrom ⟨line, line, 0⟩ source [⟨⟨line, line, 0⟩, name, none⟩] level

/-- A script outside of all packages, which imports a neighbour and asks for
a module by a named argument:

    from importlib import import_module
    from . import helpers
    import_module(name="os") -/
def script : Context :=
  Context.ofTree "pure_module" {} ⟨[
    memberImport 1 (some "importlib") "import_module" 0,
    memberImport 2 none "helpers" 1,
    .expression ⟨3, 3, 0⟩ (.call ⟨3, 3, 0⟩ (.name ⟨3, 3, 0⟩ "import_module") []
      [⟨⟨3, 3, 14⟩, some "name",
        .constant ⟨3, 3, 19⟩ (.text (Text.points ['o', 's']) false)⟩])]⟩
    "script" "" "script.py" (.ofList ["script"])

/-- The neighbour is lost and so is the module that the call asks for: of the
three imports only that of the function is left. -/
theorem script_keeps_importlib_alone :
    (∀ i ∈ (memberImport 2 none "helpers" 1).importNames,
      (memberImport 2 none "helpers" 1).Loses script i ∧
      RawText.ofString ((memberImport 2 none "helpers" 1).targetOf script i)
        ∉ script.tree.node.dependencies script []) ∧
    ∀ x, x ∈ script.tree.node.dependencies script [] ↔ x = "importlib" := by
  obtain ⟨hshares, hstatements, -, -⟩ :=
    imports_lost_iff script script.tree.node []
  constructor
  · intro i hi
    obtain rfl := List.mem_singleton.1 hi
    have hloses : (memberImport 2 none "helpers" 1).Loses script ⟨⟨2, 2, 0⟩,
        "helpers", none⟩ :=
      ⟨⟨rfl, .inr (by decide)⟩, by decide⟩
    have hkept :=
      (hstatements (memberImport 2 none "helpers" 1) ⟨[1], rfl⟩).2 _ hi
        (by decide)
    exact ⟨hloses, fun hmem => hkept.1 hmem hloses⟩
  · intro x
    constructor
    · intro hx
      obtain ⟨m, ⟨p, hp⟩, hm⟩ := (hshares x).1 hx
      have hall : ∀ y ∈ script.tree.node.placed,
          ∀ z ∈ y.2.share script (script.tree.node.aliases "" ++ []),
          z = "importlib" := by
        decide +kernel
      exact hall (p, m) (Node.mem_placed.2 hp) x hm
    · rintro rfl
      have hkept :=
        (hstatements (memberImport 1 (some "importlib") "import_module" 0)
        ⟨[0], rfl⟩).2 _ (List.mem_singleton_self _) (by decide)
      exact hkept.2 fun hloses => absurd hloses.1.1 (by decide)

end Purity
