/-
What a piece of text refers to, as a relation. `Imports` gives the modules
that an import statement stands for, and `RefersTo` the names that a text
refers to at any depth, when a list of aliases says what its names mean:
by an import, by a call that imports a module when it runs, and by a call
of a function of a module that some import of the file binds.

The collector gathers references level by level, sorts them into the
order of the text and resolves the calls. None of this adds or drops a
name: each dependency of a text is the share of one node in it
(`mem_dependencies_iff_share`), so the dependencies are what the text
refers to, and the empty name is left out (`mem_dependencies`). Consumed
by the proofs about reports and about lost imports.
-/
import Purity.Proofs.Place
import Purity.Reference

namespace Purity

/-- The module that an import statement refers to by one of its names,
inside a package. -/
inductive Stmt.Imports (package : String) (project : NameSet) :
    Stmt → String → Prop where
  /-- `import a.b` refers to `a.b`. -/
  | module {span : Span} {names : List ImportName} {i : ImportName} :
      i ∈ names → Imports package project (.importModules span names) i.name
  /-- `from a import b` refers to `a.b` when the project defines it. -/
  | member {span : Span} {source : Option String} {names : List ImportName}
      {level : Nat}
      {i : ImportName} :
      i ∈ names →
      Name.join [Name.relative source level package, i.name] ∈ project →
      Imports package project (.importFrom span source names level)
        (Name.join [Name.relative source level package, i.name])
  /-- `from a import b` refers to `a` otherwise. -/
  | home {span : Span} {source : Option String} {names : List ImportName}
      {level : Nat}
      {i : ImportName} :
      i ∈ names →
      Name.join [Name.relative source level package, i.name] ∉ project →
      Imports package project (.importFrom span source names level)
        (Name.relative source level package)

namespace Node

variable {c : Context} {x : RawText}

/-- The module paths that a text calls functions of, at any depth: all but
the last segment of the path of a call that starts with a bound name. -/
inductive Calls (c : Context) (n : Node) : String → Prop where
  | call {span : Span} {func : Expr} {args : List Expr}
      {keywords : List (Keyword Expr)}
      {head : String} {rest : List String} :
      (Node.expr (.call span func args keywords)).Within n →
      func.path? = some (head :: rest) → rest ≠ [] → head ∈ c.boundNames →
      Calls c n (Name.join (head :: rest).dropLast)

/-- The names that a text refers to, at any depth. -/
inductive RefersTo (c : Context) (aliases : List Alias) (n : Node) :
    RawText → Prop where
  /-- By an import statement. -/
  | imported {s : Stmt} {r : String} :
      (Node.stmt s).Within n → s.Imports c.package c.project r →
      RefersTo c aliases n r
  /-- By a call that imports what its first argument says. -/
  | importCall {span : Span} {func argument : Expr} {args : List Expr}
      {keywords : List (Keyword Expr)} {path : List String} :
      (Node.expr (.call span func (argument :: args) keywords)).Within n →
      func.path? = some path → path ∈ importFunctions →
      RefersTo c aliases n (importedBy argument)
  /-- By a call of a function of a module. -/
  | called {path : String} :
      n.Calls c path → RefersTo c aliases n (Alias.resolve aliases path)

/-- The targets of an import statement are the modules it refers to. -/
theorem mem_importTargets {s : Stmt} {r : String} :
    r ∈ (Node.stmt s).importTargets c ↔ s.Imports c.package c.project r := by
  constructor
  · intro hx
    unfold importTargets at hx
    split at hx
    next heq =>
      cases heq
      obtain ⟨i, hi, rfl⟩ := List.mem_map.1 hx
      exact .module hi
    next heq =>
      cases heq
      obtain ⟨i, hi, rfl⟩ := List.mem_map.1 hx
      unfold memberModule
      simp only
      split
      next hmem => exact .member hi hmem
      next hmem => exact .home hi hmem
    next => cases hx
  · intro hx
    cases hx with
    | module hi => exact List.mem_map_of_mem hi
    | member hi hmem => exact List.mem_map.2 ⟨_, hi, if_pos hmem⟩
    | home hi hmem => exact List.mem_map.2 ⟨_, hi, if_neg hmem⟩

/-- Only import statements and calls import anything. -/
theorem mem_imported {m : Node} :
    x ∈ m.imported c ↔
      (∃ s r, m = .stmt s ∧ s.Imports c.package c.project r ∧ x = r) ∨
      ∃ span func argument args keywords path,
        m = .expr (.call span func (argument :: args) keywords) ∧
        func.path? = some path ∧ path ∈ importFunctions ∧
        x = importedBy argument := by
  constructor
  · intro hx
    unfold imported at hx
    split at hx
    next span func args keywords =>
      unfold calledImports at hx
      cases hpath : func.path? with
      | none => simp [hpath] at hx
      | some path =>
          cases args with
          | nil => simp [hpath] at hx
          | cons argument args =>
              simp only [hpath] at hx
              split at hx
              next hmem =>
                have hx : x = importedBy argument := by simpa using hx
                exact Or.inr ⟨span, func, argument, args, keywords, path, rfl,
                  hpath, hmem, hx⟩
              next => cases hx
    next =>
      obtain ⟨r, hr, rfl⟩ := List.mem_map.1 hx
      cases m with
      | stmt s => exact Or.inl ⟨s, r, rfl, mem_importTargets.1 hr, rfl⟩
      | _ => cases hr
  · rintro (⟨s, r, rfl, hs, rfl⟩ |
      ⟨span, func, argument, args, keywords, path, rfl, hpath, hmem, rfl⟩)
    · exact List.mem_map_of_mem (mem_importTargets.2 hs)
    · simp [imported, calledImports, hpath, hmem]

theorem exists_mem_called {n : Node} {path : String} :
    (∃ m : Node, m.Within n ∧ path ∈ m.called c) ↔ n.Calls c path := by
  constructor
  · rintro ⟨m, hm, hpath⟩
    unfold called at hpath
    split at hpath
    next span func args keywords =>
      split at hpath
      next head rest hfunc =>
        split at hpath
        next hbound =>
          rw [Bool.and_eq_true] at hbound
          rw [List.mem_singleton.1 hpath]
          exact .call hm hfunc (by simpa using hbound.1)
            (by simpa using hbound.2)
        next => cases hpath
      next => cases hpath
    next => cases hpath
  · rintro ⟨hm, hfunc, hrest, hhead⟩
    exact ⟨_, hm, by simp [called, hfunc, hrest, hhead]⟩

/-- What one node adds to the dependencies of a text that it stands in. -/
def share (c : Context) (aliases : List Alias) (m : Node) : List RawText :=
  let called :=
    (m.called c).map fun path => RawText.ofString (Alias.resolve aliases path)
  (m.imported c ++ called).filter (· ≠ RawText.ofString "")

theorem mem_share {m : Node} {aliases : List Alias} :
    x ∈ m.share c aliases ↔
      x ≠ "" ∧ (x ∈ m.imported c ∨
        ∃ path ∈ m.called c, x = Alias.resolve aliases path) := by
  unfold share
  simp only [List.mem_filter, List.mem_append, List.mem_map, decide_eq_true_eq,
    @eq_comm _ x]
  rw [and_comm]

/-- The dependencies of a text are the shares of its nodes. -/
theorem mem_dependencies_iff_share {n : Node} {visible : List Alias} :
    x ∈ n.dependencies c visible ↔
      ∃ m : Node, m.Within n ∧
      x ∈ m.share c (n.aliases c.package ++ visible) := by
  unfold dependencies references
  simp only [SortedSet.mem_ofList, List.mem_filter, List.mem_append,
    List.mem_map, List.mem_flatMap, mem_textOrder, mem_walk, decide_eq_true_eq,
    mem_share]
  constructor
  · rintro ⟨⟨m, hm, hx⟩ | ⟨path, ⟨m, hm, hpath⟩, rfl⟩, hne⟩
    · exact ⟨m, hm, hne, .inl hx⟩
    · exact ⟨m, hm, hne, .inr ⟨path, hpath, rfl⟩⟩
  · rintro ⟨m, hm, hne, hx | ⟨path, hpath, rfl⟩⟩
    · exact ⟨.inl ⟨m, hm, hx⟩, hne⟩
    · exact ⟨.inr ⟨path, ⟨m, hm, hpath⟩, rfl⟩, hne⟩

/-- The dependencies of a text are the names it refers to, when its own
aliases come before the visible ones. -/
theorem mem_dependencies {n : Node} {visible : List Alias} :
    x ∈ n.dependencies c visible ↔
      x ≠ "" ∧ n.RefersTo c (n.aliases c.package ++ visible) x := by
  rw [mem_dependencies_iff_share]
  simp only [mem_share, mem_imported]
  constructor
  · rintro ⟨m, hm, hne,
      (⟨s, r, rfl, hs, rfl⟩ |
        ⟨span, func, argument, args, keywords, path, rfl, hpath, hmem, rfl⟩) |
      ⟨path, hpath, rfl⟩⟩
    · exact ⟨hne, .imported hm hs⟩
    · exact ⟨hne, .importCall hm hpath hmem⟩
    · exact ⟨hne, .called (exists_mem_called.1 ⟨m, hm, hpath⟩)⟩
  · rintro ⟨hne, hrefers⟩
    cases hrefers with
    | imported hm hs => exact ⟨_, hm, hne, .inl (.inl ⟨_, _, rfl, hs, rfl⟩)⟩
    | importCall hm hpath hmem =>
        exact ⟨_, hm, hne,
          .inl (.inr ⟨_, _, _, _, _, _, rfl, hpath, hmem, rfl⟩)⟩
    | called hpath =>
        obtain ⟨m, hm, hcalled⟩ := exists_mem_called.2 hpath
        exact ⟨m, hm, hne, .inr ⟨_, hcalled, rfl⟩⟩

end Node

end Purity
