/-
The uniform view of a syntax tree. A node is a module, a statement, an
expression or one of the parts between them; `children` lists the nodes
directly below one, in the order in which a tree is walked: the fields of
a function are its parameters, body, decorators and return annotation,
those of a class its bases, keywords, body and decorators, and a display
of entries lists all keys before all values.

Walks are defined here once: breadth first (`walk`), and the order of the
source text (`textOrder`). The recursion of every analysis over a tree
rests on `sizeOf_lt_of_mem_children`, and its proofs on `childrenInduction`.
-/
import Purity.Syntax.Tree

namespace Purity

/-- Any part of a syntax tree. -/
inductive Node where
  | module (body : List Stmt)
  | stmt (s : Stmt)
  | expr (e : Expr)
  | pattern (p : Pattern)
  | keyword (k : Keyword Expr)
  | params (ps : Params Expr)
  | param (p : Param Expr)
  | clause (c : Clause Expr)
  | importName (i : ImportName)
  | withItem (w : WithItem)
  | handler (h : Handler Stmt)
  | matchCase (c : MatchCase Stmt)

/-- A source file as a node. -/
def Module.node (m : Module) : Node := .module m.body

-- ============================================================= children

/-- The nodes directly below an expression. -/
def Expr.children : Expr → List Node
  | .name .. | .constant .. => []
  | .member _ value _ => [.expr value]
  | .subscript _ value index => [.expr value, .expr index]
  | .slice _ lower upper step =>
      lower.toList.map .expr ++ upper.toList.map .expr ++ step.toList.map .expr
  | .starred _ value => [.expr value]
  | .call _ func args keywords =>
      .expr func :: args.map .expr ++ keywords.map .keyword
  | .unary _ _ operand => [.expr operand]
  | .binary _ left _ right => [.expr left, .expr right]
  | .boolean _ _ values => values.map .expr
  | .compare _ left _ comparators => .expr left :: comparators.map .expr
  | .conditional _ test body orelse => [.expr test, .expr body, .expr orelse]
  | .lambda _ params body => [.params params, .expr body]
  | .assignment _ target value => [.expr target, .expr value]
  | .tuple _ items | .list _ items | .set _ items => items.map .expr
  | .dict _ entries =>
      (entries.filterMap Prod.fst).map .expr ++
        (entries.map Prod.snd).map .expr
  | .comprehension _ _ item clauses => .expr item :: clauses.map .clause
  | .dictComprehension _ key value clauses =>
      .expr key :: .expr value :: clauses.map .clause
  | .await _ value => [.expr value]
  | .yield _ value => value.toList.map .expr
  | .yieldFrom _ value => [.expr value]
  | .formatted _ value _ format => .expr value :: format.toList.map .expr
  | .joined _ parts => parts.map .expr

/-- The nodes directly below a pattern. -/
def Pattern.children : Pattern → List Node
  | .value _ e => [.expr e]
  | .singleton .. | .star .. => []
  | .sequence _ ps | .alternatives _ ps => ps.map .pattern
  | .mapping _ keys ps _ => keys.map .expr ++ ps.map .pattern
  | .object _ cls ps _ attrPatterns =>
      .expr cls :: ps.map .pattern ++ attrPatterns.map .pattern
  | .capture _ p _ => p.toList.map .pattern

/-- The nodes directly below a statement. -/
def Stmt.children : Stmt → List Node
  | .functionDef _ _ _ params body decorators returns =>
      .params params :: body.map .stmt ++ decorators.map .expr ++
        returns.toList.map .expr
  | .classDef _ _ bases keywords body decorators =>
      bases.map .expr ++ keywords.map .keyword ++ body.map .stmt ++
        decorators.map .expr
  | .returnValue _ value => value.toList.map .expr
  | .delete _ targets => targets.map .expr
  | .assign _ targets value => targets.map .expr ++ [.expr value]
  | .update _ target _ value => [.expr target, .expr value]
  | .annotated _ target annotation value =>
      .expr target :: .expr annotation :: value.toList.map .expr
  | .forLoop _ _ target iterable body orelse =>
      .expr target :: .expr iterable :: body.map .stmt ++ orelse.map .stmt
  | .whileLoop _ test body orelse | .conditional _ test body orelse =>
      .expr test :: body.map .stmt ++ orelse.map .stmt
  | .withBlock _ _ items body => items.map .withItem ++ body.map .stmt
  | .matchBlock _ subject cases => .expr subject :: cases.map .matchCase
  | .raise _ exception cause =>
      exception.toList.map .expr ++ cause.toList.map .expr
  | .tryBlock _ _ body handlers orelse cleanup =>
      body.map .stmt ++ handlers.map .handler ++ orelse.map .stmt ++
        cleanup.map .stmt
  | .assertion _ test message => .expr test :: message.toList.map .expr
  | .importModules _ names | .importFrom _ _ names _ => names.map .importName
  | .expression _ value => [.expr value]
  | .globalNames .. | .nonlocalNames .. | .pass .. | .breakLoop ..
  | .continueLoop .. => []

namespace Node

/-- The nodes directly below a node, in the order of a walk. -/
def children : Node → List Node
  | module body => body.map stmt
  | stmt s => s.children
  | expr e => e.children
  | pattern p => p.children
  | keyword k => [expr k.value]
  | params ⟨positionalOnly, regular, rest, keywordOnly, keywordDefaults,
      keywordRest, defaults⟩ =>
      positionalOnly.map param ++ regular.map param ++ rest.toList.map param
        ++ keywordOnly.map param ++ (keywordDefaults.filterMap id).map expr
        ++ keywordRest.toList.map param ++ defaults.map expr
  | param p => p.annotation.toList.map expr
  | clause c => expr c.target :: expr c.iterable :: c.conditions.map expr
  | importName _ => []
  | withItem w => expr w.value :: w.target.toList.map expr
  | handler h => h.exception.toList.map expr ++ h.body.map stmt
  | matchCase c =>
      pattern c.pattern :: c.guard.toList.map expr ++ c.body.map stmt

end Node

-- ================================================= children are smaller

theorem sizeOf_lt_of_mem_toList {α : Type} [SizeOf α] {x : α} {o : Option α}
    (h : x ∈ o.toList) :
    sizeOf x < sizeOf o := by
  cases o with
  | none => simp at h
  | some y => simp at h; subst h; simp

theorem sizeOf_lt_of_mem_keys {x : Expr} {l : List (Option Expr × Expr)}
    (h : x ∈ l.filterMap Prod.fst) : sizeOf x < sizeOf l := by
  obtain ⟨⟨k, v⟩, hm, hk⟩ := List.mem_filterMap.1 h
  have := List.sizeOf_lt_of_mem hm
  simp only at hk
  subst hk
  simp at this
  omega

theorem sizeOf_lt_of_mem_values {x : Expr} {l : List (Option Expr × Expr)}
    (h : x ∈ l.map Prod.snd) : sizeOf x < sizeOf l := by
  obtain ⟨⟨k, v⟩, hm, hk⟩ := List.mem_map.1 h
  have := List.sizeOf_lt_of_mem hm
  simp only at hk
  subst hk
  simp at this
  omega

theorem sizeOf_lt_of_mem_filterMap_id {x : Expr} {l : List (Option Expr)}
    (h : x ∈ l.filterMap id) : sizeOf x < sizeOf l := by
  obtain ⟨k, hm, hk⟩ := List.mem_filterMap.1 h
  have := List.sizeOf_lt_of_mem hm
  simp only [id] at hk
  subst hk
  simp at this
  omega

theorem Expr.sizeOf_lt_of_mem_children {c : Node} {e : Expr}
    (h : c ∈ e.children) :
    sizeOf c < 1 + sizeOf e := by
  cases e
  all_goals
    simp only [Expr.children, List.mem_append, List.mem_cons, List.mem_map,
      List.not_mem_nil, or_false] at h
  all_goals
    grind [→ List.sizeOf_lt_of_mem, → sizeOf_lt_of_mem_toList, →
      sizeOf_lt_of_mem_keys,
      → sizeOf_lt_of_mem_values]

theorem Pattern.sizeOf_lt_of_mem_children {c : Node} {p : Pattern}
    (h : c ∈ p.children) :
    sizeOf c < 1 + sizeOf p := by
  cases p
  all_goals
    simp only [Pattern.children, List.mem_append, List.mem_cons, List.mem_map,
      List.not_mem_nil, or_false] at h
  all_goals grind [→ List.sizeOf_lt_of_mem, → sizeOf_lt_of_mem_toList]

theorem Stmt.sizeOf_lt_of_mem_children {c : Node} {s : Stmt}
    (h : c ∈ s.children) :
    sizeOf c < 1 + sizeOf s := by
  cases s
  all_goals
    simp only [Stmt.children, List.mem_append, List.mem_cons, List.mem_map,
      List.not_mem_nil, or_false] at h
  all_goals grind [→ List.sizeOf_lt_of_mem, → sizeOf_lt_of_mem_toList]

namespace Node

/-- A child is smaller than the node it hangs on. -/
theorem sizeOf_lt_of_mem_children {c n : Node} (h : c ∈ n.children) :
    sizeOf c < sizeOf n := by
  cases n with
  | stmt s => exact Stmt.sizeOf_lt_of_mem_children h
  | expr e => exact Expr.sizeOf_lt_of_mem_children h
  | pattern p => exact Pattern.sizeOf_lt_of_mem_children h
  | keyword k =>
    obtain ⟨_, _, _⟩ := k
    simp only [children, List.mem_cons, List.not_mem_nil, or_false] at h
    grind
  | params ps =>
    obtain ⟨_, _, _, _, _, _, _⟩ := ps
    simp only [children, List.mem_append, List.mem_map] at h
    grind [→ List.sizeOf_lt_of_mem, → sizeOf_lt_of_mem_toList, →
      sizeOf_lt_of_mem_filterMap_id]
  | _ x =>
    cases x
    all_goals
      simp only [children, List.mem_append, List.mem_cons, List.mem_map,
        List.not_mem_nil] at h
    all_goals grind [→ List.sizeOf_lt_of_mem, → sizeOf_lt_of_mem_toList]

/-- What holds of a node as soon as it holds of its children, holds of
every node. -/
theorem childrenInduction {motive : Node → Prop}
    (step : ∀ n, (∀ c ∈ n.children, motive c) → motive n) (n : Node) :
    motive n :=
  step n fun c _ => childrenInduction step c
termination_by sizeOf n
decreasing_by exact sizeOf_lt_of_mem_children ‹_›

-- ============================================================ positions

/-- The span of a node. Modules, parameter lists, clauses, managed values
and cases have none. -/
def span? : Node → Option Span
  | stmt s => some s.span
  | expr e => some e.span
  | pattern p => some p.span
  | keyword k => some k.span
  | param p => some p.span
  | importName i => some i.span
  | handler h => some h.span
  | module _ | params _ | clause _ | withItem _ | matchCase _ => none

/-- Line and column of the first character; a node without a span comes
before everything else. -/
def position (n : Node) : Int × Nat :=
  match n.span? with
  | some s => (s.line, s.column)
  | none => (0, 0)

/-- Does a node start before another, or at the same place? -/
def startsNoLater (a b : Node) : Bool :=
  a.position.1 < b.position.1 ||
    (a.position.1 == b.position.1 && a.position.2 ≤ b.position.2)

/-- Nodes in the order of the source text. Those that start at one place
keep their order. -/
def textOrder (nodes : List Node) : List Node := nodes.mergeSort startsNoLater

-- ================================================================= walk

/-- The size of the largest node. -/
noncomputable def largest : List Node → Nat
  | [] => 0
  | n :: ns => max (sizeOf n) (largest ns)

theorem sizeOf_le_largest {n : Node} {ns : List Node} (h : n ∈ ns) :
    sizeOf n ≤ largest ns := by
  induction ns with
  | nil => simp at h
  | cons m ms ih =>
    unfold largest
    rcases List.mem_cons.1 h with rfl | h
    · exact Nat.le_max_left ..
    · exact Nat.le_trans (ih h) (Nat.le_max_right ..)

theorem sizeOf_pos (n : Node) : 0 < sizeOf n := by
  cases n <;> exact Nat.lt_of_lt_of_le Nat.zero_lt_one (Nat.le_add_right 1 _)

theorem largest_lt {ns : List Node} {bound : Nat} (pos : 0 < bound)
    (h : ∀ n ∈ ns, sizeOf n < bound) : largest ns < bound := by
  induction ns with
  | nil => exact pos
  | cons m ms ih =>
    unfold largest
    exact Nat.max_lt.2 ⟨h m (by simp), ih fun n hn => h n (by simp [hn])⟩

theorem largest_children_lt {n : Node} {ns : List Node} :
    largest ((n :: ns).flatMap children) < largest (n :: ns) := by
  apply largest_lt
  · exact Nat.lt_of_lt_of_le n.sizeOf_pos
      (sizeOf_le_largest List.mem_cons_self)
  · intro c hc
    obtain ⟨m, hm, hc⟩ := List.mem_flatMap.1 hc
    exact Nat.lt_of_lt_of_le (sizeOf_lt_of_mem_children hc)
      (sizeOf_le_largest hm)

/-- The given nodes, then all the nodes below them, level by level. -/
def walkLevels : List Node → List Node
  | [] => []
  | n :: ns => (n :: ns) ++ walkLevels ((n :: ns).flatMap children)
termination_by nodes => largest nodes
decreasing_by exact largest_children_lt

/-- A node and everything below it, breadth first. -/
def walk (n : Node) : List Node := walkLevels [n]

end Node

end Purity
