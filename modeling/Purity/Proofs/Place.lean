/-
Places in a syntax tree, and the order in which a tree is visited.

A place is the way down from a node, child by child, so it tells two
equal parts of a tree apart: nesting of places is nesting in the text.
`at?` gives the node at a place and `along` all the nodes on the way to
it. `Within` forgets the place and only says that one node is part of
another; it is what every collection over a subtree sees, whether the
subtree is walked breadth first (`mem_walk`) or depth first
(`mem_visits`).

A visit is a node together with the nodes around it, the innermost
first. `visits` lists them as a walk meets them, each node before the
nodes below it. Consumed by the proofs about scopes, where places
matter, and by those about the collector, which is a fold over visits.
-/
import Purity.Syntax.Node

namespace Purity

/-- The way down from a node: which child to take at each step. -/
abbrev Place := List Nat

namespace Node

-- ============================================================== places

/-- The node at a place. -/
def at? : Node → Place → Option Node
  | n, [] => some n
  | n, i :: p =>
      match n.children[i]? with
      | some c => c.at? p
      | none => none

/-- The nodes on the way to a place, the outermost first and the node at
the place last. -/
def along : Node → Place → List Node
  | n, [] => [n]
  | n, i :: p =>
      match n.children[i]? with
      | some c => n :: c.along p
      | none => [n]

@[simp] theorem at?_nil (n : Node) : n.at? [] = some n := rfl

theorem at?_cons {n c : Node} {i : Nat} (p : Place)
    (hc : n.children[i]? = some c) : n.at? (i :: p) = c.at? p := by
  simp only [at?, hc]

theorem along_cons {n c : Node} {i : Nat} (p : Place)
    (hc : n.children[i]? = some c) : n.along (i :: p) = n :: c.along p := by
  simp only [along, hc]

/-- The first step to a place leads to a child. -/
theorem at?_cons_eq_some {n m : Node} {i : Nat} {p : Place}
    (h : n.at? (i :: p) = some m) :
    ∃ c, n.children[i]? = some c ∧ c.at? p = some m := by
  unfold at? at h
  split at h
  next c hc => exact ⟨c, hc, h⟩
  next => cases h

/-- A place below a place. -/
theorem at?_append {n m : Node} {p : Place} (q : Place)
    (h : n.at? p = some m) : n.at? (p ++ q) = m.at? q := by
  induction p generalizing n with
  | nil =>
      cases h
      rfl
  | cons i p ih =>
      obtain ⟨c, hc, hp⟩ := at?_cons_eq_some h
      rw [List.cons_append, at?_cons _ hc]
      exact ih hp

-- =============================================================== parts

/-- Is a node part of another, at whatever place? -/
def Within (m n : Node) : Prop := ∃ p, n.at? p = some m

theorem Within.refl (n : Node) : n.Within n := ⟨[], rfl⟩

theorem Within.of_child {m c n : Node} (hc : c ∈ n.children)
    (h : m.Within c) : m.Within n := by
  obtain ⟨i, hi⟩ := List.mem_iff_getElem?.1 hc
  obtain ⟨p, hp⟩ := h
  exact ⟨i :: p, by rw [at?_cons _ hi, hp]⟩

/-- A part of a node is the node itself or part of a child. -/
theorem within_iff {m n : Node} :
    m.Within n ↔ m = n ∨ ∃ c ∈ n.children, m.Within c := by
  constructor
  · rintro ⟨p, hp⟩
    cases p with
    | nil =>
        cases hp
        exact Or.inl rfl
    | cons i p =>
        obtain ⟨c, hc, hp⟩ := at?_cons_eq_some hp
        exact Or.inr ⟨c, List.mem_of_getElem? hc, p, hp⟩
  · rintro (rfl | ⟨c, hc, h⟩)
    · exact Within.refl _
    · exact h.of_child hc

theorem Within.trans {a b c : Node} (hab : a.Within b) (hbc : b.Within c) :
    a.Within c := by
  obtain ⟨p, hp⟩ := hbc
  obtain ⟨q, hq⟩ := hab
  exact ⟨p ++ q, by rw [at?_append q hp, hq]⟩

/-- A file is no part of anything else. -/
theorem module_not_mem_children {body : List Stmt} {n : Node} :
    Node.module body ∉ n.children := by
  cases n with
  | stmt s => cases s <;> simp [children, Stmt.children]
  | expr e => cases e <;> simp [children, Expr.children]
  | pattern p => cases p <;> simp [children, Pattern.children]
  | _ => simp [children]

theorem eq_of_module_within {body : List Stmt} {n : Node}
    (h : (Node.module body).Within n) : n = .module body := by
  induction n using childrenInduction with
  | step n ih =>
      rcases within_iff.1 h with hself | ⟨c, hc, hin⟩
      · exact hself.symm
      · rw [ih c hc hin] at hc
        exact absurd hc module_not_mem_children

/-- The levels of a walk hold exactly the parts of the nodes they start
from. -/
theorem mem_walkLevels {m : Node} (ns : List Node) :
    m ∈ walkLevels ns ↔ ∃ n ∈ ns, m.Within n := by
  fun_induction walkLevels ns with
  | case1 => simp
  | case2 n ns ih =>
      -- a part of a node on this level is that node, or on a lower level
      rw [List.mem_append, ih]
      simp only [List.mem_flatMap]
      constructor
      · rintro (h | ⟨c, ⟨k, hk, hc⟩, h⟩)
        · exact ⟨m, h, Within.refl m⟩
        · exact ⟨k, hk, h.of_child hc⟩
      · rintro ⟨k, hk, h⟩
        rcases within_iff.1 h with rfl | ⟨c, hc, h⟩
        · exact Or.inl hk
        · exact Or.inr ⟨c, ⟨k, hk, hc⟩, h⟩

/-- A walk over a node meets exactly its parts. -/
theorem mem_walk {m n : Node} : m ∈ n.walk ↔ m.Within n := by
  unfold walk
  rw [mem_walkLevels]
  simp

/-- Putting nodes in the order of the text neither adds nor drops one. -/
theorem mem_textOrder {m : Node} {nodes : List Node} :
    m ∈ textOrder nodes ↔ m ∈ nodes := by
  unfold textOrder
  exact List.mem_mergeSort

end Node

-- ============================================================== visits

/-- A node met by a walk, with the nodes around it, the innermost
first. -/
structure Visit where
  node : Node
  around : List Node

namespace Node

/-- A node and everything below it, each before the nodes below it. The
nodes in `around` stand around the first one. -/
def visits (around : List Node) (n : Node) : List Visit :=
  ⟨n, around⟩ :: n.children.attach.flatMap fun ⟨c, _⟩ => visits (n :: around) c
termination_by sizeOf n
decreasing_by exact Node.sizeOf_lt_of_mem_children ‹_›

theorem visits_eq (around : List Node) (n : Node) :
    n.visits around =
      ⟨n, around⟩ :: n.children.flatMap (visits (n :: around)) := by
  rw [visits]
  simp only [List.flatMap_subtype, List.unattach_attach]

/-- A walk visits exactly the parts of a node. -/
theorem exists_mem_visits {m n : Node} {around : List Node} :
    (∃ v ∈ n.visits around, v.node = m) ↔ m.Within n := by
  induction n using childrenInduction generalizing around with
  | step n ih =>
      rw [visits_eq, within_iff]
      simp only [List.mem_cons, List.mem_flatMap]
      constructor
      · rintro ⟨v, rfl | ⟨c, hc, hv⟩, rfl⟩
        · exact Or.inl rfl
        · exact Or.inr ⟨c, hc, (ih c hc).1 ⟨v, hv, rfl⟩⟩
      · rintro (rfl | ⟨c, hc, h⟩)
        · exact ⟨⟨m, around⟩, Or.inl rfl, rfl⟩
        · obtain ⟨v, hv, rfl⟩ := (ih c hc).2 h
          exact ⟨v, Or.inr ⟨c, hc, hv⟩, rfl⟩

/-- The nodes around a visit hold the visited node, as far as they are
part of the tree that is walked. -/
theorem within_of_mem_around {n m : Node} {around : List Node} {v : Visit}
    (hv : v ∈ n.visits around) (hm : m ∈ v.around) :
    m ∈ around ∨ v.node.Within m ∧ m.Within n := by
  induction n using childrenInduction generalizing around with
  | step n ih =>
      rw [visits_eq] at hv
      rcases List.mem_cons.1 hv with rfl | hv
      · exact Or.inl hm
      · obtain ⟨c, hc, hv⟩ := List.mem_flatMap.1 hv
        rcases ih c hc hv with hin | ⟨hw, hin⟩
        · rcases List.mem_cons.1 hin with rfl | hin
          · have hvc : v.node.Within c := exists_mem_visits.1 ⟨v, hv, rfl⟩
            exact Or.inr ⟨hvc.of_child hc, Within.refl _⟩
          · exact Or.inl hin
        · exact Or.inr ⟨hw, hin.of_child hc⟩

end Node

end Purity
