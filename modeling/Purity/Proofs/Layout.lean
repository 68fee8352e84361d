/-
The layout of a source text, as the spans in its tree tell it.

`WellPlaced` is what reading a text gives: the lines of a statement are
in order, they lie inside the lines of everything that the statement
stands in, and no statement starts on a line of a class or function that
it is not part of. Statements may still share lines with each other, and
the last two conditions are about places and not about values, so two
equal definitions side by side are not mistaken for one. `WellNamed`
says that every definition has a name.

Both can be computed from the list of all places (`placed`), and both hold
of every parsed file (`Module.wellFormed_of_parse`). Consumed by the proofs
about scopes and about everything that is named by scopes.
-/
import Purity.Proofs.Place
import Purity.Scope

namespace Purity

namespace Node

-- ==================================================== definitions at places

/-- The statement that a node is, if it is one. -/
def statement? : Node → Option Stmt
  | .stmt s => some s
  | _ => none

theorem statement?_eq_some {n : Node} {s : Stmt} :
    n.statement? = some s ↔ n = .stmt s := by
  cases n <;> simp [statement?]

/-- The definition at a place. -/
def definitionAt? (n : Node) (p : Place) : Option Stmt :=
  (n.at? p).bind Node.definition?

/-- The definitions on the way to a place, the outermost first. One at the
place itself is the last of them. -/
def enclosing (n : Node) (p : Place) : List Stmt :=
  (n.along p).filterMap Node.definition?

theorem definition?_eq_some {n : Node} {d : Stmt} :
    n.definition? = some d ↔ n = .stmt d ∧ d.isDefinition = true := by
  constructor
  · intro h
    unfold definition? at h
    split at h
    next s =>
      split at h
      next hs =>
        cases h
        exact ⟨rfl, hs⟩
      next => cases h
    next => cases h
  · rintro ⟨rfl, hd⟩
    simp [definition?, hd]

theorem definitionAt?_eq_some {n : Node} {p : Place} {d : Stmt} :
    n.definitionAt? p = some d ↔
      n.at? p = some (.stmt d) ∧ d.isDefinition = true := by
  unfold definitionAt?
  rw [Option.bind_eq_some_iff]
  constructor
  · rintro ⟨k, hk, hd⟩
    obtain ⟨rfl, hdef⟩ := definition?_eq_some.1 hd
    exact ⟨hk, hdef⟩
  · rintro ⟨hp, hd⟩
    exact ⟨_, hp, definition?_eq_some.2 ⟨rfl, hd⟩⟩

theorem definitionAt?_cons {n c : Node} {i : Nat} (p : Place)
    (hc : n.children[i]? = some c) :
    n.definitionAt? (i :: p) = c.definitionAt? p := by
  unfold definitionAt?
  rw [at?_cons p hc]

-- ========================================================== all places

/-- Every part of a node, with its place. -/
def placed (n : Node) : List (Place × Node) :=
  ([], n) :: n.children.zipIdx.attach.flatMap fun ⟨(c, i), _⟩ =>
    (placed c).map fun x => (i :: x.1, x.2)
termination_by sizeOf n
decreasing_by
  exact Node.sizeOf_lt_of_mem_children (List.fst_mem_of_mem_zipIdx ‹_›)

theorem placed_eq (n : Node) :
    n.placed = ([], n) :: n.children.zipIdx.flatMap fun x =>
      x.1.placed.map fun y => (x.2 :: y.1, y.2) := by
  rw [placed]
  simp only [List.flatMap_subtype, List.unattach_attach]

theorem mem_placed {n m : Node} {p : Place} :
    (p, m) ∈ n.placed ↔ n.at? p = some m := by
  induction n using childrenInduction generalizing p with
  | step n ih =>
      rw [placed_eq]
      simp only [List.mem_cons, List.mem_flatMap, List.mem_map, Prod.exists,
        Prod.mk.injEq, List.mem_zipIdx_iff_getElem?]
      constructor
      · rintro (⟨rfl, rfl⟩ | ⟨c, i, hc, q, k, hq, rfl, rfl⟩)
        · rfl
        · rw [at?_cons q hc]
          exact (ih c (List.mem_of_getElem? hc)).1 hq
      · intro h
        cases p with
        | nil =>
            cases h
            exact Or.inl ⟨rfl, rfl⟩
        | cons i p =>
            obtain ⟨c, hc, hp⟩ := at?_cons_eq_some h
            have hq := (ih c (List.mem_of_getElem? hc)).2 hp
            exact Or.inr ⟨c, i, hc, p, m, hq, rfl, rfl⟩

end Node

-- ============================================================== layout

namespace Module

/-- What the spans of a tree that was read from a text satisfy. -/
structure WellPlaced (m : Module) : Prop where
  /-- Lines are counted from 1, and no statement ends before it starts. -/
  ordered : ∀ p s, m.node.at? p = some (.stmt s) →
    1 ≤ s.span.line ∧ s.span.line ≤ s.span.endLine
  /-- A statement lies inside the lines of everything it stands in. -/
  inside : ∀ p q k span s, m.node.at? p = some k → k.span? = some span →
    m.node.at? (p ++ q) = some (.stmt s) →
    span.line ≤ s.span.line ∧ s.span.endLine ≤ span.endLine
  /-- A statement that starts on a line of a definition is part of it. -/
  apart : ∀ p q d s, m.node.definitionAt? p = some d →
    m.node.at? q = some (.stmt s) → d.span.holds s.span.line = true →
    p <+: q

/-- Every class starts on a line of everything that it stands in, and on one
of its own. Among the things that `WellPlaced` says, this one alone is
what keeps a class from being taken for the file around it. -/
def ClassesInside (m : Module) : Prop :=
  ∀ p q k s, m.node.at? p = some k → m.node.at? (p ++ q) = some (.stmt s) →
    s.isClass = true → k.mayHold s.span.line = true

/-- Every class and every function has a name. -/
def WellNamed (m : Module) : Prop :=
  ∀ p d, m.node.definitionAt? p = some d → d.definedName ≠ ""

/-- What `WellPlaced` asks of a node and a statement of one tree. -/
def Fits (x : Place × Node) (q : Place) (s : Stmt) : Prop :=
  (1 ≤ s.span.line ∧ s.span.line ≤ s.span.endLine) ∧
  (x.1 <+: q → ∀ span ∈ x.2.span?,
    span.line ≤ s.span.line ∧ s.span.endLine ≤ span.endLine) ∧
  (∀ d ∈ x.2.definition?, d.span.holds s.span.line = true → x.1 <+: q)

instance (x : Place × Node) (q : Place) (s : Stmt) : Decidable (Fits x q s) :=
  inferInstanceAs (Decidable (_ ∧ _ ∧ _))

theorem wellPlaced_iff {m : Module} :
    m.WellPlaced ↔ ∀ x ∈ m.node.placed, ∀ y ∈ m.node.placed,
      ∀ s ∈ y.2.statement?, Fits x y.1 s := by
  constructor
  · rintro h ⟨p, k⟩ hx ⟨q, y⟩ hy s hs
    rw [Node.mem_placed] at hx hy
    obtain rfl : y = .stmt s := Node.statement?_eq_some.1 hs
    refine ⟨h.ordered q s hy, ?_, ?_⟩
    · rintro ⟨t, rfl⟩ span hspan
      exact h.inside p t k span s hx hspan hy
    · intro d hd hline
      refine h.apart p q d s ?_ hy hline
      unfold Node.definitionAt?
      rw [hx]
      exact hd
  · intro h
    have hfits : ∀ {p k q s}, m.node.at? p = some k →
        m.node.at? q = some (.stmt s) → Fits (p, k) q s := by
      intro p k q s hp hq
      exact h (p, k) (Node.mem_placed.2 hp) (q, .stmt s)
        (Node.mem_placed.2 hq) s rfl
    refine ⟨?_, ?_, ?_⟩
    · intro p s hp
      exact (hfits hp hp).1
    · intro p q k span s hp hspan hs
      exact (hfits hp hs).2.1 (List.prefix_append p q) span hspan
    · intro p q d s hd hs hline
      obtain ⟨hp, hdef⟩ := Node.definitionAt?_eq_some.1 hd
      exact (hfits hp hs).2.2 d
        (Node.definition?_eq_some.2 ⟨rfl, hdef⟩) hline

instance (m : Module) : Decidable m.WellPlaced :=
  decidable_of_iff _ wellPlaced_iff.symm

/-- All definitions of a file, by its list of places. -/
theorem forall_definitionAt?_iff {m : Module} {P : Place → Stmt → Prop} :
    (∀ p d, m.node.definitionAt? p = some d → P p d) ↔
      ∀ x ∈ m.node.placed, ∀ d ∈ x.2.definition?, P x.1 d := by
  constructor
  · rintro h ⟨p, k⟩ hx d hd
    rw [Node.mem_placed] at hx
    refine h p d ?_
    unfold Node.definitionAt?
    rw [hx]
    exact hd
  · intro h p d hd
    obtain ⟨hp, hdef⟩ := Node.definitionAt?_eq_some.1 hd
    exact h (p, .stmt d) (Node.mem_placed.2 hp) d
      (Node.definition?_eq_some.2 ⟨rfl, hdef⟩)

instance (m : Module) : Decidable m.WellNamed :=
  decidable_of_iff _ forall_definitionAt?_iff.symm

end Module

end Purity
