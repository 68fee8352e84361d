/-
The order of a walk, by places. A walk meets a node before the nodes
below it and the children of a node in turn, so it meets places in the
order of their steps: `placed` lists them that way (`pairwise_placed`),
and a walk visits just these places (`visits_eq_map_placed`).

What a place holds is met in one piece: whatever comes between a place
and a place below it is below it as well (`prefix_of_between`). This is
what ties the time at which a walk meets something to where it stands.
Consumed by the proofs about names, markers and registered definitions.
-/
import Mathlib.Data.List.Basic
import Purity.Proofs.Collector
import Purity.Proofs.Layout

namespace Purity

-- ======================================================= places in order

namespace Place

/-- Is a place met before another one? At the first step in which they
differ it takes the earlier child, or it ends there. -/
def Before (p q : Place) : Prop := List.Lex (· < ·) p q

theorem Before.irrefl (p : Place) : ¬ Before p p :=
  List.lex_irrefl Nat.lt_irrefl p

theorem Before.trans {p q r : Place} (hpq : Before p q) (hqr : Before q r) :
    Before p r :=
  List.lex_trans Nat.lt_trans hpq hqr

/-- A place is met before those below it. -/
theorem before_of_prefix {p q : Place} (hpre : p <+: q) (hne : p ≠ q) :
    Before p q := by
  induction p generalizing q with
  | nil =>
      cases q with
      | nil => exact absurd rfl hne
      | cons j q => exact .nil
  | cons i p ih =>
      obtain ⟨t, rfl⟩ := hpre
      exact .cons (ih (List.prefix_append p t) fun hsame =>
        hne (congrArg (i :: ·) hsame))

/-- What is met between a place and one below it is below it too. -/
theorem prefix_of_between {p q r : Place} (hpq : Before p q) (hqr : Before q r)
    (hpre : p <+: r) : p <+: q := by
  induction p generalizing q r with
  | nil => exact List.nil_prefix
  | cons i p ih =>
      obtain ⟨t, rfl⟩ := hpre
      -- the first step of `q` is neither after nor before that of the others
      cases hpq with
      | rel hlt =>
          cases hqr with
          | rel hgt => omega
          | cons _ => omega
      | cons hpq =>
          cases hqr with
          | rel hgt => omega
          | cons hqr =>
              exact List.cons_prefix_cons.2 ⟨rfl,
                ih hpq hqr (List.prefix_append p t)⟩

end Place

namespace Node

/-- All places of a tree are listed in order. -/
theorem pairwise_placed (n : Node) :
    n.placed.Pairwise fun x y => Place.Before x.1 y.1 := by
  induction n using childrenInduction with
  | step n ih =>
      rw [placed_eq, List.pairwise_cons]
      constructor
      · intro y hy
        obtain ⟨x, -, hy⟩ := List.mem_flatMap.1 hy
        obtain ⟨z, -, rfl⟩ := List.mem_map.1 hy
        exact .nil
      · rw [List.pairwise_flatMap]
        constructor
        · intro x hx
          rw [List.pairwise_map]
          refine (ih x.1 (List.fst_mem_of_mem_zipIdx hx)).imp ?_
          intro a b hab
          exact .cons hab
        · -- places in different children differ in their first step
          have hsteps : (n.children.zipIdx.map Prod.snd).Pairwise (· < ·) := by
            rw [List.zipIdx_map_snd]
            exact List.pairwise_lt_range' 1
          rw [List.pairwise_map] at hsteps
          refine hsteps.imp ?_
          intro a b hab x hx y hy
          obtain ⟨_, -, rfl⟩ := List.mem_map.1 hx
          obtain ⟨_, -, rfl⟩ := List.mem_map.1 hy
          exact .rel hab

-- ===================================================== visits by place

/-- The nodes on the way to a place end with the node there. -/
theorem along_eq_concat {n m : Node} {p : Place} (hp : n.at? p = some m) :
    n.along p = (n.along p).dropLast ++ [m] := by
  induction p generalizing n with
  | nil =>
      cases hp
      rfl
  | cons i p ih =>
      obtain ⟨c, hc, hp⟩ := at?_cons_eq_some hp
      rw [along_cons p hc, ih hp, ← List.cons_append, List.dropLast_concat]

/-- The way to a place in a child is the way inside the child, behind the
node. -/
theorem dropLast_along_cons {n c m : Node} {i : Nat} {p : Place}
    (hc : n.children[i]? = some c) (hp : c.at? p = some m) :
    (n.along (i :: p)).dropLast = n :: (c.along p).dropLast := by
  rw [along_cons p hc, along_eq_concat hp, ← List.cons_append,
    List.dropLast_concat, List.dropLast_concat]

/-- The visit of a place: the node there, with the nodes on the way to it
around it. -/
def visitAt (n : Node) (x : Place × Node) : Visit :=
  ⟨x.2, (n.along x.1).dropLast.reverse⟩

theorem visits_eq_map (n : Node) (around : List Node) :
    n.visits around
      = n.placed.map fun x =>
        ⟨x.2, (n.along x.1).dropLast.reverse ++ around⟩ := by
  induction n using childrenInduction generalizing around with
  | step n ih =>
      have hchildren : n.children.flatMap (visits (n :: around))
          = n.children.zipIdx.flatMap fun x => x.1.visits (n :: around) := by
        rw [← List.flatMap_map Prod.fst, List.zipIdx_map_fst]
      rw [visits_eq, placed_eq, List.map_cons, List.map_flatMap, hchildren]
      congr 1
      refine List.flatMap_congr ?_
      rintro ⟨c, i⟩ hx
      have hc : n.children[i]? = some c := List.mem_zipIdx_iff_getElem?.1 hx
      rw [ih c (List.mem_of_getElem? hc), List.map_map]
      refine List.map_congr_left ?_
      rintro ⟨p, m⟩ hp
      simp [dropLast_along_cons hc (mem_placed.1 hp)]

end Node

/-- A walk over a file visits the places of its tree in order. -/
theorem Context.visits_eq_map_placed (c : Context) :
    c.visits = c.tree.node.placed.map c.tree.node.visitAt := by
  unfold Context.visits
  rw [Node.visits_eq_map]
  simp only [List.append_nil]
  rfl

end Purity
