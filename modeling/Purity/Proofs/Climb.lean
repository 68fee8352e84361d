/-
The walk from a definition to those around it, and whether it ends. Each
step goes from a name to what is left of it without its last segment, and
that is shorter, so the walk has room to end within the length of the name
(`climb_ne_unfinished`). The one exception is the empty name, which is
what is left of itself: an unmarked record under it is looked at over and
over (`climb_empty`). So walks that never end and an unmarked record of
the empty name come together (`stuck_iff`).

Consumed by the proofs about the names of files and about inherited
purity.
-/
import Purity.Proofs.Collector
import Purity.Proofs.Name
import Purity.Verdict

namespace Purity.Registry

variable {r : Registry} {d around : Definition}

-- ============================================================= one step

theorem climb_of_marked (hmarked : d.marked = true) (steps : Nat) :
    r.climb (steps + 1) d = .marked d := by
  rw [climb, if_pos hmarked]

/-- The walk ends where the next name is not registered. -/
theorem climb_of_none (hunmarked : d.marked = false)
    (hnone : r.get? (Name.parent d.name) = none) (steps : Nat) :
    r.climb (steps + 1) d = .outside := by
  rw [climb, hnone]
  simp [hunmarked]

/-- The walk goes on with the record of the next name, in the same file. -/
theorem climb_of_around (hunmarked : d.marked = false)
    (haround : r.get? (Name.parent d.name) = some around)
    (hfile : around.filename = d.filename) (steps : Nat) :
    r.climb (steps + 1) d = r.climb steps around := by
  rw [climb, haround]
  simp [hunmarked, hfile]

/-- The walk ends where the next record is of another file. -/
theorem climb_of_elsewhere (hunmarked : d.marked = false)
    (haround : r.get? (Name.parent d.name) = some around)
    (hfile : around.filename ≠ d.filename) (steps : Nat) :
    r.climb (steps + 1) d = .outside := by
  rw [climb, haround]
  simp [hunmarked, hfile]

-- =============================================================== the end

/-- A walk ends within the length of the name, if it would end at the empty
name. -/
theorem climb_ne_unfinished (hkeyed : r.Keyed)
    (hend : ∀ e, r.get? "" = some e → e.marked = true) {steps : Nat}
    (hd : r.get? d.name = some d) (hsteps : d.name.length < steps) :
    r.climb steps d ≠ .unfinished := by
  induction steps generalizing d with
  | zero => omega
  | succ steps ih =>
      cases hmarked : d.marked with
      | true =>
          rw [climb_of_marked hmarked]
          exact Climb.noConfusion
      | false =>
          have hname : d.name ≠ "" := by
            intro hempty
            rw [hempty] at hd
            exact absurd (hend d hd) (by simp [hmarked])
          cases haround : r.get? (Name.parent d.name) with
          | none =>
              rw [climb_of_none hmarked haround]
              exact Climb.noConfusion
          | some around =>
              by_cases hfile : around.filename = d.filename
              · have hnext : around.name = Name.parent d.name :=
                  hkeyed _ _ haround
                have hshorter := Name.length_parent_lt hname
                rw [climb_of_around hmarked haround hfile]
                refine ih ?_ ?_
                · rw [hnext]
                  exact haround
                · rw [hnext]
                  omega
              · rw [climb_of_elsewhere hmarked haround hfile]
                exact Climb.noConfusion

/-- From an unmarked record of the empty name there is no way out. -/
theorem climb_empty (hd : r.get? "" = some d) (hname : d.name = "")
    (hunmarked : d.marked = false) (steps : Nat) :
    r.climb steps d = .unfinished := by
  have haround : r.get? (Name.parent d.name) = some d := by
    rw [hname]
    exact hd
  induction steps with
  | zero => rfl
  | succ steps ih => rw [climb_of_around hunmarked haround rfl, ih]

/-- Does the walk from some record never end? -/
def Stuck (r : Registry) : Prop :=
  ∃ name d, r.get? name = some d ∧ ∀ steps, r.climb steps d = .unfinished

/-- Walks get stuck at an unmarked record of the empty name, and nowhere
else. -/
theorem stuck_iff (hkeyed : r.Keyed) :
    r.Stuck ↔ ∃ d, r.get? "" = some d ∧ d.marked = false := by
  constructor
  · rintro ⟨name, d, hd, hforever⟩
    have hname : d.name = name := hkeyed name d hd
    by_contra hnone
    refine climb_ne_unfinished hkeyed ?_ (hname ▸
      hd) (Nat.lt_succ_self _) (hforever _)
    intro e he
    by_contra hmarked
    exact hnone ⟨e, he, by simpa using hmarked⟩
  · rintro ⟨d, hd, hunmarked⟩
    exact ⟨"", d, hd, climb_empty hd (hkeyed "" d hd) hunmarked⟩

end Purity.Registry
