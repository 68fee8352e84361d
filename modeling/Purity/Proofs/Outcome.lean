/-
Computations that may fail, read backwards: what a computation that ended
in a value, or in a failure, went through. Consumed by the proofs about
files, configurations and the command line.
-/
namespace Purity.Outcome

variable {ε ε' α β : Type} {x : Except ε α} {f : α → Except ε β} {a : α}
    {b : β} {e : ε}

/-- A sequence succeeds when each step does. -/
@[simp]
theorem bind_eq_ok : (x >>= f) = .ok b ↔ ∃ a, x = .ok a ∧ f a = .ok b := by
  cases x with
  | error e => simp [bind, Except.bind]
  | ok a => simp [bind, Except.bind]

/-- A sequence fails at its first step that does. -/
@[simp]
theorem bind_eq_error :
    (x >>= f) = .error e ↔ x = .error e ∨ ∃ a, x = .ok a ∧ f a = .error e := by
  cases x with
  | error e => simp [bind, Except.bind]
  | ok a => simp [bind, Except.bind]

@[simp]
theorem exists_unit_eq_ok {x : Except ε Unit} :
    (∃ u, x = .ok u) ↔ x = .ok () :=
  ⟨fun ⟨(), h⟩ => h, fun h => ⟨(), h⟩⟩

@[simp]
theorem throw_eq (e : ε) : (throw e : Except ε α) = .error e := rfl

@[simp]
theorem ok_bind (a : α) (f : α → Except ε β) : (.ok a >>= f) = f a := rfl

@[simp]
theorem pure_eq (a : α) : (pure a : Except ε α) = .ok a := rfl

theorem mapError_eq_ok {g : ε → ε'} : x.mapError g = .ok a ↔ x = .ok a := by
  cases x with
  | error e => exact ⟨nofun, nofun⟩
  | ok b =>
      show Except.ok b = Except.ok a ↔ Except.ok b = Except.ok a
      simp only [Except.ok.injEq]

end Purity.Outcome
