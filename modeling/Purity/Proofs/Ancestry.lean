/-
Acceptance by what stands above a name. A registry accepts an unmarked
name because of another record, found by dropping the last segment of the
name over and over. Which record that is can be said without the walk:
`MarkedAbove` counts the segments that are dropped, and asks that every
name on the way is registered by one and the same file and is unmarked,
but for the last one.

Each drop takes away one dot (`dots_parent`), and after the last dot
comes the empty name, which nothing is registered under. So a walk has
ended after one look more than the name has dots, and it has ended at the
marked record above the name if there is one, and outside if there is
none (`climb_eq_marked_iff`). Consumed by the proofs about trust.
-/
import Mathlib.Logic.Function.Iterate
import Purity.Proofs.Climb
import Purity.Proofs.Finding

namespace Purity

-- =============================================================== dots

namespace Name

/-- The number of dots in a name. -/
def dots (name : String) : Nat := name.toList.count '.'

/-- What is left of a name without its last segment has one dot less, and
is empty if there was none. -/
theorem dots_parent (name : String) :
    (dots name = 0 ∧ parent name = "") ∨
    dots name = dots (parent name) + 1 := by
  unfold dots parent
  rw [String.toList_ofList]
  by_cases hdot : '.' ∈ name.toList
  · obtain ⟨p, rest, hname, hrest⟩ := exists_last_dot hdot
    refine Or.inr ?_
    rw [hname, parentChars_append hrest, List.count_append,
      List.count_cons_self, List.count_eq_zero.2 hrest]
  · refine Or.inl ⟨List.count_eq_zero.2 hdot, ?_⟩
    rw [parentChars_eq_nil hdot, String.ofList_nil]

theorem dots_le_length (name : String) : dots name ≤ name.length := by
  unfold dots
  rw [← String.length_toList]
  exact List.count_le_length

end Name

namespace Registry

variable {r : Registry} {d e : Definition} {name file : String} {k : Nat}

-- ======================================================== marked above

/-- The marked definition above a name: dropping the last segment `k` times
leads to it, and every name on the way is registered by the same file and
is unmarked. -/
structure MarkedAbove (r : Registry) (file name : String) (k : Nat)
    (e : Definition) : Prop where
  unmarked : ∀ i < k, ∃ s, r.get? (Name.parent^[i] name) = some s ∧
    s.filename = file ∧
    s.marked = false
  registered : r.get? (Name.parent^[k] name) = some e
  filename_eq : e.filename = file
  marked : e.marked = true

theorem markedAbove_zero :
    r.MarkedAbove file name 0 e ↔ r.get? name = some e ∧ e.filename = file ∧
    e.marked = true := by
  constructor
  · rintro ⟨-, hregistered, hfile, hmarked⟩
    exact ⟨hregistered, hfile, hmarked⟩
  · rintro ⟨hregistered, hfile, hmarked⟩
    exact ⟨fun i hi => absurd hi (Nat.not_lt_zero i), hregistered, hfile,
      hmarked⟩

/-- One segment more is one unmarked record more. -/
theorem markedAbove_succ :
    r.MarkedAbove file name (k + 1) e ↔
      (∃ s, r.get? name = some s ∧ s.filename = file ∧ s.marked = false) ∧
        r.MarkedAbove file (Name.parent name) k e := by
  constructor
  · rintro ⟨hunmarked, hregistered, hfile, hmarked⟩
    refine ⟨hunmarked 0 (Nat.succ_pos k), ?_, hregistered, hfile, hmarked⟩
    exact fun i hi => hunmarked (i + 1) (Nat.succ_lt_succ hi)
  · rintro ⟨hfirst, hunmarked, hregistered, hfile, hmarked⟩
    refine ⟨fun i hi => ?_, hregistered, hfile, hmarked⟩
    cases i with
    | zero => exact hfirst
    | succ i => exact hunmarked i (Nat.lt_of_succ_lt_succ hi)

/-- What has a marked definition above it is registered by the same file. -/
theorem MarkedAbove.exists_get? (h : r.MarkedAbove file name k e) :
    ∃ s, r.get? name = some s ∧ s.filename = file := by
  cases k with
  | zero =>
      obtain ⟨hregistered, hfile, -⟩ := markedAbove_zero.1 h
      exact ⟨e, hregistered, hfile⟩
  | succ k =>
      obtain ⟨⟨s, hs, hfile, -⟩, -⟩ := markedAbove_succ.1 h
      exact ⟨s, hs, hfile⟩

/-- Nothing but a marked record itself is the marked definition above it. -/
theorem exists_markedAbove_of_marked (hd : r.get? name = some d)
    (hmarked : d.marked = true) :
    (∃ k, r.MarkedAbove d.filename name k e) ↔ d = e := by
  constructor
  · rintro ⟨k, h⟩
    cases k with
    | zero => exact Option.some.inj (hd.symm.trans (markedAbove_zero.1 h).1)
    | succ k =>
        obtain ⟨⟨s, hs, -, hunmarked⟩, -⟩ := markedAbove_succ.1 h
        obtain rfl : d = s := Option.some.inj (hd.symm.trans hs)
        rw [hmarked] at hunmarked
        cases hunmarked
  · rintro rfl
    exact ⟨0, markedAbove_zero.2 ⟨hd, rfl, hmarked⟩⟩

/-- The marked definition above an unmarked record is the one above the next
name. -/
theorem exists_markedAbove_of_unmarked (hd : r.get? name = some d)
    (hunmarked : d.marked = false) :
    (∃ k, r.MarkedAbove d.filename name k e) ↔
      ∃ k, r.MarkedAbove d.filename (Name.parent name) k e := by
  constructor
  · rintro ⟨k, h⟩
    cases k with
    | zero =>
        obtain ⟨he, -, hmarked⟩ := markedAbove_zero.1 h
        obtain rfl : d = e := Option.some.inj (hd.symm.trans he)
        rw [hunmarked] at hmarked
        cases hmarked
    | succ k => exact ⟨k, (markedAbove_succ.1 h).2⟩
  · rintro ⟨k, h⟩
    exact ⟨k + 1, markedAbove_succ.2 ⟨⟨d, hd, rfl, hunmarked⟩, h⟩⟩

-- ======================================================= where a walk ends

/-- A walk that is given one look more than the name has dots ends, and it
ends at the marked definition above the name if there is one. -/
theorem climb_eq_marked_iff (hkeyed : r.Keyed) (hempty : "" ∉ r.keys)
    {steps : Nat} (hd : r.get? name = some d)
    (hsteps : Name.dots name < steps) :
    (∀ e, r.climb steps d = .marked e ↔
      ∃ k, r.MarkedAbove d.filename name k e) ∧
      r.climb steps d ≠ .unfinished := by
  induction steps generalizing name d with
  | zero => exact absurd hsteps (Nat.not_lt_zero _)
  | succ steps ih =>
      have hname : d.name = name := hkeyed name d hd
      -- where the walk ends outside, the next name has nothing marked above it
      have hleave : r.climb (steps + 1) d = .outside →
          (∀ e, ¬ ∃ k, r.MarkedAbove d.filename name k e) →
          (∀ e, r.climb (steps + 1) d = .marked e ↔
            ∃ k, r.MarkedAbove d.filename name k e) ∧
            r.climb (steps + 1) d ≠ .unfinished := by
        intro hclimb hnone
        rw [hclimb]
        exact ⟨fun e => ⟨Climb.noConfusion, fun h => absurd h (hnone e)⟩,
          Climb.noConfusion⟩
      cases hmarked : d.marked with
      | true =>
          rw [climb_of_marked hmarked]
          refine ⟨fun e => ?_, Climb.noConfusion⟩
          rw [exists_markedAbove_of_marked hd hmarked, Climb.marked.injEq]
      | false =>
          cases haround : r.get? (Name.parent name) with
          | none =>
              refine hleave (climb_of_none hmarked (hname ▸ haround) steps)
                fun e => ?_
              rw [exists_markedAbove_of_unmarked hd hmarked]
              rintro ⟨k, habove⟩
              obtain ⟨s, hs, -⟩ := habove.exists_get?
              rw [haround] at hs
              cases hs
          | some around =>
              by_cases hfile : around.filename = d.filename
              · have hdots : Name.dots (Name.parent name) < steps := by
                  rcases Name.dots_parent name with ⟨-, hnothing⟩ | hfewer
                  · -- the empty name is not registered
                    rw [hnothing] at haround
                    exact absurd (Map.mem_keys_iff.2 (by rw [haround]; rfl))
                      hempty
                  · omega
                rw [climb_of_around hmarked (hname ▸ haround) hfile]
                simp only [exists_markedAbove_of_unmarked hd hmarked]
                rw [← hfile]
                exact ih haround hdots
              · refine hleave (climb_of_elsewhere hmarked (hname ▸
                  haround) hfile steps) fun e => ?_
                rw [exists_markedAbove_of_unmarked hd hmarked]
                rintro ⟨k, habove⟩
                obtain ⟨s, hs, hsame⟩ := habove.exists_get?
                obtain rfl : around = s :=
                  Option.some.inj (haround.symm.trans hs)
                exact hfile hsame

/-- More looks change nothing once a walk has as many as the dots ask for. -/
theorem climb_eq_of_dots (hkeyed : r.Keyed) (hempty : "" ∉ r.keys)
    {steps more : Nat} (hd : r.get? name = some d)
    (hsteps : Name.dots name < steps) (hmore : Name.dots name < more) :
    r.climb more d = r.climb steps d := by
  obtain ⟨hmarked, hends⟩ := climb_eq_marked_iff hkeyed hempty hd hsteps
  obtain ⟨hmarked', hends'⟩ := climb_eq_marked_iff hkeyed hempty hd hmore
  cases hclimb : r.climb steps d with
  | marked e => rw [hmarked', ← hmarked, hclimb]
  | unfinished => exact absurd hclimb hends
  | outside =>
      cases hclimb' : r.climb more d with
      | marked e =>
          rw [hmarked', ← hmarked, hclimb] at hclimb'
          cases hclimb'
      | unfinished => exact absurd hclimb' hends'
      | outside => rfl

-- ========================================================== acceptance

theorem isAccepted_iff :
    r.isAccepted d = true ↔
      d.marked = true ∨ ∃ e, r.climb (d.name.length + 1) d = .marked e ∧
      e.protocol = false := by
  unfold isAccepted
  rw [Bool.or_eq_true]
  refine or_congr_right ?_
  cases hclimb : r.climb (d.name.length + 1) d <;> simp

/-- A name is accepted when the marked definition above it is its own record
or no protocol. -/
theorem mem_accepted_iff (hkeyed : r.Keyed) (hempty : "" ∉ r.keys) :
    name ∈ r.accepted ↔
      ∃ k file e, r.MarkedAbove file name k e ∧
      (k = 0 ∨ e.protocol = false) := by
  have hends : ∀ {d}, r.get? name = some d →
      ∀ e, r.climb (d.name.length + 1) d = .marked e ↔
      ∃ k, r.MarkedAbove d.filename name k e := by
    intro d hd
    refine (climb_eq_marked_iff hkeyed hempty hd ?_).1
    rw [hkeyed name d hd]
    exact Nat.lt_succ_of_le (Name.dots_le_length name)
  rw [mem_accepted]
  constructor
  · rintro ⟨d, hd, haccepted⟩
    rcases isAccepted_iff.1 haccepted with hmarked | ⟨e, hclimb, hkind⟩
    · exact ⟨0, _, d, markedAbove_zero.2 ⟨hd, rfl, hmarked⟩, Or.inl rfl⟩
    · obtain ⟨k, habove⟩ := (hends hd e).1 hclimb
      exact ⟨k, _, e, habove, Or.inr hkind⟩
  · rintro ⟨k, file, e, habove, hkind⟩
    obtain ⟨d, hd, rfl⟩ := habove.exists_get?
    refine ⟨d, hd, isAccepted_iff.2 ?_⟩
    rcases hkind with rfl | hkind
    · obtain ⟨he, -, hmarked⟩ := markedAbove_zero.1 habove
      obtain rfl : d = e := Option.some.inj (hd.symm.trans he)
      exact Or.inl hmarked
    · exact Or.inr ⟨e, (hends hd e).2 ⟨k, habove⟩, hkind⟩

/-- Which names are accepted, by the records above them. The walk from the
record of a name ends within one look more than the name has dots, and
more looks do not change where. The name is accepted exactly when
dropping its last segment some number of times leads to a marked record,
all the names on the way are registered by one file and are unmarked, and
the marked record is that of the name itself or no protocol. So nothing
is passed down through a name that is not registered, or is registered by
another file. -/
theorem accepted_iff_marked_above (hkeyed : r.Keyed) (hempty : "" ∉ r.keys)
    (hd : r.get? name = some d) :
    (∀ steps, Name.dots name + 1 ≤ steps → r.climb steps d ≠ .unfinished ∧
      r.climb steps d = r.climb (Name.dots name + 1) d) ∧
    (name ∈ r.accepted ↔ ∃ k file e,
      (∀ i < k, ∃ s, r.get? (Name.parent^[i] name) = some s ∧
        s.filename = file ∧
        s.marked = false) ∧
      r.get? (Name.parent^[k] name) = some e ∧ e.filename = file ∧
      e.marked = true ∧
      (k = 0 ∨ e.protocol = false)) ∧
    ∀ j, (∀ i ≤ j, ∃ s, r.get? (Name.parent^[i] name) = some s ∧
      s.marked = false) →
      (∀ e, r.get? (Name.parent^[j + 1] name) = some e →
        e.filename ≠ d.filename) →
      name ∉ r.accepted := by
  refine ⟨fun steps hsteps => ⟨?_, ?_⟩, ?_, ?_⟩
  · exact (climb_eq_marked_iff hkeyed hempty hd hsteps).2
  · exact climb_eq_of_dots hkeyed hempty hd (Nat.lt_succ_self _) hsteps
  · rw [mem_accepted_iff hkeyed hempty]
    constructor
    · rintro ⟨k, file, e, ⟨hunmarked, hregistered, hfile, hmarked⟩, hkind⟩
      exact ⟨k, file, e, hunmarked, hregistered, hfile, hmarked, hkind⟩
    · rintro ⟨k, file, e, hunmarked, hregistered, hfile, hmarked, hkind⟩
      exact ⟨k, file, e, ⟨hunmarked, hregistered, hfile, hmarked⟩, hkind⟩
  · intro j hunmarked helsewhere haccepted
    obtain ⟨k, file, e, habove, -⟩ :=
      (mem_accepted_iff hkeyed hempty).1 haccepted
    obtain ⟨s, hs, rfl⟩ := habove.exists_get?
    obtain rfl : d = s := Option.some.inj (hd.symm.trans hs)
    rcases Nat.lt_or_ge j k with hlater | hearlier
    · -- the chain would have to go on in the same file
      have hnext : ∃ s, r.get? (Name.parent^[j + 1] name) = some s ∧
          s.filename = d.filename := by
        rcases Nat.eq_or_lt_of_le (Nat.succ_le_of_lt hlater)
          with hlast | hbefore
        · refine ⟨e, ?_, habove.filename_eq⟩
          rw [← Nat.succ_eq_add_one, hlast]
          exact habove.registered
        · obtain ⟨s, hs, hfile, -⟩ := habove.unmarked (j + 1) hbefore
          exact ⟨s, hs, hfile⟩
      obtain ⟨s, hs, hfile⟩ := hnext
      exact helsewhere s hs hfile
    · obtain ⟨s, hs, hflag⟩ := hunmarked k hearlier
      obtain rfl : e = s := Option.some.inj (habove.registered.symm.trans hs)
      rw [habove.marked] at hflag
      cases hflag

theorem keyed_of_entries (h : ∀ x ∈ r.entries, x.2.name = x.1) : r.Keyed := by
  intro name d hd
  exact h (name, d) (Map.mem_entries_iff.2 hd)

/-- A marked package, a marked file with a class in a class, and another file
of the package that is not marked. -/
def bank : Registry := .ofList [
  ("app", { name := "app",
            filename := "app/__init__.py",
            line := 1,
            marked := true }),
  ("app.money", { name := "app.money",
                  filename := "app/money.py",
                  line := 1,
                  marked := true }),
  ("app.money.Cents",
    { name := "app.money.Cents", filename := "app/money.py", line := 3 }),
  ("app.money.Cents.Unit", {
    name := "app.money.Cents.Unit", filename := "app/money.py", line := 4 }),
  ("app.models",
    { name := "app.models", filename := "app/models.py", line := 1 })]

/-- The inner class is two steps below its file, which is marked; the other
file is one step below the package, which is not the same file. -/
theorem bank_accepts_inner_class :
    bank.Keyed ∧ "" ∉ bank.keys ∧
    (∃ d, bank.get? "app.money.Cents.Unit" = some d ∧
      bank.climb 4 d ≠ .unfinished) ∧
    "app.money.Cents.Unit" ∈ bank.accepted ∧ "app.models" ∉ bank.accepted := by
  have hkeyed : bank.Keyed := keyed_of_entries (by decide)
  have hempty : "" ∉ bank.keys := by decide
  obtain ⟨hends, haccepted, -⟩ := accepted_iff_marked_above hkeyed hempty
    (show bank.get? "app.money.Cents.Unit" = some _ from rfl)
  obtain ⟨-, -, hstays⟩ := accepted_iff_marked_above hkeyed hempty
    (show bank.get? "app.models" = some _ from rfl)
  refine ⟨hkeyed, hempty, ⟨_, rfl, (hends 4 (by decide)).1⟩, haccepted.2 ?_,
    hstays 0 ?_ ?_⟩
  · refine ⟨2, "app/money.py", _, fun i hi => ?_, rfl, rfl, rfl, Or.inr rfl⟩
    match i, hi with
    | 0, _ => exact ⟨_, rfl, rfl, rfl⟩
    | 1, _ => exact ⟨_, rfl, rfl, rfl⟩
  · intro i hi
    obtain rfl : i = 0 := Nat.le_zero.1 hi
    exact ⟨_, rfl, rfl⟩
  · intro e he
    cases he
    decide

end Registry

end Purity
