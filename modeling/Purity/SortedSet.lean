/-
Finite sets. A set is kept as the strictly ascending list of its members,
so equal sets are equal values and the list is the order in which a set is
shown. Consumed wherever names are collected: dependencies, bound names,
project modules.
-/
namespace Purity

variable {α : Type} [LT α]

-- ====================================================== ascending lists

section Ascending

variable [DecidableLT α] [DecidableEq α]

/-- Puts a value at its place in an ascending list, unless it is there. -/
def insertAscending (new : α) : List α → List α
  | [] => [new]
  | other :: rest =>
      if new < other then new :: other :: rest
      else if new = other then other :: rest
      else other :: insertAscending new rest

theorem mem_insertAscending {new x : α} {l : List α} :
    x ∈ insertAscending new l ↔ x = new ∨ x ∈ l := by
  induction l with
  | nil => simp [insertAscending]
  | cons other rest ih =>
    unfold insertAscending
    split
    · simp
    · split
      · rename_i h; simp [h]
      · simp [ih]; grind

theorem pairwise_insertAscending [Trans (α := α) (· < ·) (· < ·) (· < ·)]
    [Std.Trichotomous (α := α) (· < ·)] {new : α} {l : List α}
    (h : l.Pairwise (· < ·)) : (insertAscending new l).Pairwise (· < ·) := by
  induction l with
  | nil => simp [insertAscending]
  | cons other rest ih =>
    rw [List.pairwise_cons] at h
    unfold insertAscending
    split
    · rename_i hlt
      rw [List.pairwise_cons, List.pairwise_cons]
      refine ⟨fun x hx => ?_, h⟩
      rcases List.mem_cons.1 hx with rfl | hx
      · exact hlt
      · exact Std.lt_trans hlt (h.1 x hx)
    · split
      · rw [List.pairwise_cons]; exact h
      · rename_i hlt hne
        rw [List.pairwise_cons]
        refine ⟨fun x hx => ?_, ih h.2⟩
        rcases mem_insertAscending.1 hx with rfl | hx
        · exact Decidable.byContradiction fun hgt =>
            hne (Std.Trichotomous.trichotomous x other hlt hgt)
        · exact h.1 x hx

end Ascending

-- ================================================================= sets

/-- A finite set, listed in ascending order. -/
structure SortedSet (α : Type) [LT α] where
  toList : List α
  ascending : toList.Pairwise (· < ·) := by simp

/-- A finite set of names, in the order of their code points. -/
abbrev NameSet := SortedSet String

instance transString : Trans (α := String) (· < ·) (· < ·) (· < ·) :=
  ⟨String.lt_trans⟩

instance trichotomousString : Std.Trichotomous (α := String) (· < ·) where
  trichotomous _ _ hst hts :=
    String.le_antisymm (String.not_lt.1 hts) (String.not_lt.1 hst)

namespace SortedSet

/-- The set without members. -/
def empty : SortedSet α := { toList := [] }

instance : EmptyCollection (SortedSet α) := ⟨empty⟩

instance : Membership α (SortedSet α) := ⟨fun s x => x ∈ s.toList⟩

instance [DecidableEq α] (x : α) (s : SortedSet α) : Decidable (x ∈ s) :=
  inferInstanceAs (Decidable (x ∈ s.toList))

/-- The members that pass a test. -/
def filter (p : α → Bool) (s : SortedSet α) : SortedSet α where
  toList := s.toList.filter p
  ascending := s.ascending.filter p

@[simp] theorem mem_filter {x : α} {p : α → Bool} {s : SortedSet α} :
    x ∈ s.filter p ↔ x ∈ s ∧ p x = true := List.mem_filter

section Insertion

variable [DecidableLT α] [DecidableEq α]
    [Trans (α := α) (· < ·) (· < ·) (· < ·)]
  [Std.Trichotomous (α := α) (· < ·)]

/-- Adds one member. -/
def insert (new : α) (s : SortedSet α) : SortedSet α where
  toList := insertAscending new s.toList
  ascending := pairwise_insertAscending s.ascending

/-- The set of the values in a list. -/
def ofList (values : List α) : SortedSet α := values.foldr insert empty

@[simp] theorem mem_insert {x new : α} {s : SortedSet α} :
    x ∈ insert new s ↔ x = new ∨ x ∈ s := mem_insertAscending

@[simp] theorem mem_ofList {x : α} {values : List α} :
    x ∈ ofList values ↔ x ∈ values := by
  induction values with
  | nil => exact Iff.rfl
  | cons n ns ih =>
    show x ∈ insert n (ofList ns) ↔ _
    simp [ih]

end Insertion

section Order

variable [Std.Asymm (α := α) (· < ·)]

theorem nodup (s : SortedSet α) : s.toList.Nodup :=
  s.ascending.imp fun hlt => Std.ne_of_lt hlt

/-- Sets with the same members are the same. -/
@[ext] theorem ext {s t : SortedSet α} (h : ∀ x, x ∈ s ↔ x ∈ t) : s = t := by
  have hperm := (List.perm_ext_iff_of_nodup s.nodup t.nodup).2 h
  have hlists : s.toList = t.toList :=
    hperm.eq_of_pairwise (fun a b _ _ hlt hgt =>
      absurd hgt (Std.Asymm.asymm a b hlt))
      s.ascending t.ascending
  cases s
  cases t
  congr

end Order

end SortedSet

end Purity
