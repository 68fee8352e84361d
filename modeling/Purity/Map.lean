/-
Maps from text to values that remember the order in which their keys
were first inserted. Overwriting a key keeps its place. The entries are
a list of pairs without a repeated key; lookups, keys and the effect of
an insertion on both are pinned by the lemmas beside each operation.

Consumed by the registry of definitions, by file trees and by
configuration tables.
-/
namespace Purity

variable {α : Type}

-- ================================================== lists of entries

/-- Overwrites the entry with this key where it stands, or appends one. -/
def putEntry (key : String) (value : α) : List (String × α) → List (String × α)
  | [] => [(key, value)]
  | (k, v) :: rest =>
      if k = key then (key, value) :: rest
      else (k, v) :: putEntry key value rest

theorem keys_putEntry (key : String) (value : α) (l : List (String × α)) :
    (putEntry key value l).map Prod.fst
      = if key ∈ l.map Prod.fst then l.map Prod.fst else l.map Prod.fst ++
    [key] := by
  induction l with
  | nil => simp [putEntry]
  | cons e rest ih =>
    obtain ⟨k, v⟩ := e
    by_cases h : k = key
    · subst h; simp [putEntry]
    · simp only [putEntry, if_neg h, List.map_cons, ih, List.mem_cons]
      have hne : ¬ key = k := fun e => h e.symm
      by_cases hm : key ∈ rest.map Prod.fst
      · simp [hm]
      · simp [hm, hne]

theorem lookup_putEntry (key other : String) (value : α)
    (l : List (String × α)) :
    (putEntry key value l).lookup other
      = if other = key then some value else l.lookup other := by
  induction l with
  | nil =>
    by_cases h : other = key
    · simp [putEntry, h]
    · simp [putEntry, List.lookup_cons, beq_eq_false_iff_ne.mpr h, h]
  | cons e rest ih =>
    obtain ⟨k, v⟩ := e
    by_cases h : k = key
    · subst h
      by_cases ho : other = k
      · simp [putEntry, ho]
      · simp [putEntry, List.lookup_cons, beq_eq_false_iff_ne.mpr ho, ho]
    · by_cases ho : other = k
      · simp [putEntry, ho, h]
      · simp [putEntry, List.lookup_cons, beq_eq_false_iff_ne.mpr ho, h, ih]

-- ================================================================ maps

/-- A map from text that keeps its keys in order of first insertion. -/
structure Map (α : Type) where
  entries : List (String × α)
  distinct : (entries.map Prod.fst).Nodup := by simp

namespace Map

/-- The map without entries. -/
def empty : Map α := { entries := [] }

instance : EmptyCollection (Map α) := ⟨empty⟩

/-- The value under a key. -/
def get? (m : Map α) (key : String) : Option α := m.entries.lookup key

/-- The keys, in order of first insertion. -/
def keys (m : Map α) : List String := m.entries.map Prod.fst

/-- The values, in the order of their keys. -/
def values (m : Map α) : List α := m.entries.map Prod.snd

/-- The number of entries. -/
def size (m : Map α) : Nat := m.entries.length

/-- Stores a value. A key that is present keeps its place. -/
def insert (m : Map α) (key : String) (value : α) : Map α where
  entries := putEntry key value m.entries
  distinct := by
    rw [keys_putEntry]
    split
    · exact m.distinct
    · rename_i h
      rw [List.nodup_append]
      exact ⟨m.distinct, by simp, by grind⟩

/-- The map that results from storing the pairs of a list in turn. -/
def ofList (pairs : List (String × α)) : Map α :=
  pairs.foldl (fun m (k, v) => m.insert k v) empty

theorem keys_insert (m : Map α) (key : String) (value : α) :
    (m.insert key value).keys = if key ∈ m.keys then m.keys else m.keys ++
    [key] :=
  keys_putEntry key value m.entries

theorem get?_insert (m : Map α) (key other : String) (value : α) :
    (m.insert key value).get? other =
      if other = key then some value else m.get? other :=
  lookup_putEntry key other value m.entries

end Map

end Purity
