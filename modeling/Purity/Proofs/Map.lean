/-
What a map that remembers its order says about its keys: a key is there
exactly when it has a value (`mem_keys_iff`), the entries are the keys
with their values (`mem_entries_iff`), and a value stored under a new key
makes the map larger by one (`size_insert`). The keys in their order and
the values determine the map (`eq_of_keys_of_get?`). Consumed wherever a
proof goes from the entries of a registry to its records by name.
-/
import Mathlib.Data.List.Basic
import Purity.Map

namespace Purity

variable {α : Type}

/-- In a list without a repeated key, looking up is membership. -/
theorem lookup_eq_some_iff_mem {key : String} {value : α}
    {l : List (String × α)} (hdistinct : (l.map Prod.fst).Nodup) :
    l.lookup key = some value ↔ (key, value) ∈ l := by
  rw [List.lookup_eq_some_iff]
  constructor
  · rintro ⟨before, after, rfl, -⟩
    simp
  · intro hmem
    obtain ⟨before, after, rfl⟩ := List.append_of_mem hmem
    refine ⟨before, after, rfl, fun e he => ?_⟩
    -- the key of the entry does not come before it
    rw [List.map_append, List.map_cons, List.nodup_append] at hdistinct
    have hne := hdistinct.2.2 e.1 (List.mem_map_of_mem he) key (by simp)
    simpa using hne.symm

/-- In a list without a repeated key, the entries of a key are the one that
looking up gives. -/
theorem filter_eq_lookup (key : String) {l : List (String × α)}
    (hdistinct : (l.map Prod.fst).Nodup) :
    l.filter (fun e => e.1 = key)
      = ((l.lookup key).map fun value => (key, value)).toList := by
  induction l with
  | nil => rfl
  | cons e rest ih =>
      obtain ⟨k, v⟩ := e
      rw [List.map_cons, List.nodup_cons] at hdistinct
      by_cases h : k = key
      · subst h
        have hlater : rest.filter (fun e => e.1 = k) = [] := by
          rw [List.filter_eq_nil_iff]
          intro e he
          have hmem : e.1 ∈ rest.map Prod.fst := List.mem_map_of_mem he
          simp only [decide_eq_true_eq]
          rintro rfl
          exact hdistinct.1 hmem
        rw [List.filter_cons_of_pos (by simp), hlater, List.lookup_cons_self]
        rfl
      · have hother : (key == k) = false := by simpa using fun e => h e.symm
        rw [List.filter_cons_of_neg (by simpa using h), ih hdistinct.2,
          List.lookup_cons, hother]

namespace Map

theorem mem_keys_iff {m : Map α} {key : String} :
    key ∈ m.keys ↔ (m.get? key).isSome = true := by
  unfold keys get?
  rw [List.lookup_isSome_iff, List.mem_map]
  simp only [beq_iff_eq, eq_comm (b := key)]

theorem mem_entries_iff {m : Map α} {key : String} {value : α} :
    (key, value) ∈ m.entries ↔ m.get? key = some value :=
  (lookup_eq_some_iff_mem m.distinct).symm

/-- The keys in their order give the entries. -/
theorem entries_eq_filterMap (m : Map α) :
    m.entries = m.keys.filterMap fun key => (m.get? key).map fun value =>
      (key, value) := by
  have hself : ∀ e ∈ m.entries, (m.get? e.1).map (fun value => (e.1, value)) =
      some e := by
    intro e he
    rw [mem_entries_iff.1 he]
    rfl
  unfold keys
  rw [List.filterMap_map]
  exact ((List.filterMap_congr hself).trans List.filterMap_some).symm

theorem eq_of_keys_of_get? {m m' : Map α} (hkeys : m.keys = m'.keys)
    (hget : ∀ key, m.get? key = m'.get? key) : m = m' := by
  have hentries : m.entries = m'.entries := by
    rw [m.entries_eq_filterMap, m'.entries_eq_filterMap, hkeys]
    simp only [hget]
  cases m
  cases m'
  congr

theorem length_keys (m : Map α) : m.keys.length = m.size := List.length_map ..

theorem size_insert (m : Map α) (key : String) (value : α) :
    (m.insert key value).size =
      if key ∈ m.keys then m.size else m.size + 1 := by
  rw [← length_keys, keys_insert]
  split
  · exact length_keys m
  · rw [List.length_append, length_keys]
    rfl

end Map

end Purity
