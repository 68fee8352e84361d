/-
What a merge keeps. A name has its first place and its last record, and a
record that gives way to a later one is in a collision with it. For one
more part this is said by three equations: the names that are new come
behind those that are there (`keys_absorb`), the records of the part come
before those that are there (`get?_absorb`), and its collisions are
followed by one for each of its names that is taken (`collisions_absorb`).

Over a list of parts, the records of a name are those that the parts have
under it, in order (`recordsOf`). The last of them stays (`get?_merge`),
and the collisions that the merge adds for the name go through them step
by step (`exists_added_collisions`).

Parts may be merged in groups. The registry stays the same, entry by entry
(`registry_regroup`), and as many records are replaced, but not always by
the same ones: in a group that comes later a record is replaced within the
group first, and only the last one of the group meets those before it.
A report is about the merge of its files (`runChecks_eq_merge`). Consumed
by the proofs about the order of files.
-/
import Purity.Proofs.Inventory

namespace Purity

-- ======================================================== one more part

/-- The collisions that some entries leave when they come to a registry:
one for each name that is taken. -/
def Registry.overwritten (r : Registry)
    (entries : List (String × Definition)) :
    List Collision :=
  entries.filterMap fun entry => (r.get? entry.1).map fun previous =>
    { name := entry.1, replaced := previous, kept := entry.2 }

namespace Registry

/-- Entries see no difference in a registry that has got another name. -/
theorem overwritten_insert {key : String}
    {entries : List (String × Definition)} (hnew : key ∉ entries.map Prod.fst)
    (r : Registry) (d : Definition) :
    overwritten (r.insert key d) entries = overwritten r entries := by
  unfold overwritten
  refine List.filterMap_congr ?_
  intro entry hentry
  have hne : entry.1 ≠ key := by
    rintro rfl
    exact hnew (List.mem_map_of_mem hentry)
  rw [Map.get?_insert, if_neg hne]

/-- Among the collisions that a registry leaves in another one, a name has
at most one, between its two records. -/
theorem filter_overwritten (r m : Registry) (name : String) :
    (r.overwritten m.entries).filter (fun c => c.name = name)
      = ((m.get? name).bind fun d => (r.get? name).map fun previous =>
          ({ name, replaced := previous, kept := d } : Collision)).toList := by
  have hnamed : (r.overwritten m.entries).filter (fun c => c.name = name)
      = r.overwritten (m.entries.filter fun entry => entry.1 = name) := by
    unfold overwritten
    rw [List.filter_filterMap, List.filterMap_filter]
    refine List.filterMap_congr ?_
    intro entry _
    by_cases hname : entry.1 = name
    · cases r.get? entry.1 <;> simp [hname]
    · cases r.get? entry.1 <;> simp [hname]
  have hentries : m.entries.filter (fun entry => entry.1 = name)
      = ((m.get? name).map fun d => (name, d)).toList :=
    filter_eq_lookup name m.distinct
  rw [hnamed, hentries]
  unfold overwritten
  cases m.get? name with
  | none => rfl
  | some d => cases hget : r.get? name <;> simp [hget]

end Registry

namespace Collected

theorem collisions_add (merged : Collected × List LogRecord)
    (entry : String × Definition) :
    (add merged entry).1.collisions
      = merged.1.collisions ++ merged.1.registry.overwritten [entry] := by
  unfold add Registry.overwritten
  cases hget : merged.1.registry.get? entry.1 with
  | none => simp [hget]
  | some previous => simp [hget]

theorem collisions_foldl_add (entries : List (String × Definition))
    (hdistinct : (entries.map Prod.fst).Nodup)
    (merged : Collected × List LogRecord) :
    (entries.foldl add merged).1.collisions
      = merged.1.collisions ++ merged.1.registry.overwritten entries := by
  induction entries generalizing merged with
  | nil => exact (List.append_nil _).symm
  | cons entry entries ih =>
      rw [List.map_cons, List.nodup_cons] at hdistinct
      rw [List.foldl_cons, ih hdistinct.2, collisions_add, registry_add,
        Registry.overwritten_insert hdistinct.1, List.append_assoc]
      unfold Registry.overwritten
      rw [← List.filterMap_append, List.singleton_append]

/-- A part brings its own collisions, and then those with what is there. -/
theorem collisions_absorb (merged : Collected × List LogRecord)
    (part : Collected) :
    (absorb merged part).1.collisions
      = merged.1.collisions
        ++ (part.collisions ++
          merged.1.registry.overwritten part.registry.entries) := by
  unfold absorb
  rw [collisions_foldl_add _ part.registry.distinct, List.append_assoc]

theorem keys_foldl_add (entries : List (String × Definition))
    (hdistinct : (entries.map Prod.fst).Nodup)
    (merged : Collected × List LogRecord) :
    (entries.foldl add merged).1.registry.keys
      = merged.1.registry.keys
        ++ (entries.map Prod.fst).filter (· ∉ merged.1.registry.keys) := by
  induction entries generalizing merged with
  | nil => exact (List.append_nil _).symm
  | cons entry entries ih =>
      rw [List.map_cons, List.nodup_cons] at hdistinct
      rw [List.foldl_cons, ih hdistinct.2, registry_add, Map.keys_insert,
        List.map_cons]
      by_cases hmem : entry.1 ∈ merged.1.registry.keys
      · rw [if_pos hmem, List.filter_cons_of_neg (by simpa using hmem)]
      · -- the name does not come again, so nothing else changes for the rest
        have hrest : (entries.map Prod.fst).filter
              (· ∉ merged.1.registry.keys ++ [entry.1])
            = (entries.map Prod.fst).filter (· ∉ merged.1.registry.keys) := by
          refine List.filter_congr ?_
          intro name hname
          have hne : name ≠ entry.1 := by
            rintro rfl
            exact hdistinct.1 hname
          simp [hne]
        rw [if_neg hmem, List.filter_cons_of_pos (by simpa using hmem), hrest,
          List.append_assoc, List.singleton_append]

/-- The names of a part that are new come behind those that are there. -/
theorem keys_absorb (merged : Collected × List LogRecord) (part : Collected) :
    (absorb merged part).1.registry.keys
      = merged.1.registry.keys
        ++ part.registry.keys.filter (· ∉ merged.1.registry.keys) :=
  keys_foldl_add _ part.registry.distinct _

/-- What is merged does not depend on what was logged before. -/
theorem fst_add_congr {a b : Collected × List LogRecord} (h : a.1 = b.1)
    (entry : String × Definition) : (add a entry).1 = (add b entry).1 := by
  obtain ⟨c, log⟩ := a
  obtain ⟨c', log'⟩ := b
  obtain rfl : c = c' := h
  unfold add
  cases hget : c.registry.get? entry.1 <;> simp [hget]

theorem fst_foldl_add_congr (entries : List (String × Definition))
    {a b : Collected × List LogRecord} (h : a.1 = b.1) :
    (entries.foldl add a).1 = (entries.foldl add b).1 := by
  induction entries generalizing a b with
  | nil => exact h
  | cons entry entries ih => exact ih (fst_add_congr h entry)

theorem fst_absorb_congr {a b : Collected × List LogRecord} (h : a.1 = b.1)
    (part : Collected) :
    (absorb a part).1 = (absorb b part).1 := by
  unfold absorb
  refine fst_foldl_add_congr _ ?_
  rw [h]

-- ============================================================ all parts

/-- The records that some parts have under a name, in order. -/
def recordsOf (parts : List Collected) (name : String) : List Definition :=
  parts.filterMap fun part => part.registry.get? name

theorem merge_concat (parts : List Collected) (part : Collected) :
    merge (parts ++ [part]) = absorb (merge parts) part := by
  unfold merge
  rw [List.foldl_append]
  rfl

theorem recordsOf_concat (parts : List Collected) (part : Collected)
    (name : String) :
    recordsOf (parts ++ [part]) name
      = recordsOf parts name ++ (part.registry.get? name).toList := by
  unfold recordsOf
  rw [List.filterMap_append]
  cases hget : part.registry.get? name <;> simp [hget]

/-- The last record of a name stays. -/
theorem get?_merge (parts : List Collected) (name : String) :
    (merge parts).1.registry.get? name = (recordsOf parts name).getLast? := by
  induction parts using List.reverseRecOn with
  | nil => rfl
  | append_singleton parts part ih =>
      rw [merge_concat, get?_absorb, ih, recordsOf_concat,
        List.getLast?_append]
      cases part.registry.get? name <;> rfl

theorem eraseDups_of_nodup {l : List String} (h : l.Nodup) :
    l.eraseDups = l := by
  induction l with
  | nil => rfl
  | cons x l ih =>
      rw [List.nodup_cons] at h
      have hothers : l.filter (fun y => !y == x) = l := by
        rw [List.filter_eq_self]
        intro y hy
        have hne : y ≠ x := by
          rintro rfl
          exact h.1 hy
        simpa using hne
      rw [List.eraseDups_cons, hothers, ih h.2]

/-- The names of a merge come in the order of their first occurrence. -/
theorem keys_merge (parts : List Collected) :
    (merge parts).1.registry.keys
      = (parts.flatMap fun part => part.registry.keys).eraseDups := by
  induction parts using List.reverseRecOn with
  | nil => rfl
  | append_singleton parts part ih =>
      have hnew : part.registry.keys.filter (· ∉ (merge parts).1.registry.keys)
          = part.registry.keys.removeAll (parts.flatMap fun part =>
            part.registry.keys) := by
        unfold List.removeAll
        refine List.filter_congr ?_
        intro name _
        simp only [ih, List.mem_eraseDups, List.elem_eq_mem, decide_not]
      have hdistinct : (part.registry.keys.removeAll
          (parts.flatMap fun part => part.registry.keys)).Nodup :=
        part.registry.distinct.filter _
      rw [merge_concat, keys_absorb, hnew, List.flatMap_append,
        List.flatMap_singleton, List.eraseDups_append,
        eraseDups_of_nodup hdistinct, ih]

-- =========================================================== collisions

/-- The collisions of records that replace each other in turn. -/
def chain (name : String) (records : List Definition) : List Collision :=
  (records.zip records.tail).map fun pair =>
    { name, replaced := pair.1, kept := pair.2 }

theorem chain_concat (name : String) (records : List Definition)
    (d : Definition) :
    chain name (records ++ [d])
      = chain name records ++ (records.getLast?.map fun previous =>
          ({ name, replaced := previous, kept := d } : Collision)).toList := by
  induction records with
  | nil => rfl
  | cons first rest ih =>
      cases rest with
      | nil => rfl
      | cons second rest =>
          have hstep : ∀ l, chain name (first :: second :: l)
              = { name, replaced := first, kept := second } ::
                chain name (second :: l) :=
            fun l => rfl
          rw [List.cons_append, List.cons_append, hstep, ← List.cons_append,
            ih, hstep, List.getLast?_cons_cons, List.cons_append]

/-- A merge keeps the collisions of every part, and behind them come those
that the part adds. For each name the added ones are a chain through the
records of the name. -/
theorem exists_added_collisions (parts : List Collected) :
    ∃ added : List (List Collision), added.length = parts.length ∧
      (merge parts).1.collisions
        = (List.zipWith (fun part new => part.collisions ++ new)
            parts added).flatten ∧
      ∀ name, added.flatten.filter (fun c => c.name = name)
        = chain name (recordsOf parts name) := by
  induction parts using List.reverseRecOn with
  | nil => exact ⟨[], rfl, rfl, fun _ => rfl⟩
  | append_singleton parts part ih =>
      obtain ⟨added, hlength, hcollisions, hnamed⟩ := ih
      refine ⟨added ++
        [(merge parts).1.registry.overwritten part.registry.entries], ?_,
        ?_, ?_⟩
      · simp [hlength]
      · rw [merge_concat, collisions_absorb, hcollisions,
          List.zipWith_append hlength.symm, List.flatten_append]
        simp
      · intro name
        rw [List.flatten_append, List.filter_append, hnamed,
          List.flatten_singleton, Registry.filter_overwritten,
          recordsOf_concat, get?_merge]
        cases part.registry.get? name with
        | none => simp
        | some d => exact (chain_concat name _ d).symm

-- ============================================================ regrouping

/-- Parts that are merged into something bring the names of their merge. -/
theorem keys_foldl_absorb (merged : Collected × List LogRecord)
    (parts : List Collected) :
    (parts.foldl absorb merged).1.registry.keys
      = merged.1.registry.keys
        ++ (merge parts).1.registry.keys.filter
          (· ∉ merged.1.registry.keys) := by
  induction parts using List.reverseRecOn with
  | nil => exact (List.append_nil _).symm
  | append_singleton parts part ih =>
      have hnew : part.registry.keys.filter
            (· ∉ (parts.foldl absorb merged).1.registry.keys)
          = (part.registry.keys.filter
              (· ∉ (merge parts).1.registry.keys)).filter
              (· ∉ merged.1.registry.keys) := by
        rw [List.filter_filter, ih]
        refine List.filter_congr ?_
        intro name _
        by_cases hmem : name ∈ merged.1.registry.keys <;> simp [hmem]
      rw [List.foldl_append, List.foldl_cons, List.foldl_nil, keys_absorb,
        hnew, ih, merge_concat, keys_absorb, List.filter_append,
        List.append_assoc]

theorem merge_pair (first second : Collected) :
    merge [first, second] = absorb (merge [first]) second :=
  merge_concat [first] second

/-- A merge of a single part is the part. -/
theorem registry_merge_singleton (part : Collected) :
    (merge [part]).1.registry = part.registry := by
  refine Map.eq_of_keys_of_get? ?_ ?_
  · rw [keys_merge, List.flatMap_singleton]
    exact eraseDups_of_nodup part.registry.distinct
  · intro name
    rw [get?_merge]
    unfold recordsOf
    cases hget : part.registry.get? name <;> simp [hget]

theorem registry_regroup (parts others : List Collected) :
    (merge [(merge parts).1, (merge others).1]).1.registry
      = (merge (parts ++ others)).1.registry := by
  refine Map.eq_of_keys_of_get? ?_ ?_
  · have happend :
        merge (parts ++ others) = others.foldl absorb (merge parts) :=
      List.foldl_append
    rw [merge_pair, keys_absorb, registry_merge_singleton, happend,
      keys_foldl_absorb]
  · intro name
    rw [merge_pair, get?_absorb, registry_merge_singleton, get?_merge,
      get?_merge, get?_merge, ← List.getLast?_append]
    unfold recordsOf
    rw [List.filterMap_append]

/-- What was registered is counted part by part. -/
theorem tally_merge (parts : List Collected) :
    (merge parts).1.tally = (parts.map tally).sum := by
  induction parts using List.reverseRecOn with
  | nil => rfl
  | append_singleton parts part ih =>
      rw [merge_concat, tally_absorb, ih, List.map_append, List.sum_append]
      simp

/-- A merge loses nothing and can be done in groups. The names come in the
order of their first occurrence, each with the record of the last part
that has it. The collisions of the parts are all there, in order, and
behind those of each part stand the ones that it adds; for a name with the
records `s₁`, ..., `sₙ` these are `(s₁, s₂)`, ..., `(sₙ₋₁, sₙ)`. Two groups
that are merged on their own and then with each other give the registry
of all parts, and as many collisions. -/
theorem parts_kept_and_regrouped (parts : List Collected) :
    (merge parts).1.registry.keys
      = (parts.flatMap fun part => part.registry.keys).eraseDups ∧
    (∀ name, (merge parts).1.registry.get? name =
      (recordsOf parts name).getLast?) ∧
    (∃ added : List (List Collision), added.length = parts.length ∧
      (merge parts).1.collisions
        = (List.zipWith (fun part new => part.collisions ++ new)
            parts added).flatten ∧
      ∀ name, added.flatten.filter (fun c => c.name = name)
        = ((recordsOf parts name).zip (recordsOf parts name).tail).map
          fun pair =>
            { name, replaced := pair.1, kept := pair.2 }) ∧
    ∀ others : List Collected,
      (merge [(merge parts).1, (merge others).1]).1.registry
        = (merge (parts ++ others)).1.registry ∧
      (merge [(merge parts).1, (merge others).1]).1.collisions.length
        = (merge (parts ++ others)).1.collisions.length := by
  refine ⟨keys_merge parts, get?_merge parts,
    exists_added_collisions parts, ?_⟩
  intro others
  have hregistry := registry_regroup parts others
  refine ⟨hregistry, ?_⟩
  -- the same names are kept of the same number of records
  have hgrouped := tally_merge [(merge parts).1, (merge others).1]
  have hflat := tally_merge (parts ++ others)
  rw [List.map_append, List.sum_append, ← tally_merge, ← tally_merge] at hflat
  have hsame : (merge [(merge parts).1, (merge others).1]).1.tally
      = (merge (parts ++ others)).1.tally := by
    rw [hgrouped, hflat]
    simp
  unfold tally at hsame
  rw [hregistry] at hsame
  exact Nat.add_left_cancel hsame

/-- A part with one name. -/
def single (line : Int) : Collected where
  registry :=
    .ofList [("app.box", { name := "app.box", filename := "box.py", line })]

-- the collisions of groups are other pairs than those of all parts in turn
example :
    ((merge [single 1, single 2, single 3]).1.collisions.map fun c =>
      (c.replaced.line, c.kept.line)) = [(1, 2), (2, 3)] ∧
    ((merge [(merge [single 1]).1,
      (merge [single 2, single 3]).1]).1.collisions.map fun c =>
      (c.replaced.line, c.kept.line)) = [(2, 3), (1, 3)] := by
  decide

end Collected

-- ================================================================ a run

/-- What a file contributes to a run: its records and its collisions. -/
def Source.part (f : Source) (config : Config) (project : NameSet) :
    Collected :=
  (f.context config project).collect.1

theorem fst_foldl_collectInto (config : Config) (project : NameSet)
    (files : List Source) {a b : Collected × List LogRecord} (h : a.1 = b.1) :
    (files.foldl (collectInto config project) a).1
      = ((files.map fun f =>
        f.part config project).foldl Collected.absorb b).1 := by
  induction files generalizing a b with
  | nil => exact h
  | cons f files ih =>
      have hstep : collectInto config project a f
          = Collected.absorb (a.1, a.2 ++ (f.context config project).collect.2)
              (f.part config project) := rfl
      rw [List.foldl_cons, List.map_cons, List.foldl_cons, hstep]
      refine ih (Collected.fst_absorb_congr ?_ _)
      exact h

/-- A report is about the merge of what the files contribute. -/
theorem runChecks_eq_merge (config : Config) (files : List Source) :
    (⟨(runChecks config files).1.registry,
      (runChecks config files).1.collisions⟩ : Collected)
      = (Collected.merge (files.map fun f =>
        f.part config (definedNames files))).1 :=
  fst_foldl_collectInto config (definedNames files) files rfl

end Purity
