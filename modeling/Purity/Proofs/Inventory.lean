/-
What a run registers. Every registration either adds a name to a registry
or leaves a collision, in a file and again where files are merged, so the
names and the collisions of a report add up to the definitions in the text
(`tally_collect`, `tally_absorb`). In well-placed trees these are the file
itself and all its classes, at whatever depth, under their qualified names
(`tally_collect_of_wellPlaced`, `mem_keys_collect`).
-/
import Mathlib.Algebra.Ring.Nat
import Purity.Proofs.Naming

namespace Purity

-- ==================================================== nothing gets lost

/-- The number of records that were registered: those that are kept, and
those that were replaced. -/
def Collected.tally (c : Collected) : Nat :=
  c.registry.size + c.collisions.length

namespace Registry

/-- A registration adds a name, or leaves a collision. -/
theorem size_insert_add_clash? (r : Registry) (d : Definition) :
    (r.insert d.name d).size + (r.clash? d).toList.length = r.size + 1 := by
  rw [Map.size_insert]
  unfold clash?
  cases hget : r.get? d.name with
  | none =>
      have hnew : d.name ∉ r.keys := by simp [Map.mem_keys_iff, hget]
      simp [hnew]
  | some previous =>
      have htaken : d.name ∈ r.keys := by simp [Map.mem_keys_iff, hget]
      simp [htaken]

end Registry

namespace Context

variable {c : Context}

/-- A mark adds no name. -/
theorem size_enterMark {r : Registry} (hkeyed : r.Keyed)
    (mark : String × Bool) :
    (enterMark r mark).size = r.size := by
  unfold enterMark
  cases hget : r.get? mark.1 with
  | none => rfl
  | some d =>
      have hkey : d.name ∈ r.keys := by
        rw [hkeyed _ _ hget, Map.mem_keys_iff, hget]
        rfl
      simp only [Map.size_insert, if_pos hkey]

/-- One visit registers at most one record, and that one is counted. -/
theorem tally_visit {s : Collector} (hkeyed : s.registry.Keyed) (v : Visit) :
    (s.visit c v).registry.size + (s.visit c v).collisions.length
      = s.registry.size + s.collisions.length +
        (if (c.declared? v).isSome then 1 else 0) := by
  obtain ⟨hregistry, -, -, hcollisions⟩ := Collector.visit_spec c s v
  rw [hregistry, hcollisions, List.length_append]
  unfold enter
  cases hdecl : c.declared? v with
  | some d =>
      have hstep := s.registry.size_insert_add_clash? d
      simp only [Option.bind_some, Option.isSome_some, if_true]
      omega
  | none =>
      cases hmarks : c.marks? v with
      | some mark => simp [size_enterMark hkeyed mark]
      | none => simp

theorem tally_foldl_visit {s : Collector} (hkeyed : s.registry.Keyed)
    (vs : List Visit) :
    (vs.foldl (Collector.visit c) s).registry.size
        + (vs.foldl (Collector.visit c) s).collisions.length
      = s.registry.size + s.collisions.length + vs.countP fun v =>
        (c.declared? v).isSome := by
  induction vs generalizing s with
  | nil => rfl
  | cons v vs ih =>
      have hstep := tally_visit (c := c) hkeyed v
      have hkeyed' : Registry.Keyed (s.visit c v).registry := by
        rw [(Collector.visit_spec c s v).1]
        exact keyed_enter hkeyed v
      rw [List.foldl_cons, ih hkeyed', hstep, List.countP_cons]
      omega

/-- The names and collisions of a file are as many as the visits that
register a record. -/
theorem tally_collect (c : Context) :
    c.collect.1.tally = c.visits.countP fun v => (c.declared? v).isSome := by
  have hsize : c.collect.1.registry.size = c.survey.registry.size := by
    rw [registry_collect, ← Map.length_keys, Collector.keys_foldl_charge,
      Map.length_keys]
  have hwalk := tally_foldl_visit (c := c) (s := {}) keyed_empty c.visits
  show c.collect.1.registry.size + c.survey.collisions.length = _
  rw [hsize, survey_eq_foldl]
  exact hwalk.trans (Nat.zero_add _)

end Context

namespace Collected

theorem tally_add (merged : Collected × List LogRecord)
    (entry : String × Definition) :
    (add merged entry).1.tally = merged.1.tally + 1 := by
  obtain ⟨⟨registry, collisions⟩, log⟩ := merged
  obtain ⟨name, d⟩ := entry
  unfold add tally
  cases hget : registry.get? name with
  | none =>
      have hnew : name ∉ registry.keys := by simp [Map.mem_keys_iff, hget]
      simp only [hget, Map.size_insert, if_neg hnew]
      omega
  | some previous =>
      have htaken : name ∈ registry.keys := by simp [Map.mem_keys_iff, hget]
      simp only [hget, Map.size_insert, if_pos htaken, List.length_append,
        List.length_singleton]
      omega

theorem tally_foldl_add (entries : List (String × Definition))
    (merged : Collected × List LogRecord) :
    (entries.foldl add merged).1.tally = merged.1.tally + entries.length := by
  induction entries generalizing merged with
  | nil => rfl
  | cons entry entries ih =>
      rw [List.foldl_cons, ih, tally_add, List.length_cons]
      omega

/-- Merging loses nothing that was registered. -/
theorem tally_absorb (merged : Collected × List LogRecord) (part : Collected) :
    (absorb merged part).1.tally = merged.1.tally + part.tally := by
  unfold absorb
  rw [tally_foldl_add]
  show merged.1.registry.size + (merged.1.collisions ++ part.collisions).length
      + part.registry.size = _
  unfold tally
  rw [List.length_append]
  omega

end Collected

theorem tally_foldl_collectInto (config : Config) (project : NameSet)
    (files : List Source) (merged : Collected × List LogRecord) :
    (files.foldl (collectInto config project) merged).1.tally
      = merged.1.tally + (files.map fun f =>
        (f.context config project).collect.1.tally).sum := by
  induction files generalizing merged with
  | nil => rfl
  | cons f files ih =>
      rw [List.foldl_cons, ih, List.map_cons, List.sum_cons]
      unfold collectInto
      rw [Collected.tally_absorb]
      exact Nat.add_assoc ..

-- ============================================== files and their classes

/-- Does a node define a class? -/
def Node.isClass : Node → Bool
  | .stmt s => s.isClass
  | _ => false

/-- The number of classes in a file, at whatever depth. -/
def Module.classCount (m : Module) : Nat :=
  m.node.placed.countP fun x => x.2.isClass

/-- A file has one record of its own, and one for each of its classes. -/
theorem Module.countP_hasRecord (m : Module) :
    (m.node.placed.countP fun x => x.2.hasRecord) = 1 + m.classCount := by
  unfold classCount
  have horder := m.node.pairwise_placed
  have hat : ∀ x ∈ m.node.placed, m.node.at? x.1 = some x.2 :=
    fun x => Node.mem_placed.1
  rw [Node.placed_eq] at horder hat ⊢
  rw [List.pairwise_cons] at horder
  rw [List.countP_cons, List.countP_cons]
  -- below the file itself, what has a record is a class
  have hbelow : ∀ x ∈ m.node.children.zipIdx.flatMap (fun x =>
      x.1.placed.map fun y => (x.2 :: y.1, y.2)),
        x.2.hasRecord = x.2.isClass := by
    rintro ⟨p, n⟩ hx
    cases n with
    | module body =>
        obtain rfl :=
          Node.eq_nil_of_at?_module (hat _ (List.mem_cons_of_mem _ hx))
        exact absurd (horder.1 _ hx) (Place.Before.irrefl [])
    | _ => rfl
  rw [List.countP_congr fun x hx => by rw [hbelow x hx]]
  exact Nat.add_comm ..

namespace Context

variable {c : Context}

/-- In a well-placed tree the file and every class are registered once. -/
theorem tally_collect_of_wellPlaced (h : c.tree.WellPlaced) :
    c.collect.1.tally = 1 + c.tree.classCount := by
  rw [tally_collect, visits_eq_map_placed, List.countP_map,
    ← Module.countP_hasRecord]
  refine List.countP_congr ?_
  rintro ⟨p, n⟩ hx
  show (c.declared? _).isSome = true ↔ _
  rw [isSome_declared? h (Node.mem_placed.1 hx)]

/-- The names that a file registers, by place. -/
theorem mem_keys_collect (h : c.tree.WellPlaced) {name : String} :
    name ∈ c.collect.1.registry.keys ↔
      ∃ p n, c.tree.node.at? p = some n ∧ n.hasRecord = true ∧
      c.qualified p = name := by
  have hfound : name ∈ c.collect.1.registry.keys ↔
      (c.tree.lastNamed? c.moduleName name).isSome = true := by
    rw [Map.mem_keys_iff, Option.isSome_iff_ne_none, Ne, ← site?_eq_none_iff,
      site?_eq_map_lastNamed? h, Option.map_eq_none_iff, ← Ne,
      ← Option.isSome_iff_ne_none]
  rw [hfound]
  unfold Module.lastNamed?
  rw [List.find?_isSome]
  simp only [List.mem_reverse, Prod.exists, Node.mem_placed, Bool.and_eq_true,
    decide_eq_true_eq]
  rfl

end Context

theorem mem_keys_runChecks {config : Config} {files : List Source}
    {name : String} :
    name ∈ (runChecks config files).1.registry.keys ↔
      ∃ f ∈ files, name ∈ (f.records config (definedNames files)).keys := by
  rw [Map.mem_keys_iff, get?_runChecks, List.findSome?_isSome_iff]
  simp only [List.mem_reverse, Map.mem_keys_iff]

/-- No definition disappears without a trace. In a run over well-placed
files, the names in the registry and the collisions together are as many
as the files and all the classes in them, and the names are those of the
files and the qualified names of the classes. -/
theorem definitions_kept_or_replaced (config : Config) (files : List Source)
    (hplaced : ∀ f ∈ files, f.tree.WellPlaced) :
    let report := (runChecks config files).1
    report.registry.size + report.collisions.length
      = (files.map fun f => 1 + f.tree.classCount).sum ∧
    ∀ name, name ∈ report.registry.keys ↔
      ∃ f ∈ files, name = f.moduleName ∨
        ∃ p s, f.tree.node.at? p = some (.stmt s) ∧ s.isClass = true ∧
          name = f.tree.qualified f.moduleName p := by
  intro report
  constructor
  · have hmerged :=
      tally_foldl_collectInto config (definedNames files) files ({}, [])
    have hfiles : (files.map fun f =>
        (f.context config (definedNames files)).collect.1.tally)
        = files.map fun f => 1 + f.tree.classCount := by
      refine List.map_congr_left ?_
      intro f hf
      exact Context.tally_collect_of_wellPlaced (hplaced f hf)
    rw [hfiles] at hmerged
    exact hmerged.trans (Nat.zero_add _)
  · intro name
    rw [mem_keys_runChecks]
    refine exists_congr fun f => and_congr_right fun hf => ?_
    refine (Context.mem_keys_collect
      (c := f.context config (definedNames files))
      (hplaced f hf)).trans ?_
    constructor
    · rintro ⟨p, n, hp, hrecord, hname⟩
      cases n with
      | module body =>
          obtain rfl := Node.eq_nil_of_at?_module hp
          exact Or.inl (hname.symm.trans (f.tree.qualified_nil f.moduleName))
      | stmt s => exact Or.inr ⟨p, s, hp, hrecord, hname.symm⟩
      | _ => cases hrecord
    · rintro (rfl | ⟨p, s, hp, hclass, rfl⟩)
      · exact ⟨[], f.tree.node, rfl, rfl, f.tree.qualified_nil f.moduleName⟩
      · exact ⟨p, .stmt s, hp, hclass, rfl⟩

/-- A class without anything in it, on the given line. -/
def emptyClass (line : Int) (column : Nat) (name : String) : Stmt :=
  .classDef ⟨line, line, column⟩ name [] []
    [.pass ⟨line, line, column + 11⟩] []

/-- A file that defines a class twice, and another one two functions deep. -/
def boxes : Source where
  path := ⟨.relative, ["app", "box.py"]⟩
  moduleName := "app.box"
  package := "app"
  tree := ⟨[
    emptyClass 1 0 "Box",
    .functionDef ⟨2, 4, 0⟩ false "make" ⟨[], [], none, [], [], none, []⟩ [
      .functionDef ⟨3, 4, 4⟩ false "inner" ⟨[], [], none, [], [], none, []⟩
        [emptyClass 4 8 "Lid"] [] none] [] none,
    emptyClass 5 0 "Box"]⟩

/-- Another file with the same name and a class of the same name. -/
def moreBoxes : Source where
  path := ⟨.relative, ["lib", "app", "box.py"]⟩
  moduleName := "app.box"
  package := "app"
  tree := ⟨[emptyClass 1 0 "Box"]⟩

theorem boxes_kept_or_replaced :
    (∀ f ∈ [boxes, moreBoxes], f.tree.WellPlaced) ∧
    (runChecks {} [boxes, moreBoxes]).1.registry.size
      + (runChecks {} [boxes, moreBoxes]).1.collisions.length = 6 ∧
    "app.box.make.Lid" ∈
      (runChecks {} [boxes, moreBoxes]).1.registry.keys := by
  have hplaced : ∀ f ∈ [boxes, moreBoxes],
      f.tree.WellPlaced := by decide +kernel
  obtain ⟨htally, hkeys⟩ :=
    definitions_kept_or_replaced {} [boxes, moreBoxes] hplaced
  refine ⟨hplaced, htally.trans (by decide +kernel), (hkeys _).2 ?_⟩
  refine ⟨boxes, List.mem_cons_self,
    Or.inr ⟨[1, 1, 1], emptyClass 4 8 "Lid", rfl, rfl, ?_⟩⟩
  decide +kernel

end Purity
