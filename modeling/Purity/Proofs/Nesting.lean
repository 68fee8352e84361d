/-
What a text refers to, and what the text around it refers to. References
are gathered level by level and then put in the order of the source text,
nodes that start at one place in the order of the levels. For a part of
a node both steps leave out nodes and change nothing else. Its levels are
some of what is on the levels of the whole (`walkLevels_sublist`), and a
node that is left out makes no difference to how the others are ordered
(`textOrder_sublist`), since each node goes to a place that its position
alone decides (`textOrder_cons`).

So the references of a part are among those of the whole, in the same
order and as often, wherever the nodes claim to be in the text.
-/
import Mathlib.Data.List.Flatten
import Purity.Proofs.Finding

namespace Purity

namespace Node

-- ======================================================= breadth first

/-- Fewer nodes to start from give fewer nodes below them, in the same
order. -/
theorem walkLevels_sublist {xs ys : List Node} (h : xs.Sublist ys) :
    (walkLevels xs).Sublist (walkLevels ys) := by
  fun_induction walkLevels ys generalizing xs with
  | case1 =>
      rw [List.sublist_nil.1 h, walkLevels]
  | case2 n ns ih =>
      cases xs with
      | nil =>
          rw [walkLevels]
          exact List.nil_sublist _
      | cons m ms =>
          rw [walkLevels]
          exact h.append (ih (h.flatMap children))

/-- A walk over a part meets some of the nodes of the whole, in the same
order. -/
theorem walk_sublist_of_within {m n : Node} (h : m.Within n) :
    m.walk.Sublist n.walk := by
  induction n using childrenInduction with
  | step n ih =>
      rcases within_iff.1 h with rfl | ⟨c, hc, hin⟩
      · exact List.Sublist.refl _
      · have hlevel : c.walk.Sublist (walkLevels n.children) :=
          walkLevels_sublist (List.singleton_sublist.2 hc)
        have hbelow : (walkLevels n.children).Sublist n.walk := by
          unfold walk
          rw [walkLevels, List.flatMap_singleton]
          exact List.sublist_append_right [n] _
        exact ((ih c hc hin).trans hlevel).trans hbelow

-- ==================================================== order of the text

theorem startsNoLater_trans (a b c : Node) (hab : a.startsNoLater b = true)
    (hbc : b.startsNoLater c = true) : a.startsNoLater c = true := by
  unfold startsNoLater at *
  grind

theorem startsNoLater_total (a b : Node) :
    (a.startsNoLater b || b.startsNoLater a) = true := by
  unfold startsNoLater
  grind

/-- One node more stands behind those that start before it and in front of
the others, and all of these keep their order. -/
theorem textOrder_cons (n : Node) (ns : List Node) :
    textOrder (n :: ns)
        = (textOrder ns).filter (fun m => !n.startsNoLater m)
          ++ n :: (textOrder ns).filter n.startsNoLater ∧
      textOrder ns
        = (textOrder ns).filter (fun m => !n.startsNoLater m)
          ++ (textOrder ns).filter n.startsNoLater := by
  obtain ⟨before, after, hwhole, hothers, hbefore⟩ :=
    List.mergeSort_cons startsNoLater_trans startsNoLater_total n ns
  have hsorted :=
    List.pairwise_mergeSort startsNoLater_trans startsNoLater_total (n :: ns)
  rw [hwhole, List.pairwise_append, List.pairwise_cons] at hsorted
  have hafter : ∀ m ∈ after, n.startsNoLater m = true := hsorted.2.1.1
  have hfirst : (before ++ after).filter (fun m => !n.startsNoLater m) =
      before := by
    rw [List.filter_append, List.filter_eq_self.2 hbefore,
      List.filter_eq_nil_iff.2, List.append_nil]
    intro m hm
    simp [hafter m hm]
  have hlast : (before ++ after).filter n.startsNoLater = after := by
    rw [List.filter_append, List.filter_eq_self.2 hafter,
      List.filter_eq_nil_iff.2, List.nil_append]
    intro m hm
    simpa using hbefore m hm
  unfold textOrder
  rw [hwhole, hothers, hfirst, hlast]
  exact ⟨rfl, rfl⟩

/-- Leaving out nodes does not change the order of the others. -/
theorem textOrder_sublist {xs ys : List Node} (h : xs.Sublist ys) :
    (textOrder xs).Sublist (textOrder ys) := by
  induction h with
  | slnil => exact List.Sublist.refl _
  | @cons xs ys n h ih =>
      obtain ⟨hwhole, hothers⟩ := textOrder_cons n ys
      rw [hothers] at ih
      rw [hwhole]
      exact ih.trans ((List.sublist_cons_self n _).append_left _)
  | @cons_cons xs ys n h ih =>
      rw [(textOrder_cons n xs).1, (textOrder_cons n ys).1]
      exact (ih.filter _).append ((ih.filter _).cons_cons n)

-- ========================================================== references

variable {c : Context} {m n : Node}

/-- The references of a part are among those of the whole, in the same order
and as often. -/
theorem references_sublist (h : m.Within n) :
    (m.references c).imported.Sublist (n.references c).imported ∧
      (m.references c).called.Sublist (n.references c).called := by
  have hnodes := textOrder_sublist (walk_sublist_of_within h)
  exact ⟨hnodes.flatMap _, hnodes.flatMap _⟩

theorem mem_dependencies_of_imported {x : RawText}
    (hx : x ∈ (n.references c).imported) (hne : x ≠ "")
    (visible : List Alias) : x ∈ n.dependencies c visible := by
  unfold dependencies
  simp only [SortedSet.mem_ofList, List.mem_filter, List.mem_append,
    decide_eq_true_eq]
  exact ⟨Or.inl hx, hne⟩

end Node

/-- References of a nested text are references of every text around it. The
modules that a part of a node imports are among those that the node
imports, in the same order and with every repetition, and so are the
paths that it calls functions of. Hence whatever a part imports is a
dependency of the definition that the node is, if the definition is no
protocol, whatever the state of the walk that registers it: only the
marker and its module are left out, and the empty name, which is that of
no module. The record that stays registered has it as well. -/
theorem references_of_nested_text (c : Context) {m n : Node}
    (hin : m.Within n) :
    (m.references c).imported.Sublist (n.references c).imported ∧
    (m.references c).called.Sublist (n.references c).called ∧
    ∀ x ∈ (m.references c).imported, x ≠ "" → x ≠ c.dottedMarker →
    x ≠ c.markerHome →
      (∀ name line s,
        x ∈ (Collector.definitionOf c name n line s).dependencies) ∧
      ∀ name v d, c.site? name = some v → v.node = n →
        c.collect.1.registry.get? name = some d → d.protocol = false →
        x ∈ d.dependencies := by
  obtain ⟨himported, hcalled⟩ := Node.references_sublist (c := c) hin
  refine ⟨himported, hcalled, fun x hx hne hmarker hhome => ?_⟩
  have hdependency :=
    Node.mem_dependencies_of_imported (himported.subset hx) hne
  constructor
  · intro name line s
    refine SortedSet.mem_filter.2 ⟨hdependency _, ?_⟩
    simp [hmarker, hhome]
  · rintro name v d hsite rfl hd hkind
    obtain ⟨w, e, hsite', he, hbare⟩ := Context.exists_site hd
    obtain rfl : v = w := Option.some.inj (hsite.symm.trans hsite')
    rw [Context.mem_dependencies_of_declared? he hbare hkind]
    exact ⟨⟨hne, hmarker, hhome⟩, (Node.mem_dependencies.1 (hdependency _)).2⟩

/-- The file that imports `os` in a method of a class, on its own. -/
def hiddenContext : Context :=
  hiddenImport.context {} (definedNames [hiddenImport])

/-- The class refers to `os`, so the file depends on it. -/
theorem hidden_import_of_class_and_file :
    ∃ m, hiddenImport.tree.node.at? [1] = some m ∧
      ("os" : RawText) ∈ (m.references hiddenContext).imported ∧
      (m.references hiddenContext).imported.Sublist
        (hiddenImport.tree.node.references hiddenContext).imported ∧
      ("os" : RawText) ∈ (Collector.definitionOf hiddenContext "app.core"
        hiddenImport.tree.node 1 {}).dependencies := by
  obtain ⟨m, hm⟩ : ∃ m, hiddenImport.tree.node.at? [1] = some m := ⟨_, rfl⟩
  have himport : m.at? [0, 1] = some (.stmt (importStmt 4 8 "os" none)) := by
    cases hm
    rfl
  have hreferred :
      ("os" : RawText) ∈ (m.references hiddenContext).imported := by
    refine List.mem_flatMap.2 ⟨_,
      Node.mem_textOrder.2 (Node.mem_walk.2 ⟨_, himport⟩), ?_⟩
    exact Node.mem_imported.2
      (Or.inl ⟨_, _, rfl, .module (List.mem_singleton_self _), rfl⟩)
  obtain ⟨himported, -, hdependencies⟩ :=
    references_of_nested_text hiddenContext ⟨_, hm⟩
  refine ⟨m, hm, hreferred, himported, ?_⟩
  exact (hdependencies "os" hreferred (by decide) (by decide)
    (by decide)).1 _ _ _

end Purity
