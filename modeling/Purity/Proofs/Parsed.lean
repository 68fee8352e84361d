/-
Parsed files. The proofs about scopes, markers and charged calls assume
that the spans and names of a tree are those of a text: `WellPlaced`,
`ClassesInside`, `CallsInside`, `PlainlyNamed`, `NamesOnOneLine`, and that
imports bind names without dots. All of this holds of whatever the parser
returns (`Module.wellFormed_of_parse`), and so of every file that is read
from a file tree (`FileTree.wellFormed_of_parse`).

The parser gives a row of statements, so the tree is tidy; in a tidy tree a
definition that has the first line of something among its lines stands
around it (`Tidy.isPrefix`).
-/
import Purity.Proofs.Enclosure
import Purity.Proofs.FileName
import Purity.Proofs.ImportSplit
import Purity.Proofs.MarkerName
import Purity.Proofs.Statement

namespace Purity

-- ========================================================== tidy trees

namespace Node

variable {n : Node}

theorem Tidy.of_child {c : Node} (h : n.Tidy) (hc : c ∈ n.children) :
    c.Tidy := by
  have hin : ∀ {k : Node}, k.Within c → k.Within n := fun hk => hk.of_child hc
  exact ⟨fun s hs => h.ordered s (hin hs), fun k hk => h.encloses k (hin hk),
    fun k hk => h.apart k (hin hk)⟩

/-- Any two children of a tidy node are apart. -/
theorem Apart.of_pairwise {cs : List Node} {c c' : Node} {i j : Nat}
    (h : cs.Pairwise Apart) (hij : i ≠ j) (hc : cs[i]? = some c)
    (hc' : cs[j]? = some c') : c.Apart c' := by
  obtain ⟨hi, rfl⟩ := List.getElem?_eq_some_iff.1 hc
  obtain ⟨hj, rfl⟩ := List.getElem?_eq_some_iff.1 hc'
  rcases Nat.lt_or_gt_of_ne hij with hlt | hlt
  · exact List.pairwise_iff_getElem.1 h i j hi hj hlt
  · exact (List.pairwise_iff_getElem.1 h j i hj hi hlt).symm

/-- What starts on a line of a definition is part of the definition. The
induction is on the place of the definition, which either leaves the way
to the other part at a node with both, or goes on below it. -/
theorem Tidy.isPrefix (h : n.Tidy) {p q : Place} {d : Stmt} {k : Node}
    {span : Span} (hd : n.definitionAt? p = some d) (hk : n.at? q = some k)
    (hspan : k.span? = some span) (hline : d.span.holds span.line = true) :
    p <+: q := by
  induction p generalizing n q with
  | nil => exact List.nil_prefix
  | cons i p ih =>
    obtain ⟨hat, hdef⟩ := definitionAt?_eq_some.1 hd
    obtain ⟨c, hc, hp⟩ := at?_cons_eq_some hat
    have hcmem := List.mem_of_getElem? hc
    have hwithin : (Node.stmt d).Within c := ⟨p, hp⟩
    cases q with
    | nil =>
      cases hk
      have hlt :=
        (h.encloses k (.refl k) span hspan c hcmem d hwithin).line_lt hdef
      simp only [Span.holds, Bool.and_eq_true, decide_eq_true_eq] at hline
      omega
    | cons j q =>
      obtain ⟨c', hc', hq⟩ := at?_cons_eq_some hk
      by_cases hij : i = j
      · subst hij
        obtain rfl := Option.some.inj (hc.symm.trans hc')
        rw [definitionAt?_cons p hc] at hd
        exact List.cons_prefix_cons.2
          ⟨rfl, ih (h.of_child hcmem) hd hq⟩
      · have hapart := Apart.of_pairwise (h.apart n (.refl n)) hij hc hc'
        exact absurd hline (hapart.1 d hwithin hdef k ⟨q, hq⟩ span hspan)

end Node

namespace Module

variable {m : Module}

theorem wellPlaced_of_tidy (h : m.node.Tidy) : m.WellPlaced := by
  refine ⟨fun p s hs => h.ordered s ⟨p, hs⟩, ?_, ?_⟩
  · intro p q k span s hk hspan hs
    rw [Node.at?_append q hk] at hs
    cases q with
    | nil =>
      cases hs
      cases hspan
      exact ⟨Int.le_refl _, Int.le_refl _⟩
    | cons i q =>
      obtain ⟨c, hc, hq⟩ := Node.at?_cons_eq_some hs
      have hin := h.encloses k ⟨p, hk⟩ span hspan c (List.mem_of_getElem? hc)
        s ⟨q, hq⟩
      exact ⟨hin.line_le, hin.endLine_le⟩
  · intro p q d s hd hs hline
    exact h.isPrefix hd hs rfl hline

theorem callsInside_of_tidy (h : m.node.Tidy) : m.CallsInside :=
  fun _ _ _ _ _ hd hk _ hspan hline => h.isPrefix hd hk hspan hline

theorem plainlyNamed_of_marked {onLine : Int → Prop}
    (h : m.node.Marked onLine Name.Plain) : m.PlainlyNamed := by
  intro p d hd
  obtain ⟨hp, hdef⟩ := Node.definitionAt?_eq_some.1 hd
  have hwords := (h (.stmt d) ⟨p, hp⟩).2
  cases d with
  | functionDef _ _ name => exact (hwords name List.mem_cons_self).1
  | classDef _ name => exact (hwords name List.mem_cons_self).1
  | _ => cases hdef

end Module

/-- The names of a path are words of its parts. -/
theorem Expr.exists_word_of_path? {e : Expr} {names : List String}
    (h : e.path? = some names) : ∀ s ∈ names, ∃ k : Node,
      k.Within (.expr e) ∧ s ∈ k.words := by
  fun_induction Expr.path? e generalizing names with
  | case1 span id =>
    cases h
    exact fun s hs => ⟨_, .refl _, hs⟩
  | case2 span value attr ih =>
    obtain ⟨before, hbefore, rfl⟩ := Option.map_eq_some_iff.1 h
    intro s hs
    rcases List.mem_append.1 hs with hs | hs
    · obtain ⟨k, hk, hword⟩ := ih hbefore s hs
      exact ⟨k, hk.of_child List.mem_cons_self, hword⟩
    · exact ⟨_, .refl _, hs⟩
  | case3 => cases h

namespace Module

variable {m : Module}

theorem namesOnOneLine_of_marked {onLine : Int → Prop}
    (h : m.node.Marked onLine Name.Plain) : m.NamesOnOneLine := by
  intro n hn s hs
  cases n with
  | expr e =>
    cases hpath : e.path? with
    | none => simp [Node.spelled, hpath] at hs
    | some names =>
      simp only [Node.spelled, hpath, Option.getD_some] at hs
      obtain ⟨k, hk, hword⟩ := e.exists_word_of_path? hpath s hs
      exact ((h k (hk.trans hn)).2 s hword).2
  | _ => cases hs

/-- The names that an import binds are its words. -/
theorem mem_words_of_mem_bindings {package : String} {n : Node} {a : Alias}
    (h : a ∈ n.bindings package) : a.short ∈ n.words := by
  unfold Node.bindings at h
  split at h
  next =>
    obtain ⟨i, hi, rfl⟩ := List.mem_map.1 h
    exact List.mem_map.2 ⟨i, hi, rfl⟩
  next =>
    obtain ⟨i, hi, hmember⟩ := List.mem_filterMap.1 h
    unfold ImportName.memberAlias? at hmember
    split at hmember
    next => cases hmember
    next =>
      cases hmember
      exact List.mem_map.2 ⟨i, hi, rfl⟩
  next => cases h

theorem segment_of_mem_boundNames {onLine : Int → Prop}
    (h : m.node.Marked onLine Name.Plain) {package : String}
    {project : NameSet} {x : String}
    (hx : x ∈ m.node.boundNames package project) : Name.Segment x := by
  obtain ⟨k, a, hk, -, ha, -, rfl⟩ := Node.mem_boundNames.1 hx
  exact ((h k hk).2 _ (mem_words_of_mem_bindings ha)).1

-- ============================================================== parsing

/-- What is assumed of a tree, wherever something is. -/
structure WellFormed (m : Module) : Prop where
  wellPlaced : m.WellPlaced
  classesInside : m.ClassesInside
  callsInside : m.CallsInside
  plainlyNamed : m.PlainlyNamed
  wellNamed : m.WellNamed
  namesOnOneLine : m.NamesOnOneLine
  boundNames : ∀ package project, ∀ x ∈ m.node.boundNames package project,
    Name.Segment x

theorem wellFormed_of_row {a b : Spot}
    (h : Node.Row a m.node.children b) : m.WellFormed := by
  have htidy : m.node.Tidy := by
    refine .of_children nofun nofun h.apart fun c hc => (h.laid c hc).tidy
  have hmarked : m.node.Marked (fun _ => True) Name.Plain := by
    refine Node.marked_iff.2 ⟨⟨nofun, nofun⟩, fun c hc => ?_⟩
    exact (h.laid c hc).marked.mono (fun _ _ => trivial) fun _ hw => hw
  have hplaced := wellPlaced_of_tidy htidy
  have hnamed := plainlyNamed_of_marked hmarked
  exact ⟨hplaced, hplaced.classesInside, callsInside_of_tidy htidy, hnamed,
    fun p d hd => (hnamed p d hd).1, namesOnOneLine_of_marked hmarked,
    fun _ _ _ hx => segment_of_mem_boundNames hmarked hx⟩

/-- Whatever text is parsed, its tree has all that is assumed of trees. -/
theorem wellFormed_of_parse {text : String}
    (h : Module.parse text = .ok m) : m.WellFormed := by
  unfold Module.parse readTokens at h
  split at h
  next => cases h
  next =>
    split at h
    next m' d hrun =>
      cases h
      obtain ⟨start, hstart, hfile⟩ := Option.bind_eq_some_iff.1 hrun
      obtain ⟨htokens, hlast⟩ := Grammar.Cursor.start_eq_some hstart
      have hasc := Lexer.tokensFrom_ascends {} (Lexer.sourceLines text.toList)
      have hfresh : start.Fresh := by
        refine ⟨Nat.le_add_left 1 _, Nat.le_succ _, ?_⟩
        rw [hlast, ← htokens]
        exact ⟨_, hasc⟩
      obtain ⟨b, hrow⟩ := Grammar.row_file _ hfresh m d hfile
      exact wellFormed_of_row hrow
    next => cases h

end Module

/-- Every file that is read from a file tree has all that is assumed of
trees. -/
theorem FileTree.wellFormed_of_parse {t : FileTree} {p : Path} {f : Source}
    (h : t.parse p = .ok (.ok f)) : f.tree.WellFormed := by
  obtain ⟨tree, name, hmodule, -, rfl⟩ := exists_of_parse h
  obtain ⟨bytes, -, hmodule⟩ := Outcome.bind_eq_ok.1 hmodule
  obtain ⟨text, -, hmodule⟩ := Outcome.bind_eq_ok.1 hmodule
  exact Module.wellFormed_of_parse (Outcome.mapError_eq_ok.1 hmodule)

end Purity
