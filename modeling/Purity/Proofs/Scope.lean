/-
Scopes by line are scopes by nesting. A scope is found from a line alone:
the search goes down the tree, passes over everything whose span does not
hold the line, and follows the first branch with a definition in it. In a
well-placed tree no other branch can hold the line, so the definitions it
finds are those around the line in the text, and the scope of a statement
is named after the definitions that it stands in.

The argument is about the way to one place. Where every node on the way
may hold the line, and every definition that holds it is on the way, the
search goes that way (`definitionsAround_eq_along`). For a statement the
way is the one to the statement; for any other line it is the way to the
innermost definition that holds it (`exists_innermost`).

Consumed by the proofs about the names that the collector registers.
-/
import Mathlib.Data.Finset.Max
import Mathlib.Data.List.Infix
import Purity.Proofs.Layout
import Purity.Proofs.Name

namespace Purity

namespace Node

-- ========================================================== one search

/-- The definitions around a line in a node, the node itself included. -/
def reached (line : Int) (c : Node) : List Stmt :=
  if c.mayHold line then c.definition?.toList ++ c.definitionsAround line
  else []

/-- The search takes the first child that reaches anything. -/
theorem definitionsAround_eq_find (line : Int) (n : Node) :
    n.definitionsAround line
      = ((n.children.map (reached line)).find? (!·.isEmpty)).getD [] := by
  rw [definitionsAround]
  simp only [List.findSome?_subtype, List.unattach_attach]
  congr 1
  induction n.children with
  | nil => rfl
  | cons c cs ih =>
      rw [List.findSome?_cons, ih, List.map_cons, List.find?_cons]
      unfold reached
      cases hhold : c.mayHold line with
      | false => simp
      | true =>
          cases hdef : c.definition? with
          | some s => simp
          | none => cases hin : c.definitionsAround line <;> simp

/-- A search with one child that can reach anything goes there. -/
theorem definitionsAround_of_only {line : Int} {n c : Node} {i : Nat}
    (hc : n.children[i]? = some c)
    (honly : ∀ j b, n.children[j]? = some b → j ≠ i → b.reached line = []) :
    n.definitionsAround line = c.reached line := by
  rw [definitionsAround_eq_find]
  generalize n.children = l at hc honly
  induction l generalizing i with
  | nil => cases hc
  | cons b l ih =>
      rw [List.map_cons, List.find?_cons]
      cases i with
      | zero =>
          obtain rfl : b = c := by simpa using hc
          have hrest : (l.map (reached line)).find? (!·.isEmpty) = none := by
            rw [List.find?_eq_none]
            intro chain hchain
            obtain ⟨a, ha, rfl⟩ := List.mem_map.1 hchain
            obtain ⟨j, hj⟩ := List.mem_iff_getElem?.1 ha
            have hnil := honly (j + 1) a (by simpa using hj) (by omega)
            simp [hnil]
          cases hb : reached line b with
          | nil => simp [hrest]
          | cons d ds => simp
      | succ i =>
          have hnil : b.reached line = [] := honly 0 b rfl (by omega)
          rw [hnil]
          refine ih (by simpa using hc) ?_
          intro j a ha hne
          exact honly (j + 1) a (by simpa using ha) (by omega)

/-- What a search finds stands in the tree and holds the line. -/
theorem exists_place_of_mem_definitionsAround {line : Int} {n : Node}
    {d : Stmt} (hd : d ∈ n.definitionsAround line) :
    ∃ p, p ≠ [] ∧ n.definitionAt? p = some d ∧ d.span.holds line = true := by
  induction n using childrenInduction with
  | step n ih =>
      rw [definitionsAround_eq_find] at hd
      cases hfind : (n.children.map (reached line)).find? (!·.isEmpty) with
      | none => rw [hfind] at hd; cases hd
      | some chain =>
          rw [hfind, Option.getD_some] at hd
          obtain ⟨c, hc, rfl⟩ :=
            List.mem_map.1 (List.mem_of_find?_eq_some hfind)
          obtain ⟨i, hi⟩ := List.mem_iff_getElem?.1 hc
          unfold reached at hd
          split at hd
          next hhold =>
            rcases List.mem_append.1 hd with hself | hbelow
            · have hdef : c.definition? = some d := by simpa using hself
              obtain ⟨rfl, hisdef⟩ := definition?_eq_some.1 hdef
              refine ⟨[i], by simp, ?_, hhold⟩
              rw [definitionAt?_cons [] hi]
              exact definitionAt?_eq_some.2 ⟨rfl, hisdef⟩
            · obtain ⟨p, -, hp, hline⟩ := ih c hc hbelow
              refine ⟨i :: p, by simp, ?_, hline⟩
              rw [definitionAt?_cons p hi]
              exact hp
          next => cases hd

/-- A child that reaches anything holds a definition with the line. -/
theorem exists_place_of_reached {line : Int} {c : Node}
    (h : c.reached line ≠ []) :
    ∃ p d, c.definitionAt? p = some d ∧ d.span.holds line = true := by
  obtain ⟨d, hd⟩ := List.exists_mem_of_ne_nil _ h
  unfold reached at hd
  split at hd
  next hhold =>
    rcases List.mem_append.1 hd with hself | hbelow
    · have hdef : c.definition? = some d := by simpa using hself
      obtain ⟨rfl, hisdef⟩ := definition?_eq_some.1 hdef
      exact ⟨[], d, definitionAt?_eq_some.2 ⟨rfl, hisdef⟩, hhold⟩
    · obtain ⟨p, -, hp, hline⟩ := exists_place_of_mem_definitionsAround hbelow
      exact ⟨p, d, hp, hline⟩
  next => cases hd

-- ==================================================== the way to a place

/-- Where every node on the way to a place may hold a line, and every
definition that holds the line is on the way, the search goes that way. -/
theorem definitionsAround_eq_along {line : Int} {n m : Node} {p : Place}
    (hp : n.at? p = some m)
    (hway : ∀ q r k, p = q ++ r → q ≠ [] → n.at? q = some k →
      k.mayHold line = true)
    (hall : ∀ q d, q ≠ [] → n.definitionAt? q = some d →
      d.span.holds line = true → q <+: p) :
    n.definition?.toList ++ n.definitionsAround line = n.enclosing p := by
  induction p generalizing n with
  | nil =>
      have hnone : n.definitionsAround line = [] := by
        rw [List.eq_nil_iff_forall_not_mem]
        intro d hd
        obtain ⟨q, hq, hat, hline⟩ := exists_place_of_mem_definitionsAround hd
        exact hq (List.prefix_nil.1 (hall q d hq hat hline))
      rw [hnone, List.append_nil]
      unfold enclosing along
      cases hdef : n.definition? <;> simp [hdef]
  | cons i p ih =>
      obtain ⟨c, hc, hp⟩ := at?_cons_eq_some hp
      -- another child that reaches the line holds a definition off the way
      have honly : ∀ j b, n.children[j]? = some b → j ≠ i →
          b.reached line = [] := by
        intro j b hb hne
        by_contra hreach
        obtain ⟨q, d, hat, hline⟩ := exists_place_of_reached hreach
        rw [← definitionAt?_cons q hb] at hat
        have hpre := hall (j :: q) d (by simp) hat hline
        exact hne (List.cons_prefix_cons.1 hpre).1
      have hhold : c.mayHold line = true :=
        hway [i] p c rfl (by simp) (by rw [at?_cons [] hc]; rfl)
      have hrest : c.definition?.toList ++ c.definitionsAround line
          = c.enclosing p := by
        refine ih hp ?_ ?_
        · rintro q r k rfl hq hk
          refine hway (i :: q) r k rfl (by simp) ?_
          rw [at?_cons q hc]
          exact hk
        · intro q d hq hat hline
          rw [← definitionAt?_cons q hc] at hat
          have hpre := hall (i :: q) d (by simp) hat hline
          exact (List.cons_prefix_cons.1 hpre).2
      rw [definitionsAround_of_only hc honly]
      unfold reached
      rw [if_pos hhold, hrest]
      unfold enclosing
      rw [along_cons p hc]
      cases hdef : n.definition? <;> simp [hdef]

/-- A search for a line that the whole way to a definition may hold finds
something. -/
theorem definitionsAround_ne_nil {line : Int} {n : Node} {p : Place} {d : Stmt}
    (hp : p ≠ []) (hd : n.definitionAt? p = some d)
    (hway : ∀ q r k, p = q ++ r → n.at? q = some k → k.mayHold line = true) :
    n.definitionsAround line ≠ [] := by
  induction p generalizing n with
  | nil => exact absurd rfl hp
  | cons i p ih =>
      obtain ⟨c, hc, hat⟩ := at?_cons_eq_some (definitionAt?_eq_some.1 hd).1
      have hhold : c.mayHold line = true :=
        hway [i] p c rfl (by rw [at?_cons [] hc]; rfl)
      rw [definitionAt?_cons p hc] at hd
      -- the child on the way reaches something, so the first that does is
      -- found
      have hreach : c.reached line ≠ [] := by
        unfold reached
        rw [if_pos hhold]
        cases p with
        | nil =>
            have hself : c.definition? = some d := hd
            simp [hself]
        | cons j p =>
            have hbelow : c.definitionsAround line ≠ [] := by
              refine ih (by simp) hd ?_
              intro q r k hq hk
              refine hway (i :: q) r k (by rw [hq]; rfl) ?_
              rw [at?_cons q hc]
              exact hk
            simp [hbelow]
      have hmem : c.reached line ∈ n.children.map (reached line) :=
        List.mem_map_of_mem (List.mem_of_getElem? hc)
      rw [definitionsAround_eq_find]
      cases hfind : (n.children.map (reached line)).find? (!·.isEmpty) with
      | none =>
          have hempty := List.find?_eq_none.1 hfind _ hmem
          simp [hreach] at hempty
      | some chain => simpa using List.find?_some hfind

/-- The definitions on the way to a place, place by place. -/
theorem enclosing_eq_filterMap_inits {n m : Node} {p : Place}
    (hp : n.at? p = some m) :
    n.enclosing p = p.inits.filterMap n.definitionAt? := by
  induction p generalizing n with
  | nil => rfl
  | cons i p ih =>
      obtain ⟨c, hc, hp⟩ := at?_cons_eq_some hp
      have hbelow : n.definitionAt? ∘ (i :: ·) = c.definitionAt? := by
        funext q
        exact definitionAt?_cons q hc
      rw [List.inits_cons, List.filterMap_cons, List.filterMap_map, hbelow,
        ← ih hp]
      unfold enclosing
      rw [along_cons p hc]
      rfl

end Node

/-- The beginnings of a list, each a proper beginning of the next ones. -/
theorem pairwise_inits {α : Type} (l : List α) :
    l.inits.Pairwise fun a b => a <+: b ∧ a ≠ b := by
  induction l with
  | nil => simp
  | cons x l ih =>
      rw [List.inits_cons, List.pairwise_cons]
      constructor
      · intro b hb
        obtain ⟨t, -, rfl⟩ := List.mem_map.1 hb
        exact ⟨List.nil_prefix, by simp⟩
      · refine List.Pairwise.map _ ?_ ih
        rintro a b ⟨hpre, hne⟩
        exact ⟨List.cons_prefix_cons.2 ⟨rfl, hpre⟩, by simpa using hne⟩

-- ==================================================== well-placed trees

theorem Span.holds_iff {s : Span} {line : Int} :
    s.holds line = true ↔ s.line ≤ line ∧ line ≤ s.endLine := by
  simp [Span.holds]

namespace Module.WellPlaced

variable {m : Module} (h : m.WellPlaced) {line : Int}

include h

/-- What a statement stands in may hold the lines of the statement. -/
theorem mayHold {p q : Place} {k : Node} {s : Stmt}
    (hk : m.node.at? p = some k) (hs : m.node.at? (p ++ q) = some (.stmt s))
    (hline : s.span.holds line = true) : k.mayHold line = true := by
  unfold Node.mayHold
  cases hspan : k.span? with
  | none => rfl
  | some span =>
      have hin := h.inside p q k span s hk hspan hs
      rw [Span.holds_iff] at hline
      show span.holds line = true
      rw [Span.holds_iff]
      omega

theorem classesInside : m.ClassesInside := by
  intro p q k s hk hs _
  refine h.mayHold hk hs ?_
  have hord := h.ordered (p ++ q) s hs
  rw [Span.holds_iff]
  omega

/-- Of two definitions that hold a line one is part of the other. -/
theorem prefix_or_prefix {p q : Place} {d e : Stmt}
    (hd : m.node.definitionAt? p = some d) (hdline : d.span.holds line = true)
    (he : m.node.definitionAt? q = some e)
    (heline : e.span.holds line = true) :
    p <+: q ∨ q <+: p := by
  have hdat := (Node.definitionAt?_eq_some.1 hd).1
  have heat := (Node.definitionAt?_eq_some.1 he).1
  rw [Span.holds_iff] at hdline heline
  -- the one that starts later starts on a line of the other
  rcases Int.le_total d.span.line e.span.line with hle | hle
  · refine Or.inl (h.apart p q d e hd heat ?_)
    rw [Span.holds_iff]
    omega
  · refine Or.inr (h.apart q p e d he hdat ?_)
    rw [Span.holds_iff]
    omega

/-- Among the definitions that hold a line, one is part of all of them. -/
theorem exists_innermost
    (hsome : ∃ p d, m.node.definitionAt? p = some d ∧
      d.span.holds line = true) :
    ∃ p d, m.node.definitionAt? p = some d ∧ d.span.holds line = true ∧
      ∀ q e, m.node.definitionAt? q = some e → e.span.holds line = true →
        q <+: p := by
  let holding : Finset Place :=
    ((m.node.placed.map Prod.fst).filter fun p =>
      (m.node.definitionAt? p).any fun d => d.span.holds line).toFinset
  have hmem : ∀ p, p ∈ holding ↔
      ∃ d, m.node.definitionAt? p = some d ∧ d.span.holds line = true := by
    intro p
    simp only [holding, List.mem_toFinset, List.mem_filter, Option.any_eq_true]
    constructor
    · rintro ⟨-, d, hd, hline⟩
      exact ⟨d, hd, hline⟩
    · rintro ⟨d, hd, hline⟩
      have hat := (Node.definitionAt?_eq_some.1 hd).1
      exact ⟨List.mem_map.2 ⟨(p, .stmt d), Node.mem_placed.2 hat, rfl⟩, d, hd,
        hline⟩
  obtain ⟨p₀, hp₀⟩ := hsome
  obtain ⟨p, hp, hmax⟩ :=
    holding.exists_max_image List.length ⟨p₀, (hmem p₀).2 hp₀⟩
  obtain ⟨d, hd, hline⟩ := (hmem p).1 hp
  refine ⟨p, d, hd, hline, ?_⟩
  intro q e he heline
  rcases h.prefix_or_prefix he heline hd hline with hpre | hpre
  · exact hpre
  · have hlen := hmax q ((hmem q).2 ⟨e, he, heline⟩)
    rw [hpre.eq_of_length_le hlen]

/-- The search for a line of a statement finds what the statement stands
in, when every definition with the line is around the statement. -/
theorem definitionsAround_eq {p : Place} {s : Stmt}
    (hs : m.node.at? p = some (.stmt s)) (hline : s.span.holds line = true)
    (hall : ∀ q d, m.node.definitionAt? q = some d →
      d.span.holds line = true → q <+: p) :
    m.node.definitionsAround line = m.node.enclosing p := by
  have hsearch : m.node.definition?.toList ++ m.node.definitionsAround line
      = m.node.enclosing p := by
    refine Node.definitionsAround_eq_along hs ?_ ?_
    · rintro q r k rfl - hk
      exact h.mayHold hk hs hline
    · intro q d _ hd hdline
      exact hall q d hd hdline
  rw [← hsearch]
  rfl

/-- The definitions that hold a line are on the way to a statement with
that line, if all of them are around it, and no others are. -/
theorem holds_iff_prefix {p q : Place} {s d : Stmt}
    (hs : m.node.at? p = some (.stmt s)) (hline : s.span.holds line = true)
    (hall : ∀ q d, m.node.definitionAt? q = some d →
      d.span.holds line = true → q <+: p)
    (hd : m.node.definitionAt? q = some d) :
    d.span.holds line = true ↔ q <+: p := by
  constructor
  · exact hall q d hd
  · rintro ⟨r, rfl⟩
    exact h.mayHold (Node.definitionAt?_eq_some.1 hd).1 hs hline

/-- The places of the definitions that hold a line are nested, and the
search finds the definitions at them, from the outside in. -/
theorem exists_places (line : Int) :
    ∃ places : List Place,
      (places.Pairwise fun outer inner => outer <+: inner ∧ outer ≠ inner) ∧
      (∀ p, p ∈ places ↔
        ∃ d, m.node.definitionAt? p = some d ∧ d.span.holds line = true) ∧
      places.map m.node.definitionAt?
        = (m.node.definitionsAround line).map some := by
  by_cases hsome : ∃ p d, m.node.definitionAt? p = some d ∧
    d.span.holds line = true
  · obtain ⟨p, s, hs, hline, hall⟩ := h.exists_innermost hsome
    have hat := (Node.definitionAt?_eq_some.1 hs).1
    refine ⟨p.inits.filter fun q => (m.node.definitionAt? q).isSome, ?_,
      ?_, ?_⟩
    · exact (pairwise_inits p).filter _
    · intro q
      rw [List.mem_filter, List.mem_inits, Option.isSome_iff_exists]
      constructor
      · rintro ⟨hpre, d, hd⟩
        exact ⟨d, hd, (h.holds_iff_prefix hat hline hall hd).2 hpre⟩
      · rintro ⟨d, hd, hdline⟩
        exact ⟨hall q d hd hdline, d, hd⟩
    · rw [h.definitionsAround_eq hat hline hall,
        Node.enclosing_eq_filterMap_inits hat,
        List.map_filterMap_some_eq_filter_map_isSome, List.filter_map]
      rfl
  · refine ⟨[], List.Pairwise.nil, ?_, ?_⟩
    · intro p
      simp only [List.not_mem_nil, false_iff]
      rintro ⟨d, hd⟩
      exact hsome ⟨p, d, hd⟩
    · have hnone : m.node.definitionsAround line = [] := by
        rw [List.eq_nil_iff_forall_not_mem]
        intro d hd
        obtain ⟨p, -, hp⟩ := Node.exists_place_of_mem_definitionsAround hd
        exact hsome ⟨p, d, hp⟩
      rw [hnone]
      rfl

end Module.WellPlaced

-- ====================================================== lexical scopes

/-- The names in a chain of definitions, the first of which stands
directly in `around`, that count for a scope: those of classes, and those
of functions that do not stand directly in a function. -/
def countedNames (around : Option Stmt) : List Stmt → List String
  | [] => []
  | d :: ds =>
      (if d.isFunction && around.any Stmt.isFunction then []
        else [d.definedName])
        ++ countedNames (some d) ds

/-- The scope inside a chain of definitions of a file, read off the chain:
it belongs to a function when the innermost definition is one. -/
def Scope.lexical (moduleName : String) (chain : List Stmt) : Scope where
  kind := if chain.getLast?.any Stmt.isFunction then .function else .module
  name := Name.join (moduleName :: countedNames none chain)

theorem Stmt.isFunction_eq_not_isClass {d : Stmt}
    (hd : d.isDefinition = true) :
    d.isFunction = !d.isClass := by
  cases d <;> simp_all [Stmt.isDefinition, Stmt.isClass, Stmt.isFunction]

/-- Entering the definitions of a chain one by one, when the scope so far
is inside `around`. -/
theorem foldl_enter (chain : List Stmt) (names : List String)
    (around : Option Stmt) (hdefs : ∀ d ∈ chain, d.isDefinition = true) :
    chain.foldl Scope.enter
        ⟨if around.any Stmt.isFunction then .function
          else .module, Name.join names⟩
      = ⟨if (chain.getLast?.or around).any Stmt.isFunction then .function
        else .module,
          Name.join (names ++ countedNames around chain)⟩ := by
  induction chain generalizing names around with
  | nil =>
      rw [countedNames, List.append_nil]
      rfl
  | cons d ds ih =>
      have hfun := Stmt.isFunction_eq_not_isClass (hdefs d (by simp))
      have hlast : ((d :: ds).getLast?.or around) =
          ds.getLast?.or (some d) := by
        cases ds <;> simp [List.getLast?_cons]
      have hstep : Scope.enter
          ⟨if around.any Stmt.isFunction then .function
            else .module, Name.join names⟩ d
          = ⟨if (some d).any Stmt.isFunction then .function else .module,
              Name.join (names ++ if d.isFunction && around.any Stmt.isFunction
                then [] else [d.definedName])⟩ := by
        unfold Scope.enter
        cases hclass : d.isClass with
        | true =>
            rw [hclass] at hfun
            simp [hfun, Name.join_concat]
        | false =>
            rw [hclass] at hfun
            cases hin : around.any Stmt.isFunction <;>
              simp [hfun, Name.join_concat]
      rw [List.foldl_cons, hstep, ih _ _ fun e he => hdefs e (by simp [he]),
        hlast]
      simp only [countedNames, List.append_assoc]

theorem Scope.ofChain_eq_lexical {moduleName : String} {chain : List Stmt}
    (hdefs : ∀ d ∈ chain, d.isDefinition = true) :
    Scope.ofChain moduleName chain = Scope.lexical moduleName chain := by
  have hfold := foldl_enter chain [moduleName] none hdefs
  simpa [Scope.ofChain, Scope.lexical] using hfold

/-- Inside a definition, the name of the file goes on. -/
theorem Scope.name_lexical_cons (moduleName : String) (d : Stmt)
    (ds : List Stmt) :
    (Scope.lexical moduleName (d :: ds)).name
      = Name.join [moduleName,
        Name.join (d.definedName :: countedNames (some d) ds)] := by
  have hcounted : countedNames none (d :: ds)
      = d.definedName :: countedNames (some d) ds := by
    simp [countedNames]
  show Name.join (moduleName :: countedNames none (d :: ds)) = _
  rw [hcounted, Name.join_cons]

/-- A scope found by line is the one inside the definitions found. -/
theorem Module.eq_lexical_of_scopeAt {m : Module} {moduleName : String}
    {line : Int} {scope : Scope} (h : m.scopeAt moduleName line = some scope) :
    scope = Scope.lexical moduleName (m.node.definitionsAround line) := by
  have hdefs : ∀ d ∈ m.node.definitionsAround line, d.isDefinition = true := by
    intro d hd
    obtain ⟨p, -, hat, -⟩ := Node.exists_place_of_mem_definitionsAround hd
    exact (Node.definitionAt?_eq_some.1 hat).2
  unfold Module.scopeAt at h
  split at h
  next =>
    injection h with h
    rw [← h, Scope.ofChain_eq_lexical hdefs]
  next => cases h

/-- A scope in a file with a name has a name. -/
theorem Module.scopeAt_name_ne {m : Module} {moduleName : String} {line : Int}
    {scope : Scope} (hname : moduleName ≠ "")
    (h : m.scopeAt moduleName line = some scope) : scope.name ≠ "" := by
  rw [Module.eq_lexical_of_scopeAt h]
  intro hempty
  exact hname (Name.join_eq_empty.1 hempty _ List.mem_cons_self)

/-- A scope is that of the file, outside of all definitions, or its name
continues that of the file. -/
theorem Module.WellNamed.scopeAt_cases {m : Module} (hnamed : m.WellNamed)
    {moduleName : String} {line : Int} {scope : Scope}
    (h : m.scopeAt moduleName line = some scope) :
    (m.node.definitionsAround line = [] ∧ scope = ⟨.module, moduleName⟩) ∨
      ∃ rest, rest ≠ "" ∧ scope.name = Name.join [moduleName, rest] := by
  rw [Module.eq_lexical_of_scopeAt h]
  cases hchain : m.node.definitionsAround line with
  | nil =>
      refine Or.inl ⟨rfl, ?_⟩
      simp [Scope.lexical, countedNames]
  | cons d ds =>
      refine Or.inr ⟨_, ?_, Scope.name_lexical_cons moduleName d ds⟩
      have hd : d ∈ m.node.definitionsAround line := by
        rw [hchain]
        exact List.mem_cons_self
      obtain ⟨p, -, hat, -⟩ := Node.exists_place_of_mem_definitionsAround hd
      intro hempty
      exact hnamed p d hat (Name.join_eq_empty.1 hempty _ List.mem_cons_self)

/-- The scope that a class is registered under is not that of the file. -/
theorem Module.ClassesInside.scope_ne {m : Module} (hinside : m.ClassesInside)
    (hnamed : m.WellNamed) {moduleName : String} {s : Stmt} {scope : Scope}
    (hs : (Node.stmt s).Within m.node) (hclass : s.isClass = true)
    (h : m.scopeAt moduleName s.span.line = some scope) :
    scope.name ≠ moduleName := by
  rcases hnamed.scopeAt_cases h with ⟨hnone, -⟩ | ⟨rest, hrest, hscope⟩
  · obtain ⟨p, hp⟩ := hs
    have hdef : m.node.definitionAt? p = some s :=
      Node.definitionAt?_eq_some.2 ⟨hp, by simp [Stmt.isDefinition, hclass]⟩
    have hplace : p ≠ [] := by
      rintro rfl
      cases hp
    refine absurd hnone (Node.definitionsAround_ne_nil hplace hdef ?_)
    rintro q r k rfl hk
    exact hinside q r k s hk hp hclass
  · rw [hscope]
    exact Name.join_pair_ne hrest

namespace Module

/-- The first line of a statement is a line of the file. -/
theorem WellPlaced.holds_line {m : Module} (h : m.WellPlaced) {p : Place}
    {s : Stmt} (hs : m.node.at? p = some (.stmt s)) :
    m.holds s.span.line = true := by
  cases p with
  | nil => cases hs
  | cons i p =>
      obtain ⟨c, hc, hp⟩ := Node.at?_cons_eq_some hs
      obtain ⟨t, ht, rfl⟩ : ∃ t ∈ m.body, Node.stmt t = c :=
        List.mem_map.1 (List.mem_of_getElem? hc)
      have hin :=
        h.inside [i] p (.stmt t) t.span s (by rw [Node.at?_cons [] hc]; rfl)
          rfl hs
      have hord := h.ordered (i :: p) s hs
      unfold Module.holds
      rw [Bool.and_eq_true, List.any_eq_true]
      refine ⟨by simpa using hord.1, t, ht, ?_⟩
      simp only [decide_eq_true_eq]
      omega

/-- In a well-placed tree, a search by line finds exactly the definitions
whose spans hold the line: their places are nested one in the other, and
it lists them from the outside in. So the scope of the first line of a
statement is the one that its own place in the tree gives it. -/
theorem scopes_by_line_are_lexical {m : Module} (h : m.WellPlaced)
    (moduleName : String) :
    (∀ line, ∃ places : List Place,
      (places.Pairwise fun outer inner => outer <+: inner ∧ outer ≠ inner) ∧
      (∀ p, p ∈ places ↔
        ∃ d, m.node.definitionAt? p = some d ∧ d.span.holds line = true) ∧
      places.map m.node.definitionAt?
        = (m.node.definitionsAround line).map some) ∧
    ∀ p s, m.node.at? p = some (.stmt s) →
      m.scopeAt moduleName s.span.line
        = some (Scope.lexical moduleName (m.node.enclosing p)) := by
  refine ⟨h.exists_places, ?_⟩
  intro p s hs
  have hline : s.span.holds s.span.line = true := by
    have hord := h.ordered p s hs
    rw [Span.holds_iff]
    omega
  have hchain : m.node.definitionsAround s.span.line = m.node.enclosing p :=
    h.definitionsAround_eq hs hline fun q d hd hdline =>
      h.apart q p d s hd hs hdline
  have hdefs : ∀ d ∈ m.node.enclosing p, d.isDefinition = true := by
    intro d hd
    obtain ⟨k, -, hk⟩ := List.mem_filterMap.1 hd
    exact (Node.definition?_eq_some.1 hk).2
  unfold Module.scopeAt
  rw [if_pos (h.holds_line hs), hchain, Scope.ofChain_eq_lexical hdefs]

/-- Three functions and two classes inside each other, and a `match` that
hides its statements behind a part without a span. -/
def layered : Module where
  body := [
    .classDef ⟨1, 7, 0⟩ "Outer" [] [] [
      .functionDef ⟨2, 7, 4⟩ false "method" ⟨[], [], none, [], [], none, []⟩ [
        .matchBlock ⟨3, 7, 8⟩ (.name ⟨3, 3, 14⟩ "x") [
          ⟨.capture ⟨4, 4, 17⟩ none none, none, [
            .functionDef ⟨5, 7, 16⟩ false "helper"
              ⟨[], [], none, [], [], none, []⟩ [
              .classDef ⟨6, 7, 20⟩ "Inner" [] [] [.pass ⟨7, 7, 24⟩] []]
              [] none]⟩]]
        [] none] []]

theorem layered_scopes :
    layered.WellPlaced ∧
    layered.node.at? [0, 0, 1, 1, 1, 1] =
      some (.stmt
        (.classDef ⟨6, 7, 20⟩ "Inner" [] [] [.pass ⟨7, 7, 24⟩] [])) ∧
    layered.scopeAt "pkg.mod" 6 =
      some ⟨.module, "pkg.mod.Outer.method.Inner"⟩ := by
  have hplaced : layered.WellPlaced := by decide +kernel
  refine ⟨hplaced, rfl, ?_⟩
  exact ((scopes_by_line_are_lexical hplaced "pkg.mod").2
    [0, 0, 1, 1, 1, 1] _ rfl).trans (by decide +kernel)

end Module

end Purity
