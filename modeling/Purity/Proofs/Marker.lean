/-
What a purity marker marks. The collector looks up the record to mark by
name, at the moment it meets the marker, while other definitions of equal
names may be registered before and after. The mark still goes to the
definition whose body holds the marker: between a definition and the
markers in its body a walk only meets what is inside the definition, and
nothing in there has its name.

So the record of a name has the marks of the last definition with that
name and no others. The argument has two halves. What a walk leaves under
a name is what was registered last and then marked under that name
(`get?_survey_of_last`), and the markers that do so are those at home in
the definition that was registered (`wishes_after_last`).
-/
import Purity.Proofs.Naming

namespace Purity

-- ================================================= marks one after another

/-- A number of marks: the record is marked if there is one, and the last
one says whether its check is skipped. -/
theorem Definition.foldl_mark (d : Definition) (wishes : List Bool) :
    wishes.foldl Definition.mark d
      = { d with
          marked := d.marked || !wishes.isEmpty
          forced := wishes.getLast?.getD d.forced } := by
  induction wishes generalizing d with
  | nil => simp
  | cons wish wishes ih =>
      rw [List.foldl_cons, ih, List.getLast?_cons]
      simp [Definition.mark]

/-- Does a node define a protocol? -/
def Node.isProtocol : Node → Bool
  | .stmt (.classDef _ _ bases ..) => hasProtocolBase bases
  | _ => false

namespace Context

variable {c : Context} {name : String}

/-- The wish of a visit that marks a name. -/
def wishFor? (c : Context) (name : String) (v : Visit) : Option Bool :=
  (c.marks? v).bind fun mark => if mark.1 = name then some mark.2 else none

/-- The arguments of the markers at home in a place, in the order of the
walk. -/
def markersOf (c : Context) (q : Place) : List (List (Keyword Expr)) :=
  c.tree.node.placed.filterMap fun x =>
    if c.tree.node.homeOf x.1 = some q then x.2.marker? c.marker else none

/-- A visit that registers a record marks none. -/
theorem marks?_of_declared? {v : Visit} {d : Definition}
    (hd : c.declared? v = some d) :
    c.marks? v = none := by
  unfold marks?
  rcases declared?_cases hd with
    ⟨⟨body, hnode⟩, -⟩ | ⟨span, className, bases, keywords, body, decorators,
      scope, hnode, -, -⟩
  · rw [hnode]
  · rw [hnode]

/-- A fresh record is marked only if it is a protocol, and never forced. -/
theorem flags_of_declared? {v : Visit} {d : Definition}
    (hd : c.declared? v = some d) :
    d.marked = v.node.isProtocol ∧ d.forced = false := by
  rcases declared?_cases hd with
    ⟨⟨body, hnode⟩, rfl⟩ | ⟨span, className, bases, keywords, body, decorators,
      scope, hnode, -, rfl⟩
  · rw [hnode]
    exact ⟨rfl, rfl⟩
  · rw [hnode]
    show _ = hasProtocolBase bases ∧ _
    cases hasProtocolBase bases <;> exact ⟨rfl, rfl⟩

/-- One visit that does not register a name at most marks its record. -/
theorem get?_enter_of_not_declares {r : Registry} (hkeyed : r.Keyed)
    {v : Visit} (hv : c.declares name v = false) :
    (c.enter r v).get? name
      = (r.get? name).map fun d =>
        (c.wishFor? name v).toList.foldl Definition.mark d := by
  rw [get?_enter hkeyed]
  unfold wishFor?
  cases hdecl : c.declared? v with
  | some e =>
      have hne : ¬ name = e.name := by
        rintro rfl
        simp [declares, hdecl] at hv
      rw [marks?_of_declared? hdecl]
      simp [hne]
  | none =>
      cases hmarks : c.marks? v with
      | none => simp
      | some mark =>
          by_cases hname : name = mark.1
          · simp [hname]
          · have hne : ¬ mark.1 = name := fun e => hname e.symm
            simp [hname, hne]

/-- Visits that do not register a name put their marks on its record, one
after the other. -/
theorem get?_foldl_enter_of_not_declares {r : Registry} (hkeyed : r.Keyed)
    (vs : List Visit) (hvs : ∀ v ∈ vs, c.declares name v = false) :
    (vs.foldl c.enter r).get? name
      = (r.get? name).map fun d =>
        (vs.filterMap (c.wishFor? name)).foldl Definition.mark d := by
  induction vs generalizing r with
  | nil => simp
  | cons v vs ih =>
      rw [List.foldl_cons,
        ih (keyed_enter hkeyed v) fun w hw => hvs w (by simp [hw]),
        get?_enter_of_not_declares hkeyed (hvs v (by simp)), Option.map_map,
        List.filterMap_cons]
      cases c.wishFor? name v <;> rfl

/-- A walk leaves under a name what was registered last, with the marks
that came after it. -/
theorem get?_survey_of_last {before after : List Visit} {v : Visit}
    {e : Definition} (hvisits : c.visits = before ++ v :: after)
    (he : c.declared? v = some e)
    (hname : e.name = name) (hlast : ∀ w ∈ after, c.declares name w = false) :
    c.survey.registry.get? name
      = some ((after.filterMap (c.wishFor? name)).foldl Definition.mark
        e) := by
  have hkeyed : Registry.Keyed (before.foldl c.enter {}) :=
    keyed_foldl_enter keyed_empty before
  rw [registry_survey, hvisits, List.foldl_append, List.foldl_cons,
    get?_foldl_enter_of_not_declares (keyed_enter hkeyed v) after hlast,
    get?_enter hkeyed, he]
  simp [hname]

-- ============================================== markers and where they stand

/-- A file or class that has the name of a later one does not reach beyond
it: what comes behind the later one is not inside the earlier one. -/
theorem not_prefix_of_same_name (hnamed : c.tree.WellNamed) {p q r : Place}
    {k : Node} (hk : c.tree.node.at? q = some k) (hrecord : k.hasRecord = true)
    (hsame : c.qualified p = c.qualified q) (hpq : Place.Before p q)
    (hqr : Place.Before q r) :
    ¬ p <+: r := by
  intro hpre
  have hinside : p <+: q := Place.prefix_of_between hpq hqr hpre
  have hne : p ≠ q := by
    rintro rfl
    exact Place.Before.irrefl p hpq
  cases k with
  | module body =>
      obtain rfl := Node.eq_nil_of_at?_module hk
      exact hne (List.prefix_nil.1 hinside)
  | stmt s =>
      exact hnamed.qualified_ne c.moduleName hk hrecord hinside hne hsame
  | _ => cases hrecord

section Last

variable {before after : List (Place × Node)} {q : Place} {k : Node}
  (hplaces : c.tree.node.placed = before ++ (q, k) :: after)

include hplaces

theorem before_last {x : Place × Node} (hx : x ∈ before) :
    Place.Before x.1 q := by
  have horder := c.tree.node.pairwise_placed
  rw [hplaces, List.pairwise_append] at horder
  exact horder.2.2 x hx (q, k) List.mem_cons_self

theorem last_before {x : Place × Node} (hx : x ∈ after) :
    Place.Before q x.1 := by
  have horder := c.tree.node.pairwise_placed
  rw [hplaces, List.pairwise_append, List.pairwise_cons] at horder
  exact horder.2.1.1 x hx

/-- What is at home in a place comes behind it. -/
theorem markersOf_eq_filterMap_after :
    c.markersOf q = after.filterMap fun x =>
      if c.tree.node.homeOf x.1 = some q then x.2.marker? c.marker
      else none := by
  have hnone : ∀ x ∈ before ++ [(q, k)], c.tree.node.homeOf x.1 ≠ some q := by
    intro x hx hhome
    obtain ⟨hpre, hne, -⟩ := Node.exists_of_homeOf hhome
    have hlater : Place.Before q x.1 := Place.before_of_prefix hpre hne
    rcases List.mem_append.1 hx with hx | hx
    · exact Place.Before.irrefl q (hlater.trans (before_last hplaces hx))
    · obtain rfl := List.mem_singleton.1 hx
      exact hne rfl
  have hearlier : (before ++ [(q, k)]).filterMap (fun x =>
      if c.tree.node.homeOf x.1 = some q then x.2.marker? c.marker
      else none) = [] := by
    rw [List.filterMap_eq_nil_iff]
    intro x hx
    exact if_neg (hnone x hx)
  unfold markersOf
  rw [hplaces, ← List.singleton_append, ← List.append_assoc,
    List.filterMap_append, hearlier, List.nil_append]

/-- The markers behind the last place of a name that mark the name are the
ones at home in that place. -/
theorem wishes_after_last (hplaced : c.tree.WellPlaced)
    (hnamed : c.tree.WellNamed) (hrecord : k.hasRecord = true)
    (hname : c.qualified q = name)
    (hlast : ∀ x ∈ after,
      (x.2.hasRecord && decide (c.qualified x.1 = name)) = false) :
    (after.map c.tree.node.visitAt).filterMap (c.wishFor? name)
      = (c.markersOf q).map wish := by
  have hat : ∀ {x}, x ∈ before ++ (q, k) :: after →
      c.tree.node.at? x.1 = some x.2 := by
    intro x hx
    rw [← hplaces] at hx
    exact Node.mem_placed.1 hx
  rw [markersOf_eq_filterMap_after hplaces, List.map_filterMap,
    List.filterMap_map]
  refine List.filterMap_congr ?_
  rintro ⟨p, n⟩ hx
  have hp : c.tree.node.at? p = some n := hat (x := (p, n)) (by simp [hx])
  show c.wishFor? name (c.tree.node.visitAt (p, n)) = Option.map wish _
  unfold wishFor?
  rw [marks?_visitAt hplaced hp]
  cases hmarker : n.marker? c.marker with
  | none => simp
  | some keywords =>
      unfold homeName?
      cases hhome : c.tree.node.homeOf p with
      | none => simp
      | some h =>
          by_cases hsame : h = q
          · subst hsame
            have hk : c.tree.node.at? h = some k := hat (x := (h, k)) (by simp)
            simp [hk, hrecord, hname]
          · -- a home with the name would stand before the last place and
            -- reach beyond it
            obtain ⟨hpre, -, m, hm, -⟩ := Node.exists_of_homeOf hhome
            have hother : ¬ (m.hasRecord = true ∧ c.qualified h = name) := by
              rintro ⟨hrec, hqual⟩
              have hlisted : (h, m) ∈ before ++ (q, k) :: after := by
                rw [← hplaces]
                exact Node.mem_placed.2 hm
              rcases List.mem_append.1 hlisted with hbefore | hrest
              · exact not_prefix_of_same_name hnamed
                  (hat (x := (q, k)) (by simp)) hrecord
                  (hqual.trans hname.symm) (before_last hplaces hbefore)
                  (last_before hplaces hx) hpre
              · rcases List.mem_cons.1 hrest with heq | hafter
                · cases heq
                  exact hsame rfl
                · have hno := hlast (h, m) hafter
                  simp [hrec, hqual] at hno
            cases hrec : m.hasRecord with
            | false => simp [hm, hrec, hsame]
            | true =>
                have hqual : ¬ c.qualified h = name :=
                  fun e => hother ⟨hrec, e⟩
                simp [hm, hrec, hsame, hqual]

end Last

/-- A walk leaves under a name what the last place with this name registers,
with the marks that are at home there. -/
theorem exists_survey_of_lastNamed? (hplaced : c.tree.WellPlaced)
    (hnamed : c.tree.WellNamed) {q : Place} {k : Node}
    (hfound : c.tree.lastNamed? c.moduleName name = some (q, k)) :
    ∃ e, c.declared? (c.tree.node.visitAt (q, k)) = some e ∧
      c.survey.registry.get? name
        = some (((c.markersOf q).map wish).foldl Definition.mark e) := by
  obtain ⟨before, after, hplaces, ⟨hrecord, hname⟩, hlast⟩ :=
    Module.exists_split_of_lastNamed? hfound
  have hat : ∀ {p n}, (p, n) ∈ (q, k) :: after →
      c.tree.node.at? p = some n := by
    intro p n hx
    refine Node.mem_placed.1 ?_
    rw [hplaces]
    exact List.mem_append_right before hx
  have hvisits : c.visits = before.map c.tree.node.visitAt
      ++ c.tree.node.visitAt (q, k) :: after.map c.tree.node.visitAt := by
    rw [visits_eq_map_placed, hplaces, List.map_append, List.map_cons]
  have hdeclares : ∀ w ∈ after.map c.tree.node.visitAt, c.declares name w =
      false := by
    intro w hw
    obtain ⟨⟨p, n⟩, hx, rfl⟩ := List.mem_map.1 hw
    rw [declares_visitAt hplaced (hat (List.mem_cons_of_mem _ hx))]
    exact hlast (p, n) hx
  have hdeclared := map_name_declared? hplaced (hat List.mem_cons_self)
  rw [if_pos hrecord] at hdeclared
  obtain ⟨e, he, hename⟩ := Option.map_eq_some_iff.1 hdeclared
  refine ⟨e, he, ?_⟩
  rw [get?_survey_of_last hvisits he (hename.trans hname) hdeclares,
    wishes_after_last hplaces hplaced hnamed hrecord hname hlast]

/-- A purity marker marks the definition that it stands in, and no other.
Of a name that is registered more than once, the record belongs to the
last file or class with this name. It is marked exactly when that is an
protocol or a marker is at home there, and the last such marker says
whether its check is skipped. -/
theorem markers_mark_their_home (hplaced : c.tree.WellPlaced)
    (hnamed : c.tree.WellNamed) {d : Definition}
    (hd : c.collect.1.registry.get? name = some d) :
    ∃ q k, c.tree.lastNamed? c.moduleName name = some (q, k) ∧
      (d.marked = true ↔ k.isProtocol = true ∨ c.markersOf q ≠ []) ∧
      d.forced = (c.markersOf q).getLast?.any wish := by
  obtain ⟨q, k, hfound⟩ := exists_lastNamed?_of_get? hplaced hd
  obtain ⟨e, he, hsurvey⟩ := exists_survey_of_lastNamed? hplaced hnamed hfound
  obtain ⟨d', charged, hd', rfl, -⟩ := exists_get?_survey hd
  obtain rfl : _ = d' := Option.some.inj (hsurvey.symm.trans hd')
  obtain ⟨hmarked, hforced⟩ := flags_of_declared? he
  refine ⟨q, k, hfound, ?_⟩
  rw [Definition.foldl_mark]
  constructor
  · show (e.marked || _) = true ↔ _
    rw [hmarked]
    simp [Node.visitAt]
  · show Option.getD _ e.forced = _
    rw [hforced, List.getLast?_map]
    cases (c.markersOf q).getLast? <;> rfl

/-- A statement on the given line that calls the marker. -/
def markerLine (line : Int) (keywords : List (Keyword Expr)) : Stmt :=
  .expression ⟨line, line, 8⟩
    (.call ⟨line, line, 8⟩ (.name ⟨line, line, 8⟩ "pure_module") []
    keywords)

/-- The argument that asks to skip the check. -/
def skipWish (line : Int) : Keyword Expr :=
  ⟨⟨line, line, 20⟩, some "force", .constant ⟨line, line, 26⟩ (.bool true)⟩

/-- A class that is defined twice. Its second text has a plain marker in a
branch, and the markers that ask to skip the check are in the first text
and in a method of the second. -/
def remarked : Context :=
  Context.ofTree "pure_module" {} ⟨[
    .classDef ⟨1, 2, 0⟩ "Store" [] [] [markerLine 2 [skipWish 2]] [],
    .classDef ⟨3, 7, 0⟩ "Store" [] [] [
      .conditional ⟨4, 5, 4⟩ (.name ⟨4, 4, 7⟩ "ready") [markerLine 5 []] [],
      .functionDef ⟨6, 7, 4⟩ false "load" ⟨[], [], none, [], [], none, []⟩
        [markerLine 7 [skipWish 7]] [] none] []]⟩
    "app.core" "app" "app/core.py" {}

theorem remarked_by_plain_marker :
    remarked.tree.WellPlaced ∧ remarked.tree.WellNamed ∧
    ∃ d, remarked.collect.1.registry.get? "app.core.Store" = some d ∧
      d.marked = true ∧ d.forced = false := by
  have hplaced : remarked.tree.WellPlaced := by decide +kernel
  have hnamed : remarked.tree.WellNamed := by decide +kernel
  obtain ⟨d, hd⟩ : ∃ d, remarked.collect.1.registry.get? "app.core.Store" =
      some d :=
    Option.isSome_iff_exists.1 (by decide +kernel)
  obtain ⟨q, k, hfound, hmarked, hforced⟩ :=
    markers_mark_their_home hplaced hnamed hd
  -- the record is that of the second class
  have hlast :
      (remarked.tree.lastNamed? remarked.moduleName "app.core.Store").map
        Prod.fst
      = some [1] := by
    decide +kernel
  rw [hfound] at hlast
  obtain rfl : q = [1] := Option.some.inj hlast
  have hmarkers : (remarked.markersOf [1]).isEmpty = false := by decide +kernel
  have hwish : (remarked.markersOf [1]).getLast?.any wish =
      false := by decide +kernel
  refine ⟨hplaced, hnamed, d, hd, hmarked.2 (Or.inr ?_), hforced.trans hwish⟩
  exact List.isEmpty_eq_false_iff.1 hmarkers

end Context

end Purity
