/-
Which classes inherit purity, told by the text alone. An unmarked class is
accepted when the walk outwards from its name ends at a marked definition
that is no protocol. The walk goes over names; here it is followed in the
tree.

What is left of the name of a class without its last segment is the name of
its home (`parent_qualified`). If that is a file or a class, and its name is
not given twice, the walk goes on with the record of just this file or class
(`exists_record`), and if the home is a function, it ends there, since
functions have no records (`get?_qualified_function`). So what decides is the
nearest marked file or class around the class, and that no function stands
in between (`climb_iff`).
-/
import Purity.Proofs.Climb
import Purity.Proofs.Enclosure
import Purity.Proofs.Importable
import Purity.Proofs.Inheritance

namespace Purity

namespace Node

variable {k : Node}

theorem opensScope_of_hasRecord (hk : k.hasRecord = true) :
    Collector.opensScope k = true := by
  cases k with
  | module body => rfl
  | stmt s =>
      cases s with
      | classDef span name bases keywords body decorators => rfl
      | _ => cases hk
  | _ => cases hk

theorem opensScope_of_isFunction (hk : k.isFunction = true) :
    Collector.opensScope k = true := by
  cases k with
  | stmt s =>
      cases s with
      | functionDef span isAsync name params body decorators returns => rfl
      | _ => cases hk
  | _ => cases hk

/-- What opens a scope has a record, or is a function. -/
theorem isFunction_eq_not_hasRecord (hk : Collector.opensScope k = true) :
    k.isFunction = !k.hasRecord := by
  cases k with
  | module body => rfl
  | stmt s =>
      cases s with
      | classDef span name bases keywords body decorators => rfl
      | functionDef span isAsync name params body decorators returns => rfl
      | _ => cases hk
  | _ => cases hk

end Node

namespace Context

variable {c : Context} {p q h : Place} {k n : Node} {d : Definition}

-- ====================================================== marked places

/-- No file or class shares its qualified name with another file, class or
function. -/
def RecordsApart (c : Context) : Prop :=
  ∀ p q k n, c.tree.node.at? p = some k → c.tree.node.at? q = some n →
    k.hasRecord = true →
    Collector.opensScope n = true → c.qualified p = c.qualified q → p = q

theorem recordsApart_iff :
    c.RecordsApart ↔
    ∀ x ∈ c.tree.node.placed, ∀ y ∈ c.tree.node.placed, x.2.hasRecord = true →
      Collector.opensScope y.2 = true → c.qualified x.1 = c.qualified y.1 →
      x.1 = y.1 := by
  constructor
  · intro hapart x hx y hy
    exact hapart x.1 y.1 x.2 y.2 (Node.mem_placed.1 hx) (Node.mem_placed.1 hy)
  · intro hall p q k n hp hq
    exact hall (p, k) (Node.mem_placed.2 hp) (q, n) (Node.mem_placed.2 hq)

instance (c : Context) : Decidable c.RecordsApart :=
  decidable_of_iff _ recordsApart_iff.symm

/-- Is there a marked file or class at a place: a protocol, or one that a
marker is at home in? -/
def MarkedAt (c : Context) (p : Place) : Prop :=
  ∃ k, c.tree.node.at? p = some k ∧ k.hasRecord = true ∧
    (k.isProtocol = true ∨ c.markersOf p ≠ [])

/-- The nearest marked file or class at a place or around it. -/
def NearestMarked (c : Context) (q p : Place) : Prop :=
  p <+: q ∧ c.MarkedAt p ∧ ∀ r, r <+: q → c.MarkedAt r → r <+: p

/-- No function stands between a place and one below it, or at either. -/
def NoFunctionBetween (c : Context) (p q : Place) : Prop :=
  ∀ r k, p <+: r → r <+: q → c.tree.node.at? r = some k → k.isFunction = false

theorem markedAt_iff :
    c.MarkedAt p ↔ (c.tree.node.at? p).any (fun k =>
      k.hasRecord && (k.isProtocol || !(c.markersOf p).isEmpty)) = true := by
  rw [Option.any_eq_true]
  simp [MarkedAt]

instance (c : Context) (p : Place) : Decidable (c.MarkedAt p) :=
  decidable_of_iff _ markedAt_iff.symm

theorem nearestMarked_iff :
    c.NearestMarked q p ↔
      p <+: q ∧ c.MarkedAt p ∧ ∀ r ∈ q.inits, c.MarkedAt r → r <+: p := by
  simp only [NearestMarked, List.mem_inits]

instance (c : Context) (q p : Place) : Decidable (c.NearestMarked q p) :=
  decidable_of_iff _ nearestMarked_iff.symm

theorem noFunctionBetween_iff :
    c.NoFunctionBetween p q ↔ ∀ r ∈ q.inits, p <+: r → ∀ k ∈ c.tree.node.at? r,
      k.isFunction = false := by
  simp only [NoFunctionBetween, List.mem_inits, Option.mem_def]
  exact ⟨fun hnone r hrq hpr k hk => hnone r k hpr hrq hk,
    fun hnone r k hpr hrq hk => hnone r hrq hpr k hk⟩

instance (c : Context) (p q : Place) : Decidable (c.NoFunctionBetween p q) :=
  decidable_of_iff _ noFunctionBetween_iff.symm

-- ===================================================== records by place

/-- A record is that of a protocol if it is declared by one. -/
theorem protocol_of_declared? {v : Visit} (hd : c.declared? v = some d) :
    d.protocol = v.node.isProtocol := by
  rcases declared?_cases hd with
    ⟨⟨body, hnode⟩, rfl⟩ | ⟨span, name, bases, keywords, body, decorators,
      scope, hnode, -, rfl⟩
  · rw [hnode]
    rfl
  · rw [hnode]
    show _ = hasProtocolBase bases
    cases hasProtocolBase bases <;> rfl

/-- A place with a record is the last one with its name, if names are not
given twice. -/
theorem lastNamed?_of_apart (hapart : c.RecordsApart)
    (hp : c.tree.node.at? p = some k) (hrecord : k.hasRecord = true) :
    c.tree.lastNamed? c.moduleName (c.qualified p) = some (p, k) := by
  have hsome : (c.tree.lastNamed? c.moduleName (c.qualified p)).isSome =
      true := by
    unfold Module.lastNamed?
    rw [List.find?_isSome]
    refine ⟨(p, k), List.mem_reverse.2 (Node.mem_placed.2 hp), ?_⟩
    rw [hrecord]
    exact decide_eq_true rfl
  obtain ⟨⟨q, n⟩, hfound⟩ := Option.isSome_iff_exists.1 hsome
  obtain ⟨-, -, -, ⟨hother, -⟩, -⟩ := Module.exists_split_of_lastNamed? hfound
  obtain ⟨hq, hname⟩ := Module.at?_of_lastNamed? hfound
  obtain rfl : p = q :=
    hapart p q k n hp hq hrecord (Node.opensScope_of_hasRecord hother)
      hname.symm
  rw [hfound, Option.some.inj (hp.symm.trans hq)]

/-- The record of a file or class, by its place. -/
theorem exists_record (hplaced : c.tree.WellPlaced) (hnamed : c.tree.WellNamed)
    (hapart : c.RecordsApart) (hp : c.tree.node.at? p = some k)
    (hrecord : k.hasRecord = true) :
    ∃ d, c.collect.1.registry.get? (c.qualified p) = some d ∧
    d.name = c.qualified p ∧
      d.filename = c.filename ∧ d.protocol = k.isProtocol ∧
      (d.marked = true ↔ c.MarkedAt p) := by
  have hlast := lastNamed?_of_apart hapart hp hrecord
  obtain ⟨e, he, hsurvey⟩ := exists_survey_of_lastNamed? hplaced hnamed hlast
  obtain ⟨charged, -, -, hcharged⟩ :=
    c.exists_withCalls_collect (c.qualified p)
  rw [hsurvey, Option.map_some, Definition.foldl_mark] at hcharged
  refine ⟨_, hcharged, keyed_collect c _ _ hcharged,
    (allSound_collect c _ _ hcharged).filename_eq,
    protocol_of_declared? he, ?_⟩
  have hmarked : e.marked = k.isProtocol := (flags_of_declared? he).1
  show (e.marked || !((c.markersOf p).map wish).isEmpty) = true ↔ _
  rw [hmarked]
  constructor
  · intro hflag
    refine ⟨k, hp, hrecord, ?_⟩
    simpa using hflag
  · rintro ⟨k', hk', -, hreason⟩
    obtain rfl : k = k' := Option.some.inj (hp.symm.trans hk')
    simpa using hreason

/-- Functions have no records, and no other definition takes their names. -/
theorem get?_qualified_function (hplaced : c.tree.WellPlaced)
    (hapart : c.RecordsApart) (hp : c.tree.node.at? p = some k)
    (hfunction : k.isFunction = true) :
    c.collect.1.registry.get? (c.qualified p) = none := by
  cases hget : c.collect.1.registry.get? (c.qualified p) with
  | none => rfl
  | some d =>
      have hkey : c.qualified p ∈ c.collect.1.registry.keys := by
        rw [Map.mem_keys_iff, hget]
        rfl
      obtain ⟨q, n, hq, hrecord, hname⟩ := (mem_keys_collect hplaced).1 hkey
      have hopens := Node.opensScope_of_isFunction hfunction
      obtain rfl : q = p := hapart q p n k hq hp hrecord hopens hname
      obtain rfl : n = k := Option.some.inj (hq.symm.trans hp)
      rw [Node.isFunction_eq_not_hasRecord hopens, hrecord] at hfunction
      cases hfunction

/-- Nothing in a file is registered under what is left of its name. -/
theorem get?_parent_moduleName (hplaced : c.tree.WellPlaced)
    (hmodule : c.moduleName ≠ "") :
    c.collect.1.registry.get? (Name.parent c.moduleName) = none := by
  cases hget : c.collect.1.registry.get? (Name.parent c.moduleName) with
  | none => rfl
  | some d =>
      have hkey : Name.parent c.moduleName ∈ c.collect.1.registry.keys := by
        rw [Map.mem_keys_iff, hget]
        rfl
      obtain ⟨q, n, -, -, hname⟩ := (mem_keys_collect hplaced).1 hkey
      have hlonger : c.moduleName.length ≤ (c.qualified q).length :=
        Name.length_le_join _ _
      have hshorter := Name.length_parent_lt hmodule
      rw [hname] at hlonger
      omega

-- ============================================================ the climb

/-- The name of a class is that of its home, and its own. -/
theorem qualified_class {s : Stmt} (hq : c.tree.node.at? q = some (.stmt s))
    (hclass : s.isClass = true) (hhome : c.tree.node.homeOf q = some h) :
    c.qualified q = Name.join [c.qualified h, s.definedName] := by
  have hdef : (Node.stmt s).definition? = some s := by
    simp [Node.definition?, Stmt.isDefinition, hclass]
  have hcounted : countedNames (c.tree.node.enclosing h).getLast? [s] =
      [s.definedName] := by
    cases s with
    | classDef span name bases keywords body decorators => rfl
    | _ => cases hclass
  show Name.join (c.moduleName ::
      countedNames none (c.tree.node.enclosing q)) = _
  rw [Node.enclosing_eq_of_homeOf hq, hhome, hdef, Option.toList_some,
    countedNames_append, Option.or_none, hcounted, ← List.cons_append,
    Name.join_concat]
  rfl

/-- What is left of the name of a class is the name of its home. -/
theorem parent_qualified (hnames : c.tree.PlainlyNamed) {s : Stmt}
    (hq : c.tree.node.at? q = some (.stmt s)) (hclass : s.isClass = true)
    (hhome : c.tree.node.homeOf q = some h) :
    Name.parent (c.qualified q) = c.qualified h := by
  have hdef : c.tree.node.definitionAt? q = some s :=
    Node.definitionAt?_eq_some.2 ⟨hq, by simp [Stmt.isDefinition, hclass]⟩
  rw [qualified_class hq hclass hhome, Name.parent_join_pair (hnames q s hdef)]

/-- The nearest marked place of an unmarked one is that of its home. -/
theorem nearestMarked_home (hq : c.tree.node.at? q = some k)
    (hhome : c.tree.node.homeOf q = some h) (hunmarked : ¬ c.MarkedAt q) :
    c.NearestMarked q p ↔ c.NearestMarked h p := by
  obtain ⟨hin, -⟩ := Node.exists_of_homeOf hhome
  -- whatever is marked on the way is the home or around it
  have hreach : ∀ r, r <+: q → c.MarkedAt r → r <+: h := by
    intro r hr hmarked
    have hne : r ≠ q := by
      rintro rfl
      exact hunmarked hmarked
    obtain ⟨m, hm, hrecord, -⟩ := hmarked
    obtain ⟨h', hhome', hr'⟩ :=
      Node.exists_homeOf_of_prefix hq hr hne hm
        (Node.opensScope_of_hasRecord hrecord)
    obtain rfl : h = h' := Option.some.inj (hhome.symm.trans hhome')
    exact hr'
  constructor
  · rintro ⟨hpre, hmarked, hnearest⟩
    exact ⟨hreach p hpre hmarked, hmarked,
      fun r hr => hnearest r (hr.trans hin)⟩
  · rintro ⟨hpre, hmarked, hnearest⟩
    exact ⟨hpre.trans hin, hmarked,
      fun r hr hr' => hnearest r (hreach r hr hr') hr'⟩

/-- Between a place and a class there is a function if there is one up to
the home of the class. -/
theorem noFunctionBetween_home (hq : c.tree.node.at? q = some k)
    (hclass : k.isFunction = false) (hhome : c.tree.node.homeOf q = some h) :
    c.NoFunctionBetween p q ↔ c.NoFunctionBetween p h := by
  obtain ⟨hin, -⟩ := Node.exists_of_homeOf hhome
  constructor
  · intro hnone r n hpr hrh hr
    exact hnone r n hpr (hrh.trans hin) hr
  · intro hnone r n hpr hrq hr
    by_cases hne : r = q
    · subst hne
      obtain rfl : k = n := Option.some.inj (hq.symm.trans hr)
      exact hclass
    · cases hfunction : n.isFunction with
      | false => rfl
      | true =>
          obtain ⟨h', hhome', hrh⟩ :=
            Node.exists_homeOf_of_prefix hq hrq hne hr
              (Node.opensScope_of_isFunction hfunction)
          obtain rfl : h = h' := Option.some.inj (hhome.symm.trans hhome')
          rw [hnone r n hpr hrh hr] at hfunction
          cases hfunction

/-- Purity comes down to a place from the nearest marked one, which is no
protocol and has no function between itself and the place. -/
def Inherits (c : Context) (q : Place) : Prop :=
  ∃ p n, c.NearestMarked q p ∧ c.tree.node.at? p = some n ∧
    n.isProtocol = false ∧
    c.NoFunctionBetween p q

theorem inherits_home (hq : c.tree.node.at? q = some k)
    (hclass : k.isFunction = false) (hhome : c.tree.node.homeOf q = some h)
    (hunmarked : ¬ c.MarkedAt q) :
    c.Inherits q ↔ c.Inherits h := by
  unfold Inherits
  simp only [nearestMarked_home hq hhome hunmarked,
    noFunctionBetween_home hq hclass hhome]

/-- At a marked place the nearest marked one is the place itself. -/
theorem inherits_of_markedAt (hq : c.tree.node.at? q = some k)
    (hmarked : c.MarkedAt q) :
    c.Inherits q ↔ k.isProtocol = false := by
  constructor
  · rintro ⟨p, n, ⟨hpre, -, hnearest⟩, hn, hprotocol, -⟩
    obtain rfl : p = q :=
      hpre.eq_of_length_le (hnearest q (List.prefix_refl q) hmarked).length_le
    obtain rfl : n = k := Option.some.inj (hn.symm.trans hq)
    exact hprotocol
  · intro hprotocol
    refine ⟨q, k, ⟨List.prefix_refl q, hmarked, fun r hr _ => hr⟩, hq,
      hprotocol, ?_⟩
    intro r n hqr hrq hr
    obtain rfl : r = q := hrq.eq_of_length_le hqr.length_le
    obtain ⟨k', hk', hrecord, -⟩ := hmarked
    obtain rfl : n = k' := Option.some.inj (hr.symm.trans hk')
    rw [Node.isFunction_eq_not_hasRecord
      (Node.opensScope_of_hasRecord hrecord), hrecord]
    rfl

/-- Inside a function nothing inherits, unless it is from the inside. -/
theorem not_inherits_of_isFunction (hq : c.tree.node.at? q = some k)
    (hfunction : k.isFunction = true) : ¬ c.Inherits q := by
  rintro ⟨p, n, ⟨hpre, -, -⟩, -, -, hnone⟩
  rw [hnone q k hpre (List.prefix_refl q) hq] at hfunction
  cases hfunction

/-- The walk outwards from a file or class ends at a marked definition that
is no protocol exactly when purity comes down to it. -/
theorem climb_iff (hplaced : c.tree.WellPlaced) (hnames : c.tree.PlainlyNamed)
    (hapart : c.RecordsApart) (hmodule : c.moduleName ≠ "") {steps : Nat}
    (hq : c.tree.node.at? q = some k) (hrecord : k.hasRecord = true)
    (hd : c.collect.1.registry.get? (c.qualified q) = some d)
    (hsteps : (c.qualified q).length < steps) :
    (∃ e, c.collect.1.registry.climb steps d = .marked e ∧
      e.protocol = false) ↔
      c.Inherits q := by
  have hnamed : c.tree.WellNamed := fun p s hs => (hnames p s hs).1
  induction steps generalizing q k d with
  | zero => omega
  | succ steps ih =>
      obtain ⟨d', hd', hname, hfilename, hprotocol, hmarked⟩ :=
        exists_record hplaced hnamed hapart hq hrecord
      obtain rfl : d = d' := Option.some.inj (hd.symm.trans hd')
      cases hflag : d.marked with
      | true =>
          rw [Registry.climb_of_marked hflag,
            inherits_of_markedAt hq (hmarked.1 hflag), ← hprotocol]
          simp
      | false =>
          have hunmarked : ¬ c.MarkedAt q := by
            intro hat
            rw [hmarked.2 hat] at hflag
            cases hflag
          cases k with
          | module body =>
              -- nothing stands around a file
              obtain rfl := Node.eq_nil_of_at?_module hq
              have hroot : c.qualified [] = c.moduleName :=
                Module.qualified_nil _ _
              have hnone := get?_parent_moduleName hplaced hmodule
              rw [Registry.climb_of_none hflag (by rw [hname, hroot, hnone])]
              constructor
              · rintro ⟨e, he, -⟩
                cases he
              · rintro ⟨p, n, ⟨hpre, hat, -⟩, -⟩
                rw [List.prefix_nil.1 hpre] at hat
                exact absurd hat hunmarked
          | stmt s =>
              have hne : q ≠ [] := by
                rintro rfl
                cases hq
              obtain ⟨h, hhome⟩ := c.tree.exists_homeOf hq hne
              obtain ⟨-, -, m, hm, hopens⟩ := Node.exists_of_homeOf hhome
              have hclass : (Node.stmt s).isFunction = false := by
                rw [Node.isFunction_eq_not_hasRecord
                  (Node.opensScope_of_hasRecord hrecord), hrecord]
                rfl
              have hparent : Name.parent d.name = c.qualified h := by
                rw [hname]
                exact parent_qualified hnames hq hrecord hhome
              rw [inherits_home hq hclass hhome hunmarked]
              cases hkind : m.hasRecord with
              | true =>
                  obtain ⟨e, he, -, hsame, -⟩ :=
                    exists_record hplaced hnamed hapart hm hkind
                  have hshorter :
                      (c.qualified h).length < (c.qualified q).length := by
                    have hnonempty : c.qualified q ≠ "" := by
                      intro hempty
                      exact hmodule (Name.join_eq_empty.1 hempty _
                        List.mem_cons_self)
                    rw [← hparent, hname]
                    exact Name.length_parent_lt hnonempty
                  rw [Registry.climb_of_around hflag (by rw [hparent, he])
                    (hsame.trans hfilename.symm)]
                  exact ih hm hkind he (by omega)
              | false =>
                  have hfunction : m.isFunction = true := by
                    rw [Node.isFunction_eq_not_hasRecord hopens, hkind]
                    rfl
                  have hnone :=
                    get?_qualified_function hplaced hapart hm hfunction
                  rw [Registry.climb_of_none hflag (by rw [hparent, hnone])]
                  constructor
                  · rintro ⟨e, he, -⟩
                    cases he
                  · exact fun hinherits =>
                      absurd hinherits
                        (not_inherits_of_isFunction hm hfunction)
          | _ => cases hrecord

/-- An unmarked class is accepted as pure exactly when the nearest marked
file or class around it is no protocol and no function stands between the
two. For a class that is not inside a function this is the rule that the
nearest marked definition around a class decides; a class inside a function
is only reached by marks that are inside the function as well. -/
theorem class_accepted_iff_heir (hplaced : c.tree.WellPlaced)
    (hnames : c.tree.PlainlyNamed) (hapart : c.RecordsApart)
    (hmodule : c.moduleName ≠ "") (hq : c.tree.node.at? q = some k)
    (hclass : k.isClass = true) (hunmarked : ¬ c.MarkedAt q) :
    ∃ d, c.collect.1.registry.get? (c.qualified q) = some d ∧
    d.marked = false ∧
      c.collect.1.registry.climb (d.name.length + 1) d ≠ .unfinished ∧
      (c.qualified q ∈ c.collect.1.registry.accepted ↔
        ∃ p n, c.NearestMarked q p ∧ c.tree.node.at? p = some n ∧
        n.isProtocol = false ∧
          c.NoFunctionBetween p q) := by
  have hnamed : c.tree.WellNamed := fun p s hs => (hnames p s hs).1
  have hrecord := Node.hasRecord_of_isClass hclass
  obtain ⟨d, hd, hname, -, -, hmarked⟩ :=
    exists_record hplaced hnamed hapart hq hrecord
  have hflag : d.marked = false := by
    cases hflag : d.marked with
    | false => rfl
    | true => exact absurd (hmarked.1 hflag) hunmarked
  have hempty : ∀ e, c.collect.1.registry.get? "" = some e →
      e.marked = true := by
    intro e he
    rw [get?_empty_collect hmodule] at he
    cases he
  refine ⟨d, hd, hflag, ?_, ?_⟩
  · exact Registry.climb_ne_unfinished (keyed_collect c) hempty (hname ▸
      hd) (Nat.lt_succ_self _)
  · have hsteps : (c.qualified q).length < d.name.length + 1 := by
      rw [hname]
      exact Nat.lt_succ_self _
    show _ ↔ c.Inherits q
    rw [← climb_iff hplaced hnames hapart hmodule hq hrecord hd hsteps]
    constructor
    · exact fun haccepted =>
        Registry.exists_climb_of_accepted hd hflag haccepted
    · rintro ⟨e, he, hprotocol⟩
      refine Registry.mem_accepted.2 ⟨d, hd, ?_⟩
      simp [Registry.isAccepted, he, hprotocol]

/-- A marked file with a class in a function and a class in a class. -/
def workshop : Context :=
  Context.ofTree "pure_module" {} ⟨[
    markerLine 1 [],
    .functionDef ⟨2, 3, 0⟩ false "make" ⟨[], [], none, [], [], none, []⟩
      [emptyClass 3 4 "Clock"] [] none,
    .classDef ⟨4, 5, 0⟩ "Shelf" [] [] [emptyClass 5 4 "Slot"] []]⟩
    "app.core" "app" "app/core.py" {}

/-- The file is marked and no protocol, and of the classes inside it the one
in the function is not accepted. -/
theorem workshop_heirs :
    workshop.tree.WellPlaced ∧ workshop.tree.PlainlyNamed ∧
    workshop.RecordsApart ∧
    workshop.NearestMarked [1, 1] [] ∧ workshop.tree.node.isProtocol = false ∧
    "app.core.make.Clock" ∉ workshop.collect.1.registry.accepted ∧
    "app.core.Shelf.Slot" ∈ workshop.collect.1.registry.accepted := by
  have hplaced : workshop.tree.WellPlaced := by decide +kernel
  have hnames : workshop.tree.PlainlyNamed := by decide +kernel
  have hapart : workshop.RecordsApart := by decide +kernel
  have hmodule : workshop.moduleName ≠ "" := by decide
  have hclock : workshop.NearestMarked [1, 1] [] := by decide +kernel
  have hslot : workshop.NearestMarked [2, 0] [] := by decide +kernel
  have hnameClock :
      workshop.qualified [1, 1] = "app.core.make.Clock" := by decide +kernel
  have hnameSlot :
      workshop.qualified [2, 0] = "app.core.Shelf.Slot" := by decide +kernel
  refine ⟨hplaced, hnames, hapart, hclock, rfl, ?_, ?_⟩
  · obtain ⟨-, -, -, -, hiff⟩ :=
      class_accepted_iff_heir hplaced hnames hapart hmodule
      (q := [1, 1]) rfl rfl (by decide +kernel)
    rw [← hnameClock, hiff]
    rintro ⟨p, n, ⟨hpre, hmarked, -⟩, -, -, hnone⟩
    obtain rfl : p = [] := List.prefix_nil.1 (hclock.2.2 p hpre hmarked)
    exact absurd hnone (by decide +kernel)
  · obtain ⟨-, -, -, -, hiff⟩ :=
      class_accepted_iff_heir hplaced hnames hapart hmodule
      (q := [2, 0]) rfl rfl (by decide +kernel)
    rw [← hnameSlot, hiff]
    exact ⟨[], _, hslot, rfl, rfl, by decide +kernel⟩

end Context

end Purity
