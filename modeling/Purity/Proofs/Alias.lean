/-
Which aliases a text has, by place. A text has the aliases of the imports
anywhere in it (`mem_aliases`). To the definitions nested in it a text
shows those of the imports that can be reached without entering a class,
a function or a lambda on the way (`mem_shownAliases`). The way is a
place: `OpenWay` says that it enters none of them. Consumed by the proofs
about what a class sees of the text around it.
-/
import Purity.Alias
import Purity.Proofs.Place

namespace Purity

variable {package : String} {a : Alias}

theorem mem_bindingsOf {imports : List Node} :
    a ∈ bindingsOf package imports ↔
    ∃ m ∈ imports, a ∈ m.bindings package := by
  unfold bindingsOf
  rw [List.mem_eraseDups, List.mem_flatMap]
  simp only [Node.mem_textOrder]

namespace Node

variable {k m n : Node} {p : Place}

theorem mem_aliases :
    a ∈ n.aliases package ↔ ∃ m : Node, m.Within n ∧ m.isImport = true ∧
    a ∈ m.bindings package := by
  unfold aliases imports
  rw [mem_bindingsOf]
  simp only [mem_textOrder, List.mem_filter, mem_walk, and_assoc]

-- ======================================================= direct imports

/-- No class, function or lambda is entered on the way to a place. -/
def OpenWay (n : Node) (p : Place) : Prop :=
  ∀ r b, r ≠ [] → r <+: p → n.at? r = some b → b.isBody = false

theorem openWay_nil (n : Node) : n.OpenWay [] :=
  fun _ _ hne hpre _ => absurd (List.prefix_nil.1 hpre) hne

theorem openWay_cons {c : Node} {i : Nat} (hc : n.children[i]? = some c) :
    n.OpenWay (i :: p) ↔ c.isBody = false ∧ c.OpenWay p := by
  constructor
  · intro hopen
    constructor
    · refine hopen [i] c (by simp) (by simp) ?_
      rw [at?_cons [] hc, at?_nil]
    · intro r b hne hpre hr
      refine hopen (i :: r) b (by simp)
        (List.cons_prefix_cons.2 ⟨rfl, hpre⟩) ?_
      rw [at?_cons r hc, hr]
  · rintro ⟨hfirst, hopen⟩ r b hne hpre hr
    cases r with
    | nil => exact absurd rfl hne
    | cons j r =>
        obtain ⟨rfl, hbelow⟩ := List.cons_prefix_cons.1 hpre
        rw [at?_cons r hc] at hr
        by_cases hnil : r = []
        · subst hnil
          cases hr
          exact hfirst
        · exact hopen r b hnil hbelow hr

theorem directImports_eq (n : Node) :
    n.directImports = n.children.flatMap fun c =>
      if c.isBody then [] else if c.isImport then [c]
      else c.directImports := by
  rw [directImports]
  simp only [List.flatMap_subtype, List.unattach_attach]

/-- An import is a statement without a body of its own. -/
theorem exists_stmt_of_isImport (hm : m.isImport = true) :
    ∃ s, m = .stmt s ∧ m.isBody = false := by
  unfold isImport at hm
  split at hm
  · exact ⟨_, rfl, rfl⟩
  · exact ⟨_, rfl, rfl⟩
  · cases hm

/-- No import has another one below it. -/
theorem eq_nil_of_isImport (hk : k.isImport = true) (hm : m.isImport = true)
    (hp : k.at? p = some m) : p = [] := by
  cases p with
  | nil => rfl
  | cons i p =>
      obtain ⟨c, hc, hp⟩ := at?_cons_eq_some hp
      have hnames : ∃ name, c = .importName name := by
        have hchild := List.mem_of_getElem? hc
        unfold isImport at hk
        split at hk
        · simp only [children, Stmt.children, List.mem_map] at hchild
          obtain ⟨name, -, rfl⟩ := hchild
          exact ⟨name, rfl⟩
        · simp only [children, Stmt.children, List.mem_map] at hchild
          obtain ⟨name, -, rfl⟩ := hchild
          exact ⟨name, rfl⟩
        · cases hk
      obtain ⟨name, rfl⟩ := hnames
      cases p with
      | nil =>
          cases hp
          cases hm
      | cons j p =>
          obtain ⟨b, hb, -⟩ := at?_cons_eq_some hp
          cases hb

/-- The direct imports of a node are those that an open way leads to. -/
theorem mem_directImports :
    m ∈ n.directImports ↔
      m.isImport = true ∧ ∃ p, p ≠ [] ∧ n.at? p = some m ∧ n.OpenWay p := by
  induction n using childrenInduction with
  | step n ih =>
      rw [directImports_eq, List.mem_flatMap]
      constructor
      · rintro ⟨c, hmem, hm⟩
        obtain ⟨i, hc⟩ := List.mem_iff_getElem?.1 hmem
        split at hm
        next => cases hm
        next hbody =>
          have hbody : c.isBody = false := by simpa using hbody
          split at hm
          next himport =>
            obtain rfl : m = c := List.mem_singleton.1 hm
            refine ⟨himport, [i], by simp, ?_,
              (openWay_cons hc).2 ⟨hbody, openWay_nil m⟩⟩
            rw [at?_cons [] hc, at?_nil]
          next =>
            obtain ⟨himport, p, -, hp, hopen⟩ := (ih c hmem).1 hm
            refine ⟨himport, i :: p, by simp, ?_,
              (openWay_cons hc).2 ⟨hbody, hopen⟩⟩
            rw [at?_cons p hc, hp]
      · rintro ⟨himport, p, hne, hp, hopen⟩
        cases p with
        | nil => exact absurd rfl hne
        | cons i p =>
            obtain ⟨c, hc, hp⟩ := at?_cons_eq_some hp
            obtain ⟨hbody, hopen⟩ := (openWay_cons hc).1 hopen
            have hmem := List.mem_of_getElem? hc
            refine ⟨c, hmem, ?_⟩
            rw [if_neg (by simp [hbody])]
            split
            next hself =>
              obtain rfl := eq_nil_of_isImport hself himport hp
              cases hp
              exact List.mem_singleton_self _
            next hother =>
              refine (ih c hmem).2 ⟨himport, p, ?_, hp, hopen⟩
              rintro rfl
              cases hp
              exact hother himport

theorem mem_shownAliases :
    a ∈ n.shownAliases package ↔
      ∃ m p, m.isImport = true ∧ a ∈ m.bindings package ∧ p ≠
    [] ∧ n.at? p = some m ∧
        n.OpenWay p := by
  unfold shownAliases
  rw [mem_bindingsOf]
  simp only [mem_directImports]
  constructor
  · rintro ⟨m, ⟨himport, p, hne, hp, hopen⟩, ha⟩
    exact ⟨m, p, himport, ha, hne, hp, hopen⟩
  · rintro ⟨m, p, himport, ha, hne, hp, hopen⟩
    exact ⟨m, ⟨himport, p, hne, hp, hopen⟩, ha⟩

end Node

end Purity
