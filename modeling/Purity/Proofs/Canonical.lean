/-
Lookups and canonical places agree. A lookup follows the names of a path
and splices the target of each link in front of what is left; a path is
made canonical by following the same links, each at most once, with the
places they lead to kept. Where the lookup arrives is the canonical place
(`at?_placeOf`).

Both are read against one relation, `Leads`, which follows a link's target
on its own before the names after it and counts the links on the way.

- A lookup that arrives is a derivation of `Leads` (`exists_leads`), and
  there is one arrival, with one count (`Leads.unique`).
- A link that is still being followed is not met again on a way that
  arrives: it would need fewer links than itself.
- Each link costs its steps once (`potential`), so the steps suffice
  (`arrives_of_leads`).

Consumed by the proofs about the names of files.
-/
import Mathlib.Algebra.Order.BigOperators.Group.List
import Mathlib.Algebra.Order.Ring.Nat
import Purity.Files.Tree
import Purity.Proofs.Outcome

namespace Purity

variable {root e : Entry} {entries : List (String × Entry)}
    {here todo place names : List String}
  {name target : String}

-- ====================================================== entries at places

namespace Entry

theorem at?_append (xs ys : List String) (e : Entry) :
    e.at? (xs ++ ys) = (e.at? xs).bind fun below => below.at? ys :=
  List.foldlM_append

theorem at?_cons (name : String) (names : List String) (e : Entry) :
    e.at? (name :: names) = (e.child? name).bind fun below =>
      below.at? names :=
  List.foldlM_cons

theorem child?_eq_some (h : root.child? name = some e) :
    ∃ entries, root = .directory entries ∧ entries.lookup name = some e := by
  cases root with
  | file content => cases h
  | link target => cases h
  | directory entries => exact ⟨entries, rfl, h⟩

theorem at?_of_directory
    (hhere : root.at? here.reverse = some (.directory entries)) :
    root.at? (name :: here).reverse = entries.lookup name := by
  rw [List.reverse_cons, at?_append, hhere, Option.bind_some, at?_cons]
  cases hchild : child? name (directory entries) with
  | none => exact hchild.symm
  | some below => exact hchild.symm

end Entry

namespace FileTree

-- ============================================================== the way

/-- A name that asks for an entry: it neither stays in a directory nor
leaves it. -/
def Proper (name : String) : Prop := name ≠ "" ∧ name ≠ "." ∧ name ≠ ".."

instance (name : String) : Decidable (Proper name) :=
  inferInstanceAs (Decidable (_ ∧ _ ∧ _))

theorem Proper.not_blank (h : Proper name) : ¬ (name = "" ∨ name = ".") :=
  not_or.2 ⟨h.1, h.2.1⟩

theorem Proper.blank_eq_false (h : Proper name) :
    (decide (name = "") || decide (name = ".")) = false := by
  simp [h.1, h.2.1]

/-- Where the target of a link in a directory starts. -/
def linkStart (here : List String) (target : String) : List String :=
  if target.startsWith "/" then [] else here

/-- Names lead from one place to another, over so many links. -/
inductive Leads (root : Entry) :
    List String → List String → List String → Nat → Prop
  | done (here : List String) : Leads root here [] here 0
  | stay {here todo place : List String} {entries : List (String × Entry)}
      {name : String} {n : Nat}
      (hhere : root.at? here.reverse = some (.directory entries))
      (hname : name = "" ∨ name = ".")
      (hrest : Leads root here todo place n) :
      Leads root here (name :: todo) place n
  | leave {here todo place : List String} {entries : List (String × Entry)}
      {n : Nat}
      (hhere : root.at? here.reverse = some (.directory entries))
      (hrest : Leads root here.tail todo place n) :
      Leads root here (".." :: todo) place n
  | enter {here todo place : List String} {entries : List (String × Entry)}
      {name : String} {n : Nat} {e : Entry}
      (hhere : root.at? here.reverse = some (.directory entries))
      (hname : Proper name) (hentry : entries.lookup name = some e)
      (hlink : ∀ target, e ≠ .link target)
      (hrest : Leads root (name :: here) todo place n) :
      Leads root here (name :: todo) place n
  | jump {here todo place reached : List String}
      {entries : List (String × Entry)} {name target : String} {m n : Nat}
      (hhere : root.at? here.reverse = some (.directory entries))
      (hname : Proper name)
      (hentry : entries.lookup name = some (.link target))
      (htarget : Leads root (linkStart here target) (targetNames target)
        reached m)
      (hrest : Leads root reached todo place n) :
      Leads root here (name :: todo) place (m + n + 1)

/-- A way along two lists of names passes a place between them. -/
theorem Leads.split {xs ys : List String} {n : Nat}
    (h : Leads root here (xs ++ ys) place n) :
    ∃ reached m k, Leads root here xs reached m ∧
    Leads root reached ys place k ∧ n = m + k := by
  induction xs generalizing here n with
  | nil => exact ⟨here, 0, n, .done here, h, (Nat.zero_add n).symm⟩
  | cons x xs ih =>
      rw [List.cons_append] at h
      cases h with
      | stay hhere hname hrest =>
          obtain ⟨reached, m, k, hm, hk, hn⟩ := ih hrest
          exact ⟨reached, m, k, .stay hhere hname hm, hk, hn⟩
      | leave hhere hrest =>
          obtain ⟨reached, m, k, hm, hk, hn⟩ := ih hrest
          exact ⟨reached, m, k, .leave hhere hm, hk, hn⟩
      | enter hhere hname hentry hlink hrest =>
          obtain ⟨reached, m, k, hm, hk, hn⟩ := ih hrest
          exact ⟨reached, m, k, .enter hhere hname hentry hlink hm, hk, hn⟩
      | @jump _ _ _ _ _ _ _ l _ hhere hname hentry htarget hrest =>
          obtain ⟨reached, m, k, hm, hk, hn⟩ := ih hrest
          exact ⟨reached, l + m + 1, k, .jump hhere hname hentry htarget hm,
            hk, by omega⟩

/-- There is one arrival, over one number of links. -/
theorem Leads.unique {place' : List String} {n n' : Nat}
    (h : Leads root here todo place n) (h' : Leads root here todo place' n') :
    place = place' ∧ n = n' := by
  induction h generalizing place' n' with
  | done here =>
      cases h'
      exact ⟨rfl, rfl⟩
  | stay hhere hname hrest ih =>
      cases h' with
      | stay _ _ hrest' => exact ih hrest'
      | leave => simp at hname
      | enter _ hproper => exact absurd hname hproper.not_blank
      | jump _ hproper => exact absurd hname hproper.not_blank
  | leave hhere hrest ih =>
      cases h' with
      | stay _ hblank => simp at hblank
      | leave _ hrest' => exact ih hrest'
      | enter _ hproper => exact absurd rfl hproper.2.2
      | jump _ hproper => exact absurd rfl hproper.2.2
  | enter hhere hname hentry hlink hrest ih =>
      cases h' with
      | stay _ hblank => exact absurd hblank hname.not_blank
      | leave => exact absurd rfl hname.2.2
      | enter _ _ _ _ hrest' => exact ih hrest'
      | jump hhere' _ hentry' =>
          obtain rfl :=
            Entry.directory.inj (Option.some.inj (hhere.symm.trans hhere'))
          exact absurd (Option.some.inj (hentry.symm.trans hentry')) (hlink _)
  | jump hhere hname hentry htarget hrest ihtarget ih =>
      cases h' with
      | stay _ hblank => exact absurd hblank hname.not_blank
      | leave => exact absurd rfl hname.2.2
      | enter hhere' _ hentry' hlink' =>
          obtain rfl :=
            Entry.directory.inj (Option.some.inj (hhere.symm.trans hhere'))
          exact absurd (Option.some.inj (hentry'.symm.trans hentry)) (hlink' _)
      | jump hhere' _ hentry' htarget' hrest' =>
          obtain rfl :=
            Entry.directory.inj (Option.some.inj (hhere.symm.trans hhere'))
          obtain rfl :=
            Entry.link.inj (Option.some.inj (hentry.symm.trans hentry'))
          obtain ⟨rfl, rfl⟩ := ihtarget htarget'
          obtain ⟨rfl, rfl⟩ := ih hrest'
          exact ⟨rfl, rfl⟩

/-- A lookup asks a directory for a name. -/
theorem follow_proper
    (hhere : root.at? here.reverse = some (.directory entries))
    (hname : Proper name) (hshort : name.utf8ByteSize ≤ nameLimit)
    (links : Nat) :
    follow root links here (name :: todo) = match entries.lookup name with
      | none => .error .missing
      | some (.link target) =>
          match links with
          | 0 => .error .tooManyLinks
          | k + 1 =>
              follow root k (linkStart here target)
                (targetNames target ++ todo)
      | some _ => follow root links (name :: here) todo := by
  rw [follow, hhere]
  simp only [hname.blank_eq_false, hname.2.2, Bool.false_eq_true, if_false,
    Nat.not_lt.2 hshort]
  rfl

/-- What a lookup that arrives did with its first name. -/
theorem follow_cons {links : Nat}
    (h : follow root links here (name :: todo) = .ok place) :
    ∃ entries, root.at? here.reverse = some (.directory entries) ∧
      ((name = "" ∨ name = ".") ∧ follow root links here todo = .ok place ∨
        name = ".." ∧ follow root links here.tail todo = .ok place ∨
        Proper name ∧ ((∃ e, entries.lookup name = some e ∧
          (∀ target, e ≠ .link target) ∧
            follow root links (name :: here) todo = .ok place) ∨
          ∃ target k, entries.lookup name = some (.link target) ∧
          links = k + 1 ∧
            follow root k (linkStart here target)
              (targetNames target ++ todo) = .ok place)) := by
  rw [follow] at h
  split at h
  · cases h
  · cases h
  · cases h
  rename_i entries hhere
  refine ⟨entries, hhere, ?_⟩
  split at h
  next hblank => exact .inl ⟨by simpa using hblank, h⟩
  next hblank =>
  split at h
  next hdots => exact .inr (.inl ⟨hdots, h⟩)
  next hdots =>
  split at h
  next => cases h
  have hproper : Proper name := by
    simp only [Bool.or_eq_true, decide_eq_true_eq, not_or] at hblank
    exact ⟨hblank.1, hblank.2, hdots⟩
  refine .inr (.inr ⟨hproper, ?_⟩)
  split at h
  next => cases h
  next target hentry =>
    cases links with
    | zero => cases h
    | succ k => exact .inr ⟨target, k, hentry, rfl, h⟩
  next e hlink hentry => exact .inl ⟨e, hentry, hlink, h⟩

/-- A lookup that arrives follows a way. -/
theorem exists_leads {links : Nat}
    (h : follow root links here todo = .ok place) :
    ∃ n, Leads root here todo place n := by
  -- a link shortens the budget, every other name what is left to follow
  induction links using Nat.strongRecOn generalizing here todo with
  | ind links ihlinks =>
      induction todo generalizing here with
      | nil =>
          rw [follow] at h
          cases h
          exact ⟨0, .done _⟩
      | cons name todo ih =>
          obtain ⟨entries, hhere,
              ⟨hblank, hrest⟩ | ⟨rfl, hrest⟩ | ⟨hproper, hentry⟩⟩ :=
                follow_cons h
          · obtain ⟨n, hn⟩ := ih hrest
            exact ⟨n, .stay hhere hblank hn⟩
          · obtain ⟨n, hn⟩ := ih hrest
            exact ⟨n, .leave hhere hn⟩
          · obtain ⟨e, hentry, hlink, hrest⟩ | ⟨target, k, hentry, rfl,
                hrest⟩ := hentry
            · obtain ⟨n, hn⟩ := ih hrest
              exact ⟨n, .enter hhere hproper hentry hlink hn⟩
            · obtain ⟨n, hn⟩ := ihlinks k (Nat.lt_succ_self k) hrest
              obtain ⟨reached, l, m, hl, hm, -⟩ := hn.split
              exact ⟨l + m + 1, .jump hhere hproper hentry hl hm⟩

-- ================================================== links and their cost

mutual

/-- The links below a place, each with its target. -/
def linksIn (here : List String) : Entry → List (List String × String)
  | .file _ => []
  | .link target => [(here, target)]
  | .directory entries => linksInAll here entries

/-- The same for the entries of a directory. -/
def linksInAll (here : List String) :
    List (String × Entry) → List (List String × String)
  | [] => []
  | (name, e) :: rest => linksIn (name :: here) e ++ linksInAll here rest

end

/-- The steps that a link costs: its target's names, and their end. -/
def cost (link : List String × String) : Nat := link.2.length + 2

mutual

theorem sum_cost_linksIn (here : List String) :
    (e : Entry) → ((linksIn here e).map cost).sum = linkSteps e
  | .file _ => rfl
  | .link target => by simp [linksIn, linkSteps, cost]
  | .directory entries => sum_cost_linksInAll here entries

theorem sum_cost_linksInAll (here : List String) :
    (entries : List (String × Entry)) →
      ((linksInAll here entries).map cost).sum = linkStepsAll entries
  | [] => rfl
  | (name, e) :: rest => by
      rw [linksInAll, List.map_append, List.sum_append, sum_cost_linksIn,
        sum_cost_linksInAll, linkStepsAll]

end

theorem mem_linksInAll (hentry : entries.lookup name = some e)
    {link : List String × String} (hlink : link ∈ linksIn (name :: here) e) :
    link ∈ linksInAll here entries := by
  induction entries with
  | nil => cases hentry
  | cons first rest ih =>
      obtain ⟨other, below⟩ := first
      rw [linksInAll, List.mem_append]
      rw [List.lookup_cons] at hentry
      cases hsame : name == other with
      | true =>
          rw [hsame] at hentry
          cases hentry
          obtain rfl := eq_of_beq hsame
          exact .inl hlink
      | false =>
          rw [hsame] at hentry
          exact .inr (ih hentry)

theorem mem_linksIn (h : e.at? names = some (.link target))
    (here : List String) :
    (names.reverse ++ here, target) ∈ linksIn here e := by
  induction names generalizing e here with
  | nil =>
      obtain rfl := Option.some.inj h
      exact List.mem_singleton_self _
  | cons name names ih =>
      rw [Entry.at?_cons] at h
      obtain ⟨below, hbelow, hrest⟩ := Option.bind_eq_some_iff.1 h
      obtain ⟨entries, rfl, hentry⟩ := Entry.child?_eq_some hbelow
      have hmem := mem_linksInAll hentry (ih hrest (name :: here))
      rw [List.reverse_cons, List.append_assoc]
      exact hmem

-- ========================================================= known links

/-- Links met so far, as `canonical` keeps them. -/
abbrev Known := List (List String × Option (List String))

variable {known : Known}

/-- What the links of a tree that are not known yet can still cost. -/
def potential (root : Entry) (known : Known) : Nat :=
  (((linksIn [] root).filter fun link =>
    (known.lookup link.1).isNone).map cost).sum

theorem potential_nil (root : Entry) : potential root [] = linkSteps root := by
  rw [← sum_cost_linksIn []]
  simp [potential]

/-- A link that becomes known is taken out, and only it. -/
theorem filter_unknown_cons (l : List (List String × String))
    (value : Option (List String)) :
    (l.filter fun link =>
      (List.lookup link.1 ((place, value) :: known)).isNone)
      = (l.filter fun link => (known.lookup link.1).isNone).filter fun link =>
        !(link.1 == place) := by
  rw [List.filter_filter]
  refine List.filter_congr fun link _ => ?_
  rw [List.lookup_cons]
  cases link.1 == place <;> simp

theorem potential_cons_le (root : Entry) (known : Known) (place : List String)
    (value : Option (List String)) :
    potential root ((place, value) :: known) ≤ potential root known := by
  unfold potential
  rw [filter_unknown_cons]
  exact (List.filter_sublist.map cost).sum_le_sum (fun _ _ => Nat.zero_le _)

/-- A link pays for its steps when it becomes known. -/
theorem potential_cons_add_le
    (hlink : root.at? place.reverse = some (.link target))
    (hnew : known.lookup place = none) (value : Option (List String)) :
    potential root ((place, value) :: known) + (target.length + 2) ≤
      potential root known := by
  have hmem : (place, target) ∈
      linksIn [] root := by simpa using mem_linksIn hlink []
  unfold potential
  rw [filter_unknown_cons]
  generalize hopen : (linksIn [] root).filter (fun link =>
    (known.lookup link.1).isNone) = l
  have hl : (place, target) ∈ l.filter fun link => link.1 == place := by
    rw [← hopen]
    simp [hmem, hnew]
  have hcost :=
    List.single_le_sum (fun _ _ =>
      Nat.zero_le _) _ (List.mem_map_of_mem (f := cost) hl)
  have hparts :=
    ((List.filter_append_perm (fun link => link.1 == place) l).map cost).sum_eq
  rw [List.map_append, List.sum_append] at hparts
  simp only [cost] at *
  omega

theorem length_splitSlashes_le (cs : List Char) :
    (splitSlashes cs).length ≤ cs.length + 1 := by
  induction cs with
  | nil => exact Nat.le_refl 1
  | cons c cs ih =>
      rw [splitSlashes, List.length_cons]
      split
      · exact Nat.succ_le_succ ih
      · split
        · exact Nat.succ_le_succ (Nat.zero_le _)
        next piece pieces hcut =>
          rw [hcut] at ih
          exact Nat.le_succ_of_le ih

theorem length_targetNames_le (target : String) :
    (targetNames target).length ≤ target.length + 1 := by
  unfold targetNames
  rw [List.length_map, ← String.length_toList]
  exact length_splitSlashes_le _

-- ============================================ single steps of `canonical`

section Steps

variable {steps : Nat} {pending : List Pending}

theorem canonical_stay (hname : name = "" ∨ name = ".") :
    canonical root (steps + 1) known here (.name name :: pending)
      = canonical root steps known here pending := by
  simp [canonical, hname]

theorem canonical_leave :
    canonical root (steps + 1) known here (.name ".." :: pending)
      = canonical root steps known here.tail pending := by
  simp [canonical]

theorem canonical_enter (hname : Proper name)
    (hplace : ∀ target, root.at? (name :: here).reverse ≠
      some (.link target)) :
    canonical root (steps + 1) known here (.name name :: pending)
      = canonical root steps known (name :: here) pending := by
  rw [canonical]
  simp only [hname.blank_eq_false, hname.2.2, Bool.false_eq_true, if_false]

/-- A link whose place is kept is not followed again. -/
theorem canonical_known {reached : List String} (hname : Proper name)
    (hlink : root.at? (name :: here).reverse = some (.link target))
    (hreached : known.lookup (name :: here) = some (some reached)) :
    canonical root (steps + 1) known here (.name name :: pending)
      = canonical root steps known reached pending := by
  rw [canonical]
  simp only [hname.blank_eq_false, hname.2.2, Bool.false_eq_true, if_false,
    hlink, hreached]

theorem canonical_open (hname : Proper name)
    (hlink : root.at? (name :: here).reverse = some (.link target))
    (hnew : known.lookup (name :: here) = none) :
    canonical root (steps + 1) known here (.name name :: pending)
      = canonical root steps ((name :: here, none) :: known)
          (linkStart here target)
          ((targetNames target).map .name ++
            .endOf (name :: here) :: pending) := by
  rw [canonical]
  simp only [hname.blank_eq_false, hname.2.2, Bool.false_eq_true, if_false,
    hlink, hnew]
  rfl

end Steps

-- ====================================================== canonical places

/-- A link leads from its directory to a place, over so many further links. -/
def Jumps (root : Entry) (link reached : List String) (n : Nat) : Prop :=
  ∃ name here target, link = name :: here ∧
    root.at? link.reverse = some (.link target) ∧
    Leads root (linkStart here target) (targetNames target) reached n

theorem Jumps.unique {link reached reached' : List String} {n n' : Nat}
    (h : Jumps root link reached n) (h' : Jumps root link reached' n') :
    reached = reached' ∧ n = n' := by
  obtain ⟨name, here, target, rfl, hlink, hway⟩ := h
  obtain ⟨name', here', target', heq, hlink', hway'⟩ := h'
  obtain ⟨rfl, rfl⟩ := List.cons.inj heq
  obtain rfl := Entry.link.inj (Option.some.inj (hlink.symm.trans hlink'))
  exact hway.unique hway'

/-- The kept places are where the links lead. -/
def Faithful (root : Entry) (known : Known) : Prop :=
  ∀ link reached, known.lookup link = some (some reached) →
    ∃ n, Jumps root link reached n

/-- The links that are still followed need at least so many links. -/
def OpenFor (root : Entry) (known : Known) (n : Nat) : Prop :=
  ∀ link, known.lookup link = some none →
    ∀ reached m, Jumps root link reached m → n ≤ m

theorem OpenFor.mono {n k : Nat} (h : OpenFor root known n) (hk : k ≤ n) :
    OpenFor root known k :=
  fun link hlink reached m hm => Nat.le_trans hk (h link hlink reached m hm)

/-- No link is open that was not open before. -/
def OpensNone (known known' : Known) : Prop :=
  ∀ link, known'.lookup link = some none → known.lookup link = some none

theorem OpenFor.of_opensNone {known' : Known} {n : Nat}
    (h : OpenFor root known n) (hopens : OpensNone known known') :
    OpenFor root known' n :=
  fun link hlink => h link (hopens link hlink)

/-- A link is opened for as many links as it needs. -/
theorem OpenFor.open {link reached : List String} {m n : Nat}
    (h : OpenFor root known n) (hlink : Jumps root link reached m)
    (hm : m ≤ n) : OpenFor root ((link, none) :: known) m := by
  intro other hother reached' k hk
  rw [List.lookup_cons] at hother
  split at hother
  next hsame =>
    obtain rfl := eq_of_beq hsame
    exact Nat.le_of_eq (hlink.unique hk).2
  next => exact Nat.le_trans hm (h other hother reached' k hk)

theorem Faithful.open {link : List String} (h : Faithful root known) :
    Faithful root ((link, none) :: known) := by
  intro other reached hother
  rw [List.lookup_cons] at hother
  split at hother
  next => cases hother
  next => exact h other reached hother

theorem Faithful.close {link reached : List String} {n : Nat}
    (h : Faithful root known) (hlink : Jumps root link reached n) :
    Faithful root ((link, some reached) :: known) := by
  intro other reached' hother
  rw [List.lookup_cons] at hother
  split at hother
  next hsame =>
    obtain rfl := eq_of_beq hsame
    obtain rfl := Option.some.inj (Option.some.inj hother)
    exact ⟨n, hlink⟩
  next => exact h other reached' hother

/-- What was opened last and is closed now leaves the other links as they
were. -/
theorem OpensNone.close {link reached : List String} {known' : Known}
    (h : OpensNone ((link, none) :: known) known') :
    OpensNone known ((link, some reached) :: known') := by
  intro other hother
  rw [List.lookup_cons] at hother
  split at hother
  next => cases hother
  next hdiff =>
    have hbefore := h other hother
    rw [List.lookup_cons] at hbefore
    simpa [hdiff] using hbefore

/-- Making a place canonical comes to a place, before what is left, with
the steps that the rest needs. -/
def Arrives (root : Entry) (steps : Nat) (known : Known) (here : List String)
    (pending : List Pending) (place : List String) (rest : List Pending) :
    Prop :=
  ∃ steps' known', canonical root steps known here pending =
    canonical root steps' known' place rest ∧
    Faithful root known' ∧ OpensNone known known' ∧
    rest.length + potential root known' < steps'

theorem Arrives.of_step {steps steps' : Nat} {here' : List String}
    {pending pending' rest : List Pending}
    (hstep : canonical root steps known here pending =
      canonical root steps' known here' pending')
    (h : Arrives root steps' known here' pending' place rest) :
    Arrives root steps known here pending place rest := by
  obtain ⟨k, known', heq, hlater⟩ := h
  exact ⟨k, known', hstep.trans heq, hlater⟩

theorem exists_step {n m steps : Nat}
    (h : (name :: todo).length + n + m < steps) :
    ∃ k, steps = k + 1 ∧ todo.length + n + m < k := by
  rw [List.length_cons] at h
  exact ⟨steps - 1, by omega, by omega⟩

/-- Making a place canonical goes the way that the names lead. -/
theorem arrives_of_leads {n : Nat} (h : Leads root here todo place n)
    {steps : Nat} {known : Known} {rest : List Pending}
    (hknown : Faithful root known) (hopen : OpenFor root known n)
    (hsteps : todo.length + rest.length + potential root known < steps) :
    Arrives root steps known here (todo.map .name ++ rest) place rest := by
  induction h generalizing steps known rest with
  | done here =>
      exact ⟨steps, known, rfl, hknown, fun _ => id, by simpa using hsteps⟩
  | @stay here todo place entries name n hhere hname hrest ih =>
      obtain ⟨k, rfl, hk⟩ := exists_step hsteps
      exact (ih hknown hopen hk).of_step (canonical_stay hname)
  | @leave here todo place entries n hhere hrest ih =>
      obtain ⟨k, rfl, hk⟩ := exists_step hsteps
      exact (ih hknown hopen hk).of_step canonical_leave
  | @enter here todo place entries name n e hhere hname hentry hlink
      hrest ih =>
      obtain ⟨k, rfl, hk⟩ := exists_step hsteps
      refine (ih hknown hopen hk).of_step (canonical_enter hname ?_)
      intro target htarget
      rw [Entry.at?_of_directory hhere, hentry] at htarget
      exact hlink target (Option.some.inj htarget)
  | @jump here todo place reached entries name target m n hhere hname hentry
      htarget hrest
      ihtarget ih =>
      obtain ⟨k, rfl, hk⟩ := exists_step hsteps
      have hlink : root.at? (name :: here).reverse = some (.link target) :=
        (Entry.at?_of_directory hhere).trans hentry
      have hjump : Jumps root (name :: here) reached m :=
        ⟨name, here, target, rfl, hlink, htarget⟩
      match hmet : known.lookup (name :: here) with
      | some (some reached') =>
          obtain ⟨m', hjump'⟩ := hknown _ _ hmet
          obtain ⟨rfl, -⟩ := hjump.unique hjump'
          exact (ih hknown (hopen.mono (by omega)) hk).of_step
            (canonical_known hname hlink hmet)
      | some none =>
          -- the way has more links than the target of one on it
          have hcount := hopen _ hmet reached m hjump
          omega
      | none =>
          have hpaid := potential_cons_add_le hlink hmet none
          have hnames := length_targetNames_le target
          have hfirst : (targetNames target).length +
              (Pending.endOf (name :: here) ::
              (todo.map Pending.name ++ rest)).length
              + potential root ((name :: here, none) :: known) < k := by
            simp only [List.length_cons, List.length_append, List.length_map]
            omega
          obtain ⟨k', known', heq, hknown', hopens, hk'⟩ :=
            ihtarget hknown.open (hopen.open hjump (by omega)) hfirst
          obtain ⟨l, rfl⟩ : ∃ l, k' = l + 1 := ⟨k' - 1, by omega⟩
          have hsecond : todo.length + rest.length
              + potential root ((name :: here, some reached) :: known') <
                l := by
            have hless :=
              potential_cons_le root known' (name :: here) (some reached)
            simp only [List.length_cons, List.length_append,
              List.length_map] at hk'
            omega
          obtain ⟨l', known'', heq', hknown'', hopens', hl'⟩ :=
            ih (hknown'.close hjump)
            ((hopen.of_opensNone hopens.close).mono (by omega)) hsecond
          refine ⟨l', known'', ?_, hknown'',
            fun link hl => hopens.close link (hopens' link hl), hl'⟩
          exact (canonical_open hname hlink hmet).trans (heq.trans heq')

theorem canonical_eq {n steps : Nat} (h : Leads root here todo place n)
    (hsteps : todo.length + linkSteps root < steps) :
    canonical root steps [] here (todo.map .name) = place := by
  have hfaithful : Faithful root [] := by
    intro link reached hlink
    cases hlink
  have hopen : OpenFor root [] n := by
    intro link hlink
    cases hlink
  have hlength : todo.length + ([] : List Pending).length + potential root [] <
      steps := by
    rw [potential_nil]
    exact hsteps
  obtain ⟨k, known, heq, -, -, hk⟩ :=
    arrives_of_leads h hfaithful hopen hlength
  rw [List.append_nil] at heq
  rw [heq]
  cases k with
  | zero => cases hk
  | succ k => rfl

-- =============================================================== lookups

variable {t : FileTree} {p : Path}

/-- A lookup as a chain of conditions. -/
theorem find_eq (t : FileTree) (p : Path) :
    t.find p =
      if p.hasNul then .error .missing
      else if pathLimit < p.render.utf8ByteSize then .error .tooLong
      else match follow t.root linkLimit (t.startOf p) p.parts with
        | .error fault => .error fault
        | .ok place =>
            (t.root.at? place.reverse).elim (.error .missing) .ok := by
  unfold find
  by_cases hnul : p.hasNul = true
  · simp [hnul]
  · by_cases hlong : pathLimit < p.render.utf8ByteSize
    · simp [hnul, hlong]
    · simp only [hnul, hlong, if_false, Bool.false_eq_true, Outcome.pure_eq]
      cases follow t.root linkLimit (t.startOf p) p.parts with
      | error fault => rfl
      | ok place =>
          simp only [Outcome.ok_bind]
          cases t.root.at? place.reverse <;> rfl

/-- What a lookup that succeeds goes through. -/
theorem find_eq_ok_iff :
    t.find p = .ok e ↔ p.hasNul = false ∧ p.render.utf8ByteSize ≤ pathLimit ∧
      ∃ place, follow t.root linkLimit (t.startOf p) p.parts = .ok place ∧
        t.root.at? place.reverse = some e := by
  rw [find_eq]
  by_cases hnul : p.hasNul = true
  · simp [hnul]
  · by_cases hlong : pathLimit < p.render.utf8ByteSize
    · simp [hnul, hlong, Nat.not_le.2 hlong]
    · cases follow t.root linkLimit (t.startOf p) p.parts with
      | error fault => simp [hnul, hlong]
      | ok place =>
          cases hat : t.root.at? place.reverse with
          | none => simp [hnul, hlong, hat]
          | some found => simp [hnul, hlong, hat, Nat.not_lt.1 hlong]

/-- What a path leads to stands at its canonical place. -/
theorem at?_placeOf (h : t.find p = .ok e) :
    t.root.at? (t.placeOf p).parts = some e := by
  obtain ⟨-, -, place, hfollow, he⟩ := find_eq_ok_iff.1 h
  obtain ⟨n, hleads⟩ := exists_leads hfollow
  have hplace : (t.placeOf p).parts = place.reverse :=
    congrArg List.reverse (canonical_eq hleads (Nat.lt_succ_self _))
  rw [hplace, he]

theorem find_of_read {bytes : List UInt8} (h : t.read p = .ok bytes) :
    t.find p = .ok (.file bytes) := by
  obtain ⟨e, hfind, he⟩ := Outcome.bind_eq_ok.1 h
  cases e with
  | file content =>
      cases he
      exact hfind
  | link target => cases he
  | directory entries => cases he

theorem probe_eq_ok_iff : t.probe p = .ok () ↔ t.find p ≠ .error .tooLong := by
  unfold probe
  split
  next hlong => simp [hlong]
  next hother => simpa using hother

theorem exists_probe_eq_error_iff :
    (∃ escape, t.probe p = .error escape) ↔ t.find p = .error .tooLong := by
  unfold probe
  split
  next hlong => simp [hlong]
  next hother => simpa using hother

theorem resolve_eq_ok_iff {place : Path} :
    t.resolve p = .ok place ↔
      p.hasNul = false ∧ t.find (t.placeOf p) ≠ .error .tooManyLinks ∧
      place = t.placeOf p := by
  unfold resolve
  split
  next hnul => simp [hnul]
  next hnul =>
    split
    next hcircle => simp [hcircle]
    next hother =>
      have hcircle : t.find (t.placeOf p) ≠ .error .tooManyLinks := hother
      simp [hnul, hcircle, @eq_comm _ place]

theorem exists_resolve_eq_error_iff :
    (∃ escape, t.resolve p = .error escape) ↔
      p.hasNul = true ∨ t.find (t.placeOf p) = .error .tooManyLinks := by
  unfold resolve
  split
  next hnul => simp [hnul]
  next hnul =>
    split
    next hcircle => simp [hcircle]
    next hother => simpa [hnul] using hother

end FileTree

end Purity
