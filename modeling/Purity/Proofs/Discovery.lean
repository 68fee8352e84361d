/-
The discovery of source files. A given path stands for itself, if it is a
source file, or for what lies below the directory that it leads to
(`FileTree.Below`). The two are not decided alike: a path that is given has
to lead to a file and to have the suffix, but of a path below a directory
only the last name is looked at (`mem_sources`). So the source files among
the paths are all found, and with them everything else below a directory
whose name ends like theirs: directories, links to directories or to
nothing, and a file whose name is the suffix alone.

The list is strictly ascending (`pairwise_sources`) and so depends on
nothing but its members (`sources_congr`). It holds only source files
exactly if it is found again from itself (`findSources_self_iff`): what is no
source file would have to lie below something shorter on the list, which
is none either.

Trees are taken as a file system gives them: a directory has each name
once, and no name has a slash (`FileTree.wellNamed`).
-/
import Mathlib.Data.List.Sort
import Mathlib.Data.String.Basic
import Purity.Proofs.FileName

namespace Purity

-- ============================================================== the order

namespace Path

variable {p q : Path}

/-- The strict order in which paths are listed. -/
def Before (p q : Path) : Prop := List.Lex (· < ·) p.sortKey q.sortKey

instance : Std.Irrefl Before := ⟨fun p => lt_irrefl p.sortKey⟩

instance : Std.Asymm Before :=
  ⟨fun p q => lt_asymm (a := p.sortKey) (b := q.sortKey)⟩

theorem noLater_iff : noLater p q = true ↔ p.sortKey ≤ q.sortKey := by
  have hnot : noLater p q = true ↔ ¬ q.sortKey < p.sortKey := by
    rw [noLater, Bool.not_eq_true', List.lex_eq_false_iff_not_lex]
    simp only [decide_eq_true_eq]
    exact Iff.rfl
  rw [hnot, not_lt]

theorem noLater_trans (p q r : Path) (hpq : noLater p q = true)
    (hqr : noLater q r = true) :
    noLater p r = true :=
  noLater_iff.2 (le_trans (noLater_iff.1 hpq) (noLater_iff.1 hqr))

theorem noLater_total (p q : Path) : (noLater p q || noLater q p) = true := by
  rw [Bool.or_eq_true, noLater_iff, noLater_iff]
  exact le_total _ _

/-- A path without a slash in its names, as every path that is read. -/
def Plain (p : Path) : Prop := ∀ name ∈ p.parts, '/' ∉ name.toList

theorem not_mem_splitSlashes (cs : List Char) :
    ∀ piece ∈ splitSlashes cs, '/' ∉ piece := by
  fun_induction splitSlashes cs with
  | case1 => simp
  | case2 cs ih => simpa using ih
  | case3 c cs hslash hnone ih => simpa using Ne.symm hslash
  | case4 c cs hslash piece pieces hsplit ih =>
      rw [hsplit, List.forall_mem_cons] at ih
      have hpiece : '/' ∉ c :: piece := by simpa [Ne.symm hslash] using ih.1
      exact List.forall_mem_cons.2 ⟨hpiece, ih.2⟩

theorem plain_ofString (s : String) : (ofString s).Plain := by
  intro name hname
  obtain ⟨piece, hpiece, rfl⟩ := List.mem_map.1 (List.mem_filter.1 hname).1
  rw [String.toList_ofList]
  exact not_mem_splitSlashes _ piece hpiece

/-- Plain paths that are sorted alike are the same: no name can be taken
for a root. -/
theorem Plain.eq_of_sortKey (hp : p.Plain) (hq : q.Plain)
    (h : p.sortKey = q.sortKey) : p = q := by
  have hroots : ∀ {r : Path}, r.Plain → "/" ∉ r.parts ∧ "//" ∉ r.parts :=
    fun hr =>
    ⟨fun hmem => hr _ hmem (by decide), fun hmem => hr _ hmem (by decide)⟩
  have hp' := hroots hp
  have hq' := hroots hq
  obtain ⟨proot, pparts⟩ := p
  obtain ⟨qroot, qparts⟩ := q
  cases proot <;> cases qroot <;> simp only [sortKey, rootText] at h
    <;> subst_eqs <;> simp_all

/-- A list in order loses its repetitions and is strictly in order. -/
theorem pairwise_eraseDups {paths : List Path}
    (hsorted : paths.Pairwise fun p q => noLater p q)
    (hplain : ∀ p ∈ paths, p.Plain) : paths.eraseDups.Pairwise Before := by
  -- the rest of the list loses the first path before its turn comes
  induction hlength : paths.length using Nat.strong_induction_on
    generalizing paths with
  | _ n ih =>
    cases paths with
    | nil => exact .nil
    | cons first paths =>
        rw [List.pairwise_cons] at hsorted
        rw [List.forall_mem_cons] at hplain
        rw [List.eraseDups_cons, List.pairwise_cons]
        constructor
        · intro p hp
          obtain ⟨hmem, hne⟩ := List.mem_filter.1 (List.mem_eraseDups.1 hp)
          refine lt_of_le_of_ne (noLater_iff.1 (hsorted.1 p hmem)) ?_
          intro hkey
          have hsame := hplain.1.eq_of_sortKey (hplain.2 p hmem) hkey
          simp [hsame] at hne
        · have hshorter := List.length_filter_le (fun p => !p == first) paths
          rw [List.length_cons] at hlength
          refine ih _ (by omega) (hsorted.2.filter _) ?_ rfl
          intro p hp
          exact hplain.2 p (List.mem_of_mem_filter hp)

-- ============================================================= the suffix

theorem name_child (p : Path) (name : String) :
    (p.child name).name = name := by
  simp [child, Path.name]

theorem endsWith_iff {s ending : String} :
    s.endsWith ending = true ↔ ending.toList <:+ s.toList := by
  simpa using String.Slice.endsWith_string_iff (s := s.toSlice)

theorem ne_dot_of_dotless {cs : List Char} (h : '.' ∉ cs) :
    ∀ c ∈ cs.reverse, decide (c ≠ '.') = true := by
  intro c hc
  have hne : c ≠ '.' := by
    rintro rfl
    exact h (List.mem_reverse.1 hc)
  exact decide_eq_true hne

/-- What follows the last dot of a name. -/
theorem takeWhile_last_dot {first rest : List Char} (hrest : '.' ∉ rest) :
    (first ++ '.' :: rest).reverse.takeWhile (· ≠ '.') = rest.reverse := by
  rw [List.reverse_append, List.reverse_cons, List.append_assoc,
    List.takeWhile_append_of_pos (ne_dot_of_dotless hrest)]
  simp

theorem splitSuffix_of_dot {name : String} {first rest : List Char}
    (hname : name.toList = first ++ '.' :: rest) (hrest : '.' ∉ rest) :
    (splitSuffix name).2
      = if first = [] ∨ rest = [] then "" else "." ++ String.ofList rest := by
  have hstem : (first ++ '.' :: rest).take
      ((first ++ '.' :: rest).length - rest.length - 1) = first := by
    have hlength : (first ++ '.' :: rest).length - rest.length - 1 =
        first.length := by
      simp only [List.length_append, List.length_cons]
      omega
    rw [hlength, List.take_left]
  unfold splitSuffix
  rw [hname]
  simp only [takeWhile_last_dot hrest, List.reverse_reverse, hstem,
    Bool.or_eq_true, List.isEmpty_iff]
  split <;> rfl

theorem splitSuffix_of_dotless {name : String} (h : '.' ∉ name.toList) :
    (splitSuffix name).2 = "" := by
  unfold splitSuffix
  simp only [List.takeWhile_eq_self_iff.2 (ne_dot_of_dotless h)]
  simp

/-- A name has the suffix of a source file if it ends in it and has
something before it. -/
theorem suffix_eq_iff :
    p.suffix = pythonSuffix ↔ p.name.endsWith pythonSuffix = true ∧
    p.name ≠ pythonSuffix := by
  have hsuffix : pythonSuffix.toList = [] ++ '.' :: ['p', 'y'] := by decide
  have hempty : "" ≠ pythonSuffix := by decide
  rw [endsWith_iff, suffix]
  by_cases hdot : '.' ∈ p.name.toList
  · obtain ⟨first, rest, hname, hrest⟩ := Name.exists_last_dot hdot
    have hends : pythonSuffix.toList <:+ p.name.toList ↔
        rest = ['p', 'y'] := by
      rw [hsuffix, hname]
      constructor
      · rintro ⟨start, hstart⟩
        have hsame :=
          congrArg (fun cs => cs.reverse.takeWhile (· ≠ '.')) hstart
        rw [List.nil_append] at hsame
        simp only [takeWhile_last_dot hrest] at hsame
        rw [takeWhile_last_dot (by decide)] at hsame
        exact (List.reverse_injective hsame).symm
      · rintro rfl
        exact List.suffix_append first _
    have hwhole : rest = ['p', 'y'] →
        (p.name = pythonSuffix ↔ first = []) := by
      rintro rfl
      rw [← String.toList_inj, hname, hsuffix]
      exact List.append_left_inj _
    rw [hends, splitSuffix_of_dot hname hrest]
    by_cases hpy : rest = ['p', 'y']
    · have hdotted : "." ++ String.ofList rest = pythonSuffix := by
        rw [hpy]
        decide
      rw [Ne, hwhole hpy, hdotted, and_iff_right hpy]
      by_cases hfirst : first = []
      · simp [hfirst, hempty]
      · simp [hfirst, hpy]
    · refine iff_of_false ?_ fun h => hpy h.1
      split
      next => exact hempty
      next =>
        rw [← String.toList_inj, hsuffix]
        simpa using hpy
  · rw [splitSuffix_of_dotless hdot]
    refine iff_of_false hempty ?_
    rintro ⟨hends, -⟩
    exact hdot (hends.mem (by decide))

end Path

-- ======================================================= below a directory

namespace FileTree

variable {t : FileTree} {e : Entry} {entries : List (String × Entry)}
    {names : List String}
  {name : String} {p q : Path} {paths : List Path}

mutual

/-- Does every directory at or below an entry have each name once, and none
with a slash? -/
def wellNamed : Entry → Bool
  | .directory entries =>
      decide (entries.map Prod.fst).Nodup && wellNamedAll entries
  | _ => true

/-- The same for the entries of a directory, each by itself. -/
def wellNamedAll : List (String × Entry) → Bool
  | [] => true
  | (name, e) :: rest =>
      !name.toList.contains '/' && wellNamed e && wellNamedAll rest

end

theorem wellNamedAll_iff :
    wellNamedAll entries = true ↔ ∀ x ∈ entries, '/' ∉ x.1.toList ∧
    wellNamed x.2 = true := by
  induction entries with
  | nil => simp [wellNamedAll]
  | cons x entries ih => simp [wellNamedAll, ih, and_assoc]

theorem wellNamed_at? {root : Entry} (h : wellNamed root = true)
    (hat : root.at? names = some e) :
    (∀ name ∈ names, '/' ∉ name.toList) ∧ wellNamed e = true := by
  induction names generalizing root with
  | nil =>
      obtain rfl : root = e := Option.some.inj hat
      exact ⟨by simp, h⟩
  | cons name names ih =>
      rw [Entry.at?_cons] at hat
      obtain ⟨below, hbelow, hrest⟩ := Option.bind_eq_some_iff.1 hat
      obtain ⟨entries, rfl, hentry⟩ := Entry.child?_eq_some hbelow
      obtain ⟨before, after, rfl, -⟩ := List.lookup_eq_some_iff.1 hentry
      rw [wellNamed, Bool.and_eq_true, wellNamedAll_iff] at h
      obtain ⟨hname, hnamed⟩ := h.2 (name, below) (by simp)
      obtain ⟨hnames, he⟩ := ih hnamed hrest
      exact ⟨List.forall_mem_cons.2 ⟨hname, hnames⟩, he⟩

/-- One path goes on from another by names that stand below an entry. -/
def Continues (e : Entry) (p q : Path) : Prop :=
  ∃ names, names ≠ [] ∧ (e.at? names).isSome = true ∧
    q = { p with parts := p.parts ++ names }

theorem Continues.exists_entries (h : Continues e p q) :
    ∃ entries, e = .directory entries := by
  obtain ⟨names, hne, hat, -⟩ := h
  obtain ⟨name, names, rfl⟩ := List.exists_cons_of_ne_nil hne
  obtain ⟨last, hlast⟩ := Option.isSome_iff_exists.1 hat
  rw [Entry.at?_cons] at hlast
  obtain ⟨below, hbelow, -⟩ := Option.bind_eq_some_iff.1 hlast
  obtain ⟨entries, rfl, -⟩ := Entry.child?_eq_some hbelow
  exact ⟨entries, rfl⟩

theorem not_continues_nil : ¬ Continues (.directory []) p q := by
  rintro ⟨names, hne, hat, -⟩
  obtain ⟨name, names, rfl⟩ := List.exists_cons_of_ne_nil hne
  rw [Entry.at?_cons] at hat
  cases hat

theorem at?_directory_cons (e : Entry) (rest : List (String × Entry))
    (name other : String) (names : List String) :
    (Entry.directory ((name, e) :: rest)).at? (other :: names) =
        if other = name then e.at? names
        else (Entry.directory rest).at? (other :: names) := by
  rw [Entry.at?_cons, Entry.at?_cons, Entry.child?, Entry.child?,
    List.lookup_cons]
  by_cases hsame : other = name
  · simp [hsame]
  · rw [beq_false_of_ne hsame, if_neg hsame]

/-- What goes on into a directory starts with one of its entries. -/
theorem continues_cons_iff {rest : List (String × Entry)}
    (hnew : name ∉ rest.map Prod.fst) :
    Continues (.directory ((name, e) :: rest)) p q ↔
      q = p.child name ∨ Continues e (p.child name) q ∨
      Continues (.directory rest) p q := by
  constructor
  · rintro ⟨names, hne, hat, rfl⟩
    obtain ⟨other, names, rfl⟩ := List.exists_cons_of_ne_nil hne
    rw [at?_directory_cons] at hat
    split at hat
    next hsame =>
      subst hsame
      by_cases hnames : names = []
      · exact .inl (by rw [hnames]; rfl)
      · exact .inr (.inl ⟨names, hnames, hat, by simp [Path.child]⟩)
    next => exact .inr (.inr ⟨other :: names, hne, hat, rfl⟩)
  · rintro (rfl | ⟨names, -, hat, rfl⟩ | ⟨names, hne, hat, rfl⟩)
    · exact ⟨[name], by simp, by rw [at?_directory_cons, if_pos rfl]; rfl, rfl⟩
    · refine ⟨name :: names, by simp, ?_, by simp [Path.child]⟩
      rw [at?_directory_cons, if_pos rfl]
      exact hat
    · obtain ⟨other, names, rfl⟩ := List.exists_cons_of_ne_nil hne
      have hother : other ≠ name := by
        rintro rfl
        have hnone : rest.lookup other = none := by
          rw [List.lookup_eq_none_iff]
          intro x hx
          exact bne_iff_ne.2 fun hsame => hnew (hsame ▸ List.mem_map_of_mem hx)
        rw [Entry.at?_cons, Entry.child?, hnone] at hat
        cases hat
      refine ⟨other :: names, hne, ?_, rfl⟩
      rw [at?_directory_cons, if_neg hother]
      exact hat

mutual

/-- The paths below an entry are those that go on from it, as far as their
last names end in the text. -/
theorem mem_pathsBelow (ending : String) (p q : Path) :
    (e : Entry) → wellNamed e = true →
    (q ∈ pathsBelow ending p e ↔ q.name.endsWith ending = true ∧
      Continues e p q)
  | .file content, _ => by
      refine iff_of_false (by simp [pathsBelow]) fun h => ?_
      obtain ⟨entries, hentries⟩ := h.2.exists_entries
      cases hentries
  | .link target, _ => by
      refine iff_of_false (by simp [pathsBelow]) fun h => ?_
      obtain ⟨entries, hentries⟩ := h.2.exists_entries
      cases hentries
  | .directory entries, h => by
      rw [wellNamed, Bool.and_eq_true, decide_eq_true_eq] at h
      rw [pathsBelow]
      exact mem_pathsBelowAll ending p q entries h.1 h.2

theorem mem_pathsBelowAll (ending : String) (p q : Path) :
    (entries : List (String × Entry)) →
    (entries.map Prod.fst).Nodup → wellNamedAll entries = true →
    (q ∈ pathsBelowAll ending p entries ↔
      q.name.endsWith ending = true ∧ Continues (.directory entries) p q)
  | [], _, _ =>
      iff_of_false (by simp [pathsBelowAll]) fun h => not_continues_nil h.2
  | (name, e) :: rest, hnodup, hnamed => by
      rw [List.map_cons, List.nodup_cons] at hnodup
      simp only [wellNamedAll, Bool.and_eq_true] at hnamed
      rw [pathsBelowAll, List.mem_append, List.mem_append,
        mem_pathsBelow ending (p.child name) q e hnamed.1.2,
        mem_pathsBelowAll ending p q rest hnodup.2 hnamed.2,
        continues_cons_iff hnodup.1]
      have hown : q ∈ (if name.endsWith ending then [p.child name] else []) ↔
          q.name.endsWith ending = true ∧ q = p.child name := by
        by_cases hq : q = p.child name
        · rw [hq, Path.name_child]
          split <;> simp_all
        · split <;> simp_all
      rw [hown]
      tauto

end

-- ============================================================= discovery

/-- A source file: a path that leads to a file and has the suffix. -/
def IsSource (t : FileTree) (p : Path) : Prop :=
  t.isFile p = true ∧ p.suffix = pythonSuffix

/-- Does one path lie below another? The other leads to a directory, and it
goes on from there by names, without a link on the way. -/
def Below (t : FileTree) (p q : Path) : Prop :=
  ∃ e, t.find p = .ok e ∧ Continues e p q

theorem Below.length_lt (h : t.Below p q) :
    p.parts.length < q.parts.length := by
  obtain ⟨-, -, names, hne, -, rfl⟩ := h
  have hpos := List.length_pos_of_ne_nil hne
  simp only [List.length_append]
  omega

theorem IsSource.not_below (h : t.IsSource p) : ¬ t.Below p q := by
  rintro ⟨e, hfind, hcontinues⟩
  obtain ⟨entries, rfl⟩ := hcontinues.exists_entries
  have hfile := h.1
  rw [isFile, hfind] at hfile
  cases hfile

theorem wellNamed_of_find (hnamed : wellNamed t.root = true)
    (hfind : t.find p = .ok e) :
    wellNamed e = true :=
  (wellNamed_at? hnamed (at?_placeOf hfind)).2

theorem mem_sourcesAt (hnamed : wellNamed t.root = true) :
    q ∈ (t.sourcesAt p).1 ↔
      q = p ∧ t.IsSource p ∨ t.Below p q ∧
      q.name.endsWith pythonSuffix = true := by
  unfold sourcesAt
  split
  next hsource =>
    rw [Bool.and_eq_true, beq_iff_eq] at hsource
    have hsource' : t.IsSource p := hsource
    simp [hsource', hsource'.not_below]
  next hother =>
    rw [Bool.and_eq_true, beq_iff_eq] at hother
    have hother' : ¬ t.IsSource p := hother
    split
    next entries hfind =>
      rw [mem_pathsBelow _ _ _ _ (wellNamed_of_find hnamed hfind)]
      simp [hother', Below, hfind, and_comm]
    next hnone =>
      have hnot : ¬ t.Below p q := by
        rintro ⟨e, hfind, hcontinues⟩
        obtain ⟨entries, rfl⟩ := hcontinues.exists_entries
        exact hnone entries hfind
      simp [hother', hnot]

/-- What is listed: the source files that are given, and below the given
paths everything whose name ends like that of a source file. -/
theorem mem_sources (hnamed : wellNamed t.root = true) :
    q ∈ (t.sources paths).1 ↔
      q ∈ paths ∧ t.IsSource q ∨
        (∃ p ∈ paths, t.Below p q) ∧ q.name.endsWith pythonSuffix = true := by
  unfold sources
  simp only [List.mem_eraseDups, List.mem_mergeSort, List.mem_flatMap,
    List.mem_map]
  constructor
  · rintro ⟨-, ⟨p, hp, rfl⟩, hq⟩
    rcases (mem_sourcesAt hnamed).1 hq with ⟨rfl, hsource⟩ | ⟨hbelow, hends⟩
    · exact .inl ⟨hp, hsource⟩
    · exact .inr ⟨⟨p, hp, hbelow⟩, hends⟩
  · rintro (⟨hq, hsource⟩ | ⟨⟨p, hp, hbelow⟩, hends⟩)
    · exact ⟨_, ⟨q, hq, rfl⟩, (mem_sourcesAt hnamed).2 (.inl ⟨rfl, hsource⟩)⟩
    · exact ⟨_, ⟨p, hp, rfl⟩, (mem_sourcesAt hnamed).2 (.inr ⟨hbelow, hends⟩)⟩

theorem plain_of_below (hnamed : wellNamed t.root = true) (hp : p.Plain)
    (h : t.Below p q) :
    q.Plain := by
  obtain ⟨e, hfind, names, -, hat, rfl⟩ := h
  obtain ⟨last, hlast⟩ := Option.isSome_iff_exists.1 hat
  have hnames := (wellNamed_at? (wellNamed_of_find hnamed hfind) hlast).1
  intro name hname
  rcases List.mem_append.1 hname with hname | hname
  · exact hp name hname
  · exact hnames name hname

theorem plain_of_mem_sources (hnamed : wellNamed t.root = true)
    (hplain : ∀ p ∈ paths, p.Plain) :
    ∀ q ∈ (t.sources paths).1, q.Plain := by
  intro q hq
  rcases (mem_sources hnamed).1 hq with ⟨hgiven, -⟩ | ⟨⟨p, hp, hbelow⟩, -⟩
  · exact hplain q hgiven
  · exact plain_of_below hnamed (hplain p hp) hbelow

theorem pairwise_sources (hnamed : wellNamed t.root = true)
    (hplain : ∀ p ∈ paths, p.Plain) :
    (t.sources paths).1.Pairwise Path.Before := by
  refine Path.pairwise_eraseDups
    (List.pairwise_mergeSort Path.noLater_trans Path.noLater_total _) ?_
  intro q hq
  exact plain_of_mem_sources hnamed hplain q (List.mem_eraseDups.2 hq)

theorem forM_probe_eq_ok (h : ∀ p ∈ paths, t.find p ≠ .error .tooLong) :
    paths.forM t.probe = .ok () := by
  induction paths with
  | nil => rfl
  | cons p paths ih =>
      rw [List.forall_mem_cons] at h
      show (t.probe p >>= fun _ => paths.forM t.probe) = _
      rw [probe_eq_ok_iff.2 h.1, Outcome.ok_bind]
      exact ih h.2

theorem forM_probe_eq_error (h : ∃ p ∈ paths, t.find p = .error .tooLong) :
    paths.forM t.probe = .error .longPath := by
  induction paths with
  | nil => simp at h
  | cons p paths ih =>
      show (t.probe p >>= fun _ => paths.forM t.probe) = _
      by_cases hlong : t.find p = .error .tooLong
      · simp [probe, hlong]
      · rw [probe_eq_ok_iff.2 hlong, Outcome.ok_bind]
        exact ih (by simpa [hlong] using h)

theorem findSources_eq_ok (h : ∀ p ∈ paths, t.find p ≠ .error .tooLong) :
    t.findSources paths = .ok (t.sources paths) := by
  rw [findSources, forM_probe_eq_ok h, Outcome.ok_bind, Outcome.pure_eq]

theorem findSources_eq_error (h : ∃ p ∈ paths, t.find p = .error .tooLong) :
    t.findSources paths = .error .longPath := by
  rw [findSources, forM_probe_eq_error h]
  rfl

/-- Below the given paths, nothing but source files has a name that ends
like theirs. -/
def Clean (t : FileTree) (paths : List Path) : Prop :=
  ∀ p ∈ paths, ∀ q, t.Below p q → q.name.endsWith pythonSuffix = true →
    t.IsSource q

theorem clean_iff (hnamed : wellNamed t.root = true) :
    t.Clean paths ↔ ∀ q ∈ (t.sources paths).1, t.IsSource q := by
  constructor
  · intro hclean q hq
    rcases (mem_sources hnamed).1 hq
      with ⟨-, hsource⟩ | ⟨⟨p, hp, hbelow⟩, hends⟩
    · exact hsource
    · exact hclean p hp q hbelow hends
  · intro hall p hp q hbelow hends
    exact hall q ((mem_sources hnamed).2 (.inr ⟨⟨p, hp, hbelow⟩, hends⟩))

/-- Source files are listed if they are given or lie below a given path. -/
theorem mem_sources_of_isSource (hnamed : wellNamed t.root = true)
    (h : t.IsSource q) :
    q ∈ (t.sources paths).1 ↔ q ∈ paths ∨ ∃ p ∈ paths, t.Below p q := by
  rw [mem_sources hnamed, and_iff_left h,
    and_iff_left (Path.suffix_eq_iff.1 h.2).1]

/-- Lists of the same paths give the same list. -/
theorem sources_congr (hnamed : wellNamed t.root = true)
    (hplain : ∀ p ∈ paths, p.Plain) {paths' : List Path}
    (hsame : ∀ p, p ∈ paths' ↔ p ∈ paths) :
    (t.sources paths').1 = (t.sources paths).1 := by
  have hplain' : ∀ p ∈ paths', p.Plain := fun p hp => hplain p ((hsame p).1 hp)
  refine (pairwise_sources hnamed hplain').eq_of_mem_iff
    (pairwise_sources hnamed hplain) ?_
  intro q
  rw [mem_sources hnamed, mem_sources hnamed]
  simp only [hsame]

/-- Source files stand for themselves alone. -/
theorem mem_sources_of_all (hnamed : wellNamed t.root = true)
    (hall : ∀ p ∈ paths, t.IsSource p) :
    q ∈ (t.sources paths).1 ↔ q ∈ paths := by
  rw [mem_sources hnamed]
  constructor
  · rintro (⟨hq, -⟩ | ⟨⟨p, hp, hbelow⟩, -⟩)
    · exact hq
    · exact absurd hbelow (hall p hp).not_below
  · exact fun hq => .inl ⟨hq, hall q hq⟩

/-- A list that is found from itself has only source files: the shortest
of the other paths would lie below a shorter one. -/
theorem isSource_of_mem_sources_self (hnamed : wellNamed t.root = true)
    (hself : ∀ q ∈ paths, q ∈ (t.sources paths).1) :
    ∀ q ∈ paths, t.IsSource q := by
  intro q hq
  induction hlength : q.parts.length using Nat.strong_induction_on
    generalizing q with
  | _ n ih =>
    rcases (mem_sources hnamed).1 (hself q hq)
      with ⟨-, hsource⟩ | ⟨⟨p, hp, hbelow⟩, -⟩
    · exact hsource
    · have hshorter := hbelow.length_lt
      exact absurd hbelow (ih _ (by omega) p hp rfl).not_below

theorem findSources_self_iff (hnamed : wellNamed t.root = true)
    (hplain : ∀ p ∈ paths, p.Plain) (hsorted : paths.Pairwise Path.Before) :
    (t.findSources paths).map Prod.fst = .ok paths ↔
    ∀ q ∈ paths, t.IsSource q := by
  constructor
  · intro hself
    by_cases hlong : ∃ p ∈ paths, t.find p = .error .tooLong
    · rw [findSources_eq_error hlong] at hself
      cases hself
    · rw [findSources_eq_ok (by simpa using hlong)] at hself
      have hsame : (t.sources paths).1 = paths := Except.ok.inj hself
      exact isSource_of_mem_sources_self hnamed fun q hq => hsame.symm ▸ hq
  · intro hall
    have hshort : ∀ p ∈ paths, t.find p ≠ .error .tooLong := by
      intro p hp hlong
      have hfile := (hall p hp).1
      rw [isFile, hlong] at hfile
      cases hfile
    have hsame : (t.sources paths).1 = paths :=
      (pairwise_sources hnamed hplain).eq_of_mem_iff hsorted fun q =>
        mem_sources_of_all hnamed hall
    rw [findSources_eq_ok hshort]
    exact congrArg Except.ok hsame

/-- What discovery gives in a picture of the files, where every directory
can be listed. It ends in a list unless a given path is too long.
The list is strictly ascending and the same for the same paths in any order
and number. Source files are listed just when they are given or lie below a
given path; of other paths, those below whose names end like that of a
source file. So the list has exactly the source files, and is found again
from itself, just when below the given paths only source files have such
names. -/
theorem sources_exact_iff_clean (hnamed : wellNamed t.root = true)
    (hplain : ∀ p ∈ paths, p.Plain) :
    let listed := (t.sources paths).1
    ((∀ p ∈ paths, t.find p ≠ .error .tooLong) →
      t.findSources paths = .ok (t.sources paths)) ∧
    ((∃ p ∈ paths, t.find p = .error .tooLong) →
      t.findSources paths = .error .longPath) ∧
    listed.Pairwise Path.Before ∧
    (∀ paths', (∀ p, p ∈ paths' ↔ p ∈ paths) → (t.sources paths').1 = listed) ∧
    (∀ q, t.IsSource q → (q ∈ listed ↔ q ∈ paths ∨ ∃ p ∈ paths, t.Below p q)) ∧
    (∀ q, ¬ t.IsSource q →
      (q ∈ listed ↔ (∃ p ∈ paths, t.Below p q) ∧
        q.name.endsWith pythonSuffix = true)) ∧
    ((∀ q, q ∈ listed ↔
      t.IsSource q ∧ (q ∈ paths ∨ ∃ p ∈ paths, t.Below p q)) ↔
      t.Clean paths) ∧
    ((t.findSources listed).map Prod.fst = .ok listed ↔ t.Clean paths) := by
  intro listed
  refine ⟨findSources_eq_ok, findSources_eq_error,
    pairwise_sources hnamed hplain, fun paths' => sources_congr hnamed hplain,
    fun q => mem_sources_of_isSource hnamed, ?_, ?_, ?_⟩
  · intro q hother
    rw [mem_sources hnamed]
    simp [hother]
  · rw [clean_iff hnamed]
    constructor
    · intro hexact q hq
      exact ((hexact q).1 hq).1
    · intro hall q
      constructor
      · exact fun hq =>
          ⟨hall q hq, (mem_sources_of_isSource hnamed (hall q hq)).1 hq⟩
      · exact fun ⟨hsource, hoffered⟩ =>
          (mem_sources_of_isSource hnamed hsource).2 hoffered
  · rw [clean_iff hnamed]
    exact findSources_self_iff hnamed (plain_of_mem_sources hnamed hplain)
      (pairwise_sources hnamed hplain)

end FileTree

/-- A directory that is named like a source file, with one in it. -/
def dottedFolder : FileTree where
  root :=
    .directory [("src",
      .directory [("x.py", .directory [("a.py", .file [])])])]
  current := []

theorem find_dottedFolder :
    dottedFolder.find (Path.ofString "/src")
        = .ok (.directory [("x.py", .directory [("a.py", .file [])])]) ∧
      dottedFolder.find (Path.ofString "/src/x.py") =
        .ok (.directory [("a.py", .file [])]) := by
  have hregular : dottedFolder.Regular := by decide
  constructor
  · have hshort : ¬ FileTree.pathLimit <
        (Path.ofString "/src").render.utf8ByteSize := by decide
    have hat : dottedFolder.root.at? (Path.ofString "/src").parts
        = some (.directory [("x.py", .directory [("a.py", .file [])])]) := by
      rfl
    rw [FileTree.find_of_at? hregular rfl hat (by simp), if_neg hshort]
  · have hshort : ¬ FileTree.pathLimit <
        (Path.ofString "/src/x.py").render.utf8ByteSize := by
      decide
    have hat : dottedFolder.root.at? (Path.ofString "/src/x.py").parts
        = some (.directory [("a.py", .file [])]) := by
      rfl
    rw [FileTree.find_of_at? hregular rfl hat (by simp), if_neg hshort]

/-- The directory is listed with the file, and the list is not found again
from itself. -/
theorem dottedFolder_is_listed :
    FileTree.wellNamed dottedFolder.root = true ∧
    (Path.ofString "/src").Plain ∧
      dottedFolder.findSources [Path.ofString "/src"]
        = .ok (dottedFolder.sources [Path.ofString "/src"]) ∧
      Path.ofString "/src/x.py" ∈
        (dottedFolder.sources [Path.ofString "/src"]).1 ∧
      dottedFolder.isFile (Path.ofString "/src/x.py") = false ∧
      (dottedFolder.findSources
        (dottedFolder.sources [Path.ofString "/src"]).1).map Prod.fst
        ≠ .ok (dottedFolder.sources [Path.ofString "/src"]).1 := by
  have hnamed : FileTree.wellNamed dottedFolder.root = true := by decide
  have hplain : ∀ p ∈ [Path.ofString "/src"], p.Plain :=
    List.forall_mem_singleton.2 (Path.plain_ofString _)
  obtain ⟨hsrc, hfolder⟩ := find_dottedFolder
  have hnofile : dottedFolder.isFile (Path.ofString "/src/x.py") = false := by
    rw [FileTree.isFile, hfolder]
  have hnosource : ¬ dottedFolder.IsSource (Path.ofString "/src/x.py") := by
    intro h
    rw [FileTree.IsSource, hnofile] at h
    cases h.1
  have hbelow :
      dottedFolder.Below (Path.ofString "/src") (Path.ofString "/src/x.py") :=
    ⟨_, hsrc, ["x.py"], by simp, by simp [Entry.at?, Entry.child?], by decide⟩
  have hends : (Path.ofString "/src/x.py").name.endsWith pythonSuffix =
      true := by decide +kernel
  obtain ⟨hfound, -, -, -, -, hother, -, hagain⟩ :=
    FileTree.sources_exact_iff_clean hnamed hplain
  have hlisted :=
    (hother _ hnosource).2 ⟨⟨_, List.mem_singleton_self _, hbelow⟩, hends⟩
  refine ⟨hnamed, Path.plain_ofString _, hfound ?_, hlisted, hnofile, ?_⟩
  · simp [hsrc]
  · intro hsame
    exact hnosource
      (hagain.1 hsame _ (List.mem_singleton_self _) _ hbelow hends)

end Purity
