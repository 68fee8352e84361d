/-
The package of a file. The packages around a directory are the longest run
of directories that are packages, one inside the other, with the directory
as the last (`FileTree.PackageRun`); there is one such run unless the way
up never leaves a package (`exists_packageRun`, `PackageRun.unique`).

The module of a file is named after the run around its canonical place and
its own stem (`nameAt_eq`). The package is cut from that name at its last
dot, and by the name of the path that was given, not of the file that it
leads to. Both have their exceptions: a file that only has the stem of a
package's own file (`nameAt_eq_iff`), and links to or from such a file
and stems with dots (`packageOf_eq_iff`).
-/
import Purity.Proofs.FileName

namespace Purity

-- ========================================================== cutting names

namespace Name

theorem parentChars_eq_nil_iff {cs : List Char} :
    parentChars cs = [] ↔ '.' ∉ cs.tail := by
  by_cases hdot : '.' ∈ cs
  · obtain ⟨first, rest, rfl, hrest⟩ := exists_last_dot hdot
    rw [parentChars_append hrest]
    cases first with
    | nil => simpa using hrest
    | cons c first => simp
  · have htail : '.' ∉ cs.tail := fun h => hdot (List.mem_of_mem_tail h)
    exact iff_of_true (parentChars_eq_nil hdot) htail

/-- Where a part behind a name must have no dot, so that dropping the last
segment takes the part away: anywhere, but for the start of a part that
stands alone. -/
def Dotless (name part : String) : Prop :=
  '.' ∉ (if name = "" then part.toList.tail else part.toList)

theorem parent_join_pair_eq_iff {name part : String} (hpart : part ≠ "") :
    parent (join [name, part]) = name ↔ Dotless name part := by
  unfold Dotless
  by_cases hname : name = ""
  · rw [if_pos hname, hname, join_empty_left, parent,
      String.ofList_eq_empty_iff, parentChars_eq_nil_iff]
  · rw [if_neg hname]
    by_cases hdot : '.' ∈ part.toList
    · -- the last dot is inside the part, so too much is left
      refine iff_of_false ?_ (not_not.2 hdot)
      obtain ⟨first, rest, hsplit, hrest⟩ := exists_last_dot hdot
      have hchars : (name ++ "." ++ part).toList =
          (name.toList ++ '.' :: first) ++ '.' :: rest := by
        simp [hsplit]
      rw [join_pair hname hpart, parent, hchars, parentChars_append hrest]
      intro hsame
      have hlength := congrArg (fun s => s.toList.length) hsame
      simp at hlength
    · exact iff_of_true (parent_join_pair ⟨hpart, hdot⟩ name) hdot

end Name

-- =============================================================== packages

namespace Path

/-- The way up from a directory goes through its parent. -/
theorem ancestry_concat (root : PathRoot) (names : List String)
    (name : String) :
    Path.ancestry ⟨root, names ++ [name]⟩ =
      ⟨root, names ++ [name]⟩ :: Path.ancestry ⟨root, names⟩ := by
  rw [ancestry_eq]
  unfold ancestry
  simp only [List.length_append, List.length_singleton, List.cons.injEq,
    true_and]
  refine List.map_congr_left fun n hn => ?_
  have hle : n ≤ names.length := by
    have := List.mem_range.1 (List.mem_reverse.1 hn)
    omega
  rw [List.take_append_of_le_length hle]

end Path

namespace FileTree

variable {t : FileTree} {p place directory : Path} {f : Source}
    {above run : List String}

/-- The packages around a directory: the names of the longest run of
directories that are packages, each inside the one before it, with the
directory as the last. -/
structure PackageRun (t : FileTree) (directory : Path)
    (above run : List String) : Prop where
  names : directory.parts = above ++ run
  packages : ∀ first, first ≠ [] → first <+: run →
    t.isPackage { directory with parts := above ++ first } = true
  ends : t.isPackage { directory with parts := above } = false

theorem PackageRun.unique {above' run' : List String}
    (h : t.PackageRun directory above run)
    (h' : t.PackageRun directory above' run') :
    above = above' ∧ run = run' := by
  -- the longer of two runs would go through the end of the other
  have hends : ∀ {above run above' run' first : List String},
      t.PackageRun directory above run →
      t.PackageRun directory above' run' → above' = above ++ first →
      run = first ++ run' →
      first = [] := by
    intro above run above' run' first h h' habove hrun
    by_contra hfirst
    have hpackage := h.packages first hfirst ⟨run', hrun.symm⟩
    rw [← habove, h'.ends] at hpackage
    cases hpackage
  have hnames : above ++ run = above' ++ run' := h.names.symm.trans h'.names
  rcases List.append_eq_append_iff.1 hnames
    with ⟨first, habove, hrun⟩ | ⟨first, habove, hrun⟩
  · obtain rfl := hends h h' habove hrun
    exact ⟨by simpa using habove.symm, by simpa using hrun⟩
  · obtain rfl := hends h' h habove hrun
    exact ⟨by simpa using habove, by simpa using hrun.symm⟩

theorem PackageRun.nil (h : t.isPackage directory = false) :
    t.PackageRun directory directory.parts [] where
  names := (List.append_nil _).symm
  packages _ hne hpre := absurd (List.prefix_nil.1 hpre) hne
  ends := h

theorem PackageRun.concat {root : PathRoot} {name : String}
    (h : t.PackageRun ⟨root, above ++ run⟩ above run)
    (hpackage : t.isPackage ⟨root, above ++ run ++ [name]⟩ = true) :
    t.PackageRun ⟨root, above ++ run ++ [name]⟩ above (run ++ [name]) where
  names := List.append_assoc ..
  packages first hne hpre := by
    rcases List.prefix_concat_iff.1 hpre with rfl | hpre
    · rw [List.append_assoc] at hpackage
      exact hpackage
    · exact h.packages first hne hpre
  ends := h.ends

/-- A way up that leaves all packages starts with a run of them. -/
theorem exists_packageRun (root : PathRoot) (names : List String)
    (h : (Path.ancestry ⟨root, names⟩).all t.isPackage = false) :
    ∃ above run, t.PackageRun ⟨root, names⟩ above run := by
  induction names using List.reverseRecOn with
  | nil =>
      refine ⟨[], [], .nil ?_⟩
      rw [Path.ancestry_eq] at h
      simpa using h
  | append_singleton names name ih =>
      cases hpackage : t.isPackage ⟨root, names ++ [name]⟩ with
      | false => exact ⟨_, _, .nil hpackage⟩
      | true =>
          rw [Path.ancestry_concat, List.all_cons, hpackage,
            Bool.true_and] at h
          obtain ⟨above, run, hrun⟩ := ih h
          obtain rfl : names = above ++ run := hrun.names
          exact ⟨above, run ++ [name], hrun.concat hpackage⟩

/-- The names taken on the way up are those of the run. -/
theorem packages_eq_run (h : t.PackageRun directory above run) :
    ((directory.ancestry.takeWhile t.isPackage).map Path.name).reverse =
      run := by
  obtain ⟨root, names⟩ := directory
  obtain rfl : names = above ++ run := h.names
  induction run using List.reverseRecOn with
  | nil =>
      have hends : t.isPackage ⟨root, above⟩ = false := h.ends
      rw [List.append_nil, Path.ancestry_eq,
        List.takeWhile_cons_of_neg (by simp [hends])]
      rfl
  | append_singleton run name ih =>
      have hpackage : t.isPackage ⟨root, above ++ run ++ [name]⟩ = true := by
        rw [List.append_assoc]
        exact h.packages _ (by simp) (List.prefix_refl _)
      have hinner : t.PackageRun ⟨root, above ++ run⟩ above run :=
        ⟨rfl, fun first hne hpre =>
          h.packages first hne (hpre.trans (List.prefix_append _ _)), h.ends⟩
      rw [← List.append_assoc, Path.ancestry_concat,
        List.takeWhile_cons_of_pos hpackage, List.map_cons, List.reverse_cons,
        ih hinner]
      simp [Path.name]

/-- A file is named after the packages around it and its own stem. -/
theorem nameAt_eq (h : t.PackageRun place.parent above run) :
    t.nameAt place = Name.join (run ++
      if place.stem = "__init__" then [] else [place.stem]) := by
  unfold nameAt
  simp only [packages_eq_run h]

theorem stem_of_name (h : place.name = packageFile) :
    place.stem = "__init__" := by
  unfold Path.stem
  rw [h]
  decide

theorem nameAt_eq_iff (h : t.PackageRun place.parent above run) :
    t.nameAt place =
          (if place.name = packageFile then Name.join run
           else Name.join (run ++ [place.stem])) ↔
      (place.stem = "__init__" → place.name = packageFile) := by
  rw [nameAt_eq h]
  by_cases hname : place.name = packageFile
  · simp [hname, stem_of_name hname]
  · by_cases hstem : place.stem = "__init__"
    · rw [if_pos hstem, if_neg hname, List.append_nil, Name.join_concat]
      refine iff_of_false ?_ fun hall => hname (hall hstem)
      have hne : place.stem ≠ "" := by
        rw [hstem]
        decide
      exact (Name.join_pair_ne hne).symm
    · simp [hname, hstem]

/-- Does the name of a path go with the file that it leads to, so that the
package can be cut from the name of the module? The file of a package has
to be called so in both places, unless there is no package, and any other
file needs a stem that is one segment. -/
def KeepsPackage (p place : Path) (package : String) : Prop :=
  if p.name = packageFile then place.stem = "__init__"
  else if place.stem = "__init__" then package = ""
  else Name.Dotless package place.stem

theorem packageOf_eq_iff (h : t.PackageRun place.parent above run)
    (hstem : place.stem ≠ "") :
    packageOf p (t.nameAt place) = Name.join run ↔
    KeepsPackage p place (Name.join run) := by
  unfold packageOf KeepsPackage
  rw [nameAt_eq h]
  by_cases hname : p.name = packageFile
  · rw [if_pos hname, if_pos hname]
    by_cases hown : place.stem = "__init__"
    · simp [hown]
    · rw [if_neg hown, Name.join_concat]
      exact iff_of_false (Name.join_pair_ne hstem) hown
  · rw [if_neg hname, if_neg hname]
    by_cases hown : place.stem = "__init__"
    · rw [if_pos hown, if_pos hown, List.append_nil]
      constructor
      · intro hsame
        by_contra hne
        have hshorter := Name.length_parent_lt hne
        rw [hsame] at hshorter
        exact Nat.lt_irrefl _ hshorter
      · intro hempty
        rw [hempty]
        rfl
    · rw [if_neg hown, if_neg hown, Name.join_concat]
      exact Name.parent_join_pair_eq_iff hstem

/-- The module name and the package of a file that was parsed, against the
packages around it. The bytes that were read stand at the canonical place
of the path, and one run of packages, and no other, ends at its directory.
The name of the module is that of the run, followed by the stem of the file
unless it is the run's own file, just when no other file has its stem. The
package is that of the run just when the name of the path goes with the
file. -/
theorem package_agrees_iff (hregular : t.Regular)
    (h : t.parse p = .ok (.ok f)) :
    ∃ place bytes above run, t.resolve p = .ok place ∧
      t.root.at? place.parts = some (.file bytes) ∧ t.read p = .ok bytes ∧
      t.PackageRun place.parent above run ∧
      (∀ above' run', t.PackageRun place.parent above' run' →
        above = above' ∧ run = run') ∧
      (f.moduleName =
            (if place.name = packageFile then Name.join run
             else Name.join (run ++ [place.stem])) ↔
        (place.stem = "__init__" → place.name = packageFile)) ∧
      (f.package = Name.join run ↔ KeepsPackage p place (Name.join run)) := by
  obtain ⟨-, -, bytes, hread⟩ := exists_read_of_parse h
  obtain ⟨tree, name, -, hmodule, rfl⟩ := exists_of_parse h
  have hat := at?_placeOf (find_of_read hread)
  have hresolve := resolve_of_find hregular (find_of_read hread)
  obtain ⟨place, hplace, -, hall, rfl⟩ := moduleName_eq_ok_iff.1 hmodule
  obtain rfl : t.placeOf p = place :=
    Except.ok.inj (hresolve.symm.trans hplace)
  have hstem : (t.placeOf p).stem ≠ "" :=
    Path.stem_ne_empty
      (name_ne_empty (entryName_of_at? hregular.names hat)
        (hregular.parts_ne_nil hat))
  obtain ⟨above, run, hrun⟩ := exists_packageRun _ _ hall
  exact ⟨t.placeOf p, bytes, above, run, hresolve, hat, hread, hrun,
    fun _ _ => hrun.unique, nameAt_eq_iff hrun, packageOf_eq_iff hrun hstem⟩

end FileTree

/-- A package, and beside it a link to its own file under another name. -/
def linkedPackage : FileTree where
  root := .directory
    [("a.py", .link "pkg/__init__.py"),
      ("pkg", .directory [("__init__.py", .file [])])]
  current := []

/-- What is parsed at the link. -/
def linkedSource : Source :=
  { path := ⟨.relative, ["a.py"]⟩, moduleName := "pkg", package := "",
    tree := ⟨[]⟩ }

theorem regular_linkedPackage : linkedPackage.Regular := by decide

theorem at?_linkedPackage :
    linkedPackage.root.at? ["pkg", "__init__.py"] = some (.file []) := by
  simp [linkedPackage, Entry.at?, Entry.child?, List.lookup_cons]

theorem find_linkedSource :
    linkedPackage.find linkedSource.path = .ok (.file []) := by
  have hentry : List.lookup "a.py"
      [("a.py", Entry.link "pkg/__init__.py"),
        ("pkg", .directory [("__init__.py", .file [])])]
      = some (.link "pkg/__init__.py") := by simp
  have htarget : FileTree.targetNames "pkg/__init__.py" =
      ["pkg", "__init__.py"] := by decide
  exact FileTree.find_of_link regular_linkedPackage rfl rfl hentry
    (htarget.symm ▸ at?_linkedPackage)

/-- Where the link leads. -/
def linkedPlace : Path := ⟨.single, ["pkg", "__init__.py"]⟩

theorem find_linkedPlace :
    linkedPackage.find linkedPlace = .ok (.file []) := by
  have hshort : ¬ FileTree.pathLimit <
      linkedPlace.render.utf8ByteSize := by decide
  rw [FileTree.find_of_at? regular_linkedPackage rfl at?_linkedPackage
    (by simp), if_neg hshort]

theorem packageRun_linkedPackage :
    linkedPackage.PackageRun linkedPlace.parent [] ["pkg"] := by
  have hinner : linkedPackage.isPackage ⟨.single, [] ++ [] ++ ["pkg"]⟩ =
      true := by
    show linkedPackage.isFile linkedPlace = true
    rw [FileTree.isFile, find_linkedPlace]
  have houter : linkedPackage.isPackage ⟨.single, []⟩ = false := by
    have hfind : linkedPackage.find ⟨.single, [packageFile]⟩ =
        .error .missing :=
      FileTree.find_of_lookup_none rfl (by decide)
        (by simp [packageFile, List.lookup_cons])
    show linkedPackage.isFile ⟨.single, [packageFile]⟩ = false
    rw [FileTree.isFile, hfind]
  have hroot : linkedPackage.PackageRun ⟨.single, [] ++ []⟩ [] [] :=
    .nil houter
  exact hroot.concat hinner

theorem resolve_linkedSource :
    linkedPackage.resolve linkedSource.path = .ok linkedPlace := by
  have hplace : linkedPackage.placeOf linkedSource.path =
      linkedPlace := by decide +kernel
  rw [FileTree.resolve_of_find regular_linkedPackage find_linkedSource, hplace]

theorem moduleName_linkedPackage :
    linkedPackage.moduleName linkedSource.path = .ok "pkg" := by
  refine FileTree.moduleName_eq_ok_iff.2 ⟨linkedPlace, resolve_linkedSource,
    ?_, ?_, ?_⟩
  · show linkedPackage.find linkedPlace ≠ _
    rw [find_linkedPlace]
    simp
  · have hends : linkedPackage.isPackage ⟨.single, []⟩ = false :=
      packageRun_linkedPackage.ends
    rw [List.all_eq_false]
    exact ⟨⟨.single, []⟩, by decide, by simp [hends]⟩
  · rw [FileTree.nameAt_eq packageRun_linkedPackage]
    decide

/-- The module at the link is the package, but its relative imports do not
start there. -/
theorem linkedPackage_disagrees :
    linkedPackage.Regular ∧
    linkedPackage.parse linkedSource.path = .ok (.ok linkedSource) ∧
      linkedPackage.PackageRun linkedPlace.parent [] ["pkg"] ∧
      linkedSource.moduleName = Name.join ["pkg"] ∧
      linkedSource.package ≠ Name.join ["pkg"] := by
  have hparse : linkedPackage.parse linkedSource.path =
      .ok (.ok linkedSource) :=
    FileTree.parse_of_empty find_linkedSource moduleName_linkedPackage
  obtain ⟨place, bytes, above, run, hresolve, -, -, -, hunique, hname,
      hpackage⟩ :=
    FileTree.package_agrees_iff regular_linkedPackage hparse
  obtain rfl : linkedPlace = place :=
    Except.ok.inj (resolve_linkedSource.symm.trans hresolve)
  obtain ⟨rfl, rfl⟩ := hunique [] ["pkg"] packageRun_linkedPackage
  refine ⟨regular_linkedPackage, hparse, packageRun_linkedPackage, ?_, ?_⟩
  · exact hname.2 fun _ => rfl
  · have hother : ¬ linkedSource.path.name = packageFile := by decide
    have hown : linkedPlace.stem = "__init__" := by decide
    rw [Ne, hpackage, FileTree.KeepsPackage, if_neg hother, if_pos hown]
    decide

end Purity
