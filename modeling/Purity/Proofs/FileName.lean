/-
The names of source files. A file is named after the packages around its
canonical place, and a file whose name is that of a package's own file adds
nothing to them. So a file has a name unless it passes for the file of a
package in a directory that is none: its name has the right stem and
another suffix (`moduleName_eq_empty_iff`). A link with the suffix of a
source file is all it takes to get there.

That name is the one at which the walk around definitions does not end, and
something is registered under it only if one of the files has it
(`exists_get?_empty_iff`).

Trees are taken as a file system gives them: no name is empty, made of
dots alone, too long or with a character 0, and the current directory is
a directory (`FileTree.Regular`).
-/
import Purity.Proofs.Canonical
import Purity.Proofs.Climb
import Purity.Proofs.Origin

namespace Purity

variable {e : Entry} {names : List String} {name : String}

-- ========================================================= regular trees

namespace FileTree

/-- A name that a file system can give to an entry. -/
def EntryName (name : String) : Prop :=
  Proper name ∧ name.utf8ByteSize ≤ nameLimit ∧ '\x00' ∉ name.toList

instance (name : String) : Decidable (EntryName name) :=
  inferInstanceAs (Decidable (_ ∧ _ ∧ _))

mutual

/-- Can all names below an entry be given by a file system? -/
def regular : Entry → Bool
  | .directory entries => regularAll entries
  | _ => true

/-- The same for the entries of a directory. -/
def regularAll : List (String × Entry) → Bool
  | [] => true
  | (name, e) :: rest =>
      decide (EntryName name) && regular e && regularAll rest

end

/-- A tree as a file system gives it. -/
structure Regular (t : FileTree) : Prop where
  names : regular t.root = true
  current : (t.root.at? t.current).any Entry.isDirectory = true

instance (t : FileTree) : Decidable t.Regular :=
  decidable_of_iff (regular t.root = true ∧
    (t.root.at? t.current).any Entry.isDirectory = true)
    ⟨fun h => ⟨h.1, h.2⟩, fun h => ⟨h.names, h.current⟩⟩

theorem regular_of_lookup {entries : List (String × Entry)}
    (h : regularAll entries = true) (hentry : entries.lookup name = some e) :
    EntryName name ∧ regular e = true := by
  induction entries with
  | nil => cases hentry
  | cons first rest ih =>
      obtain ⟨other, below⟩ := first
      simp only [regularAll, Bool.and_eq_true, decide_eq_true_eq] at h
      rw [List.lookup_cons] at hentry
      split at hentry
      next hsame =>
        obtain rfl := eq_of_beq hsame
        obtain rfl := Option.some.inj hentry
        exact h.1
      next => exact ih h.2 hentry

theorem entryName_of_at? {root : Entry} (h : regular root = true)
    (hat : root.at? names = some e) :
    ∀ name ∈ names, EntryName name := by
  induction names generalizing root with
  | nil => simp
  | cons name names ih =>
      rw [Entry.at?_cons] at hat
      obtain ⟨below, hbelow, hrest⟩ := Option.bind_eq_some_iff.1 hat
      obtain ⟨entries, rfl, hentry⟩ := Entry.child?_eq_some hbelow
      obtain ⟨hname, hregular⟩ := regular_of_lookup h hentry
      exact List.forall_mem_cons.2 ⟨hname, ih hregular hrest⟩

variable {t : FileTree} {p place : Path} {f : Source} {bytes : List UInt8}

-- ================================================== canonical paths again

/-- Names that lead to an entry without links are followed as they stand. -/
theorem follow_of_at? {root : Entry} (hregular : regular root = true)
    {here : List String} (hat : root.at? (here.reverse ++ names) = some e)
    (hlink : ∀ target, e ≠ .link target)
    (links : Nat) :
    follow root links here names = .ok (names.reverse ++ here) := by
  induction names generalizing here with
  | nil => rw [follow]; rfl
  | cons name names ih =>
      have hname := entryName_of_at? hregular hat name (by simp)
      rw [Entry.at?_append] at hat
      obtain ⟨above, habove, hnames⟩ := Option.bind_eq_some_iff.1 hat
      rw [Entry.at?_cons] at hnames
      obtain ⟨below, hbelow, hrest⟩ := Option.bind_eq_some_iff.1 hnames
      obtain ⟨entries, rfl, hentry⟩ := Entry.child?_eq_some hbelow
      have hplain : ∀ target, below ≠ .link target := by
        rintro target rfl
        cases names with
        | nil => exact hlink target (Option.some.inj hrest).symm
        | cons next names => cases hrest
      have hnext : root.at? ((name :: here).reverse ++ names) = some e := by
        rw [Entry.at?_append, Entry.at?_of_directory habove, hentry]
        exact hrest
      rw [follow_proper habove hname.1 hname.2.1, hentry]
      cases below with
      | link target => exact absurd rfl (hplain target)
      | file content => simpa using ih hnext
      | directory entries => simpa using ih hnext

/-- A canonical path leads to what stands at its place, if it is short
enough. -/
theorem find_of_at? (hregular : t.Regular) (hroot : place.root = .single)
    (hat : t.root.at? place.parts = some e)
    (hlink : ∀ target, e ≠ .link target) :
    t.find place =
        if pathLimit < place.render.utf8ByteSize then .error .tooLong
        else .ok e := by
  have hnames := entryName_of_at? hregular.names hat
  have hnul : place.hasNul = false := by
    simpa [Path.hasNul] using fun name hname => (hnames name hname).2.2
  have hstart : t.startOf place = [] := by
    simp [startOf, hroot]
  have hat' : t.root.at? (([] : List String).reverse ++ place.parts) =
      some e := hat
  rw [find_eq, hnul, hstart, follow_of_at? hregular.names hat' hlink]
  simp [hat]

theorem resolve_of_find (hregular : t.Regular)
    (h : t.find p = .ok (.file bytes)) :
    t.resolve p = .ok (t.placeOf p) := by
  have hroot : (t.placeOf p).root = .single := rfl
  have hfind := find_of_at? hregular hroot (at?_placeOf h) (by simp)
  refine resolve_eq_ok_iff.2 ⟨(find_eq_ok_iff.1 h).1, ?_, rfl⟩
  rw [hfind]
  split
  next => simp
  next => simp

-- ============================================================== reading

/-- What a file that was parsed is made of. -/
theorem exists_of_parse (h : t.parse p = .ok (.ok f)) :
    ∃ tree moduleName, t.readModule p = .ok tree ∧
    t.moduleName p = .ok moduleName ∧
      f = { path := p,
            moduleName,
            package := packageOf p moduleName,
            tree } := by
  unfold parse at h
  by_cases hnul : p.hasNul = true
  · simp [hnul] at h
  · simp only [hnul, if_false, Bool.false_eq_true] at h
    cases hmodule : t.readModule p with
    | error failure =>
        rw [hmodule] at h
        cases h
    | ok tree =>
        rw [hmodule] at h
        obtain ⟨name, hname, hsource⟩ := Outcome.bind_eq_ok.1 h
        cases hsource
        exact ⟨tree, name, rfl, hname, rfl⟩

/-- What a file that was parsed went through. -/
theorem exists_read_of_parse (h : t.parse p = .ok (.ok f)) :
    f.path = p ∧ t.moduleName p = .ok f.moduleName ∧
    ∃ bytes, t.read p = .ok bytes := by
  obtain ⟨tree, name, hmodule, hname, rfl⟩ := exists_of_parse h
  obtain ⟨bytes, hbytes, -⟩ := Outcome.bind_eq_ok.1 hmodule
  exact ⟨rfl, hname, bytes, Outcome.mapError_eq_ok.1 hbytes⟩

/-- What the name of a file goes through. -/
theorem moduleName_eq_ok_iff :
    t.moduleName p = .ok name ↔
      ∃ place, t.resolve p = .ok place ∧
      t.find (place.parent.child packageFile) ≠ .error .tooLong ∧
        place.parent.ancestry.all t.isPackage = false ∧
        name = t.nameAt place := by
  unfold moduleName
  rw [Outcome.bind_eq_ok]
  refine exists_congr fun place => and_congr_right fun _ => ?_
  rw [← probe_eq_ok_iff]
  cases hall : place.parent.ancestry.all t.isPackage with
  | true => simp
  | false => simp [@eq_comm _ name]

end FileTree

-- ================================================================ names

namespace Path

theorem stem_ne_empty {p : Path} (h : p.name ≠ "") : p.stem ≠ "" := by
  unfold stem splitSuffix
  simp only
  split
  next => exact h
  next hboth =>
    intro hempty
    rw [Bool.or_eq_true, not_or, List.isEmpty_iff] at hboth
    exact hboth.1 (String.ofList_eq_empty_iff.1 hempty)

theorem child_name (p : Path) (h : p.parts ≠ []) :
    p.parent.child p.name = p := by
  obtain ⟨root, parts⟩ := p
  simp [parent, child, name, List.getLast?_eq_some_getLast h,
    List.dropLast_append_getLast h]

theorem ancestry_eq (p : Path) :
    p.ancestry = p :: (List.range p.parts.length).reverse.map fun n =>
      { p with parts := p.parts.take n } := by
  unfold ancestry
  rw [List.range_succ, List.reverse_concat, List.map_cons, List.take_length]

end Path

namespace FileTree

variable {t : FileTree} {p place : Path} {f : Source} {bytes : List UInt8}

/-- Does a file pass for the file of a package in a directory that is none? -/
def PosesAsPackage (t : FileTree) (place : Path) : Prop :=
  place.stem = "__init__" ∧ place.name ≠ packageFile ∧
    t.isPackage place.parent = false

theorem nameAt_eq_empty_iff (hname : place.name ≠ "")
    (hparent : place.parent.parts ≠ [] → place.parent.name ≠ "")
    (hall : place.parent.ancestry.all t.isPackage = false) :
    t.nameAt place = "" ↔
    place.stem = "__init__" ∧ t.isPackage place.parent = false := by
  unfold nameAt
  rw [Path.ancestry_eq] at hall ⊢
  simp only [Name.join_eq_empty, List.mem_append, List.mem_reverse]
  constructor
  · intro hempty
    constructor
    · by_contra hstem
      exact Path.stem_ne_empty hname (hempty _ (.inr (by simp [hstem])))
    · cases hpackage : t.isPackage place.parent with
      | false => rfl
      | true =>
          -- a package without a name is the root, and then all directories
          -- are packages
          have hroot : place.parent.parts = [] := by
            by_contra hne
            exact hparent hne (hempty _ (.inl (by simp [hpackage])))
          simp [hpackage, hroot] at hall
  · rintro ⟨hstem, hpackage⟩ x hx
    simp [hstem, hpackage] at hx

theorem Regular.parts_ne_nil (hregular : t.Regular)
    (hat : t.root.at? place.parts = some (.file bytes)) :
    place.parts ≠ [] := by
  intro hnil
  rw [hnil] at hat
  obtain hroot : t.root = .file bytes := Option.some.inj hat
  have hcurrent := hregular.current
  rw [hroot] at hcurrent
  cases hnames : t.current with
  | nil =>
      rw [hnames] at hcurrent
      cases hcurrent
  | cons name names =>
      rw [hnames] at hcurrent
      cases hcurrent

theorem name_ne_empty (hnames : ∀ name ∈ place.parts, EntryName name)
    (hne : place.parts ≠ []) :
    place.name ≠ "" := by
  unfold Path.name
  rw [List.getLast?_eq_some_getLast hne]
  exact (hnames _ (List.getLast_mem hne)).1.1

/-- A file that was parsed has no name when it passes for the file of a
package in a directory that is none. -/
theorem moduleName_eq_empty_iff (hregular : t.Regular)
    (h : t.parse p = .ok (.ok f)) :
    ∃ place bytes, t.resolve p = .ok place ∧
    t.root.at? place.parts = some (.file bytes) ∧
      t.read p = .ok bytes ∧ (f.moduleName = "" ↔ t.PosesAsPackage place) := by
  obtain ⟨-, hmodule, bytes, hread⟩ := exists_read_of_parse h
  have hat := at?_placeOf (find_of_read hread)
  have hresolve := resolve_of_find hregular (find_of_read hread)
  obtain ⟨place, hplace, hprobe, hall, hname⟩ := moduleName_eq_ok_iff.1 hmodule
  obtain rfl : t.placeOf p = place :=
    Except.ok.inj (hresolve.symm.trans hplace)
  have hnames := entryName_of_at? hregular.names hat
  have hne := hregular.parts_ne_nil hat
  have hparent : (t.placeOf p).parent.parts ≠ [] →
      (t.placeOf p).parent.name ≠ "" :=
    name_ne_empty fun name hmem => hnames name (List.mem_of_mem_dropLast hmem)
  refine ⟨t.placeOf p, bytes, hresolve, hat, hread, ?_⟩
  rw [hname, nameAt_eq_empty_iff (name_ne_empty hnames hne) hparent hall]
  constructor
  · rintro ⟨hstem, hpackage⟩
    refine ⟨hstem, ?_, hpackage⟩
    intro hown
    -- a file of that name would make its directory a package
    have hself : (t.placeOf p).parent.child packageFile = t.placeOf p := by
      rw [← hown]
      exact Path.child_name _ hne
    have hfind := find_of_at? hregular rfl hat (by simp)
    rw [hself, hfind] at hprobe
    have hshort : ¬ pathLimit < (t.placeOf p).render.utf8ByteSize := by
      intro hlong
      simp [hlong] at hprobe
    simp [isPackage, hself, isFile, hfind, hshort] at hpackage
  · rintro ⟨hstem, -, hpackage⟩
    exact ⟨hstem, hpackage⟩

end FileTree

-- ================================================================= walks

/-- Something is registered under the empty name if a file has it. -/
theorem exists_get?_empty_iff {config : Config} {files : List Source} :
    (∃ d, (runChecks config files).1.registry.get? "" = some d) ↔
    ∃ f ∈ files, f.moduleName = "" := by
  rw [← Option.isSome_iff_exists, get?_runChecks, List.findSome?_isSome_iff]
  simp only [List.mem_reverse]
  constructor
  · rintro ⟨f, hf, hsome⟩
    refine ⟨f, hf, ?_⟩
    by_contra hname
    have hnone :=
      Context.get?_empty_collect
        (c := f.context config (definedNames files)) hname
    rw [Source.records, hnone] at hsome
    cases hsome
  · rintro ⟨f, hf, hname⟩
    refine ⟨f, hf, ?_⟩
    have hsome :=
      Context.isSome_get?_moduleName (f.context config (definedNames files))
    obtain ⟨charged, -, -, hcollect⟩ :=
      (f.context config (definedNames files)).exists_withCalls_collect
        f.moduleName
    rw [Source.records, ← hname, hcollect, Option.isSome_map]
    exact hsome

/-- The walks around the definitions of a regular tree end unless an
unmarked file has no name, and a file has none only when it passes for the
file of a package that is not there. -/
theorem files_named_unless_posing {t : FileTree} (hregular : t.Regular)
    {files : List Source} (hfiles : ∀ f ∈ files, ∃ p, t.parse p = .ok (.ok f))
    (config : Config) :
    (∀ f ∈ files, ∃ place bytes, t.resolve f.path = .ok place ∧
      t.root.at? place.parts = some (.file bytes) ∧ t.read f.path = .ok bytes ∧
      (f.moduleName = "" ↔ t.PosesAsPackage place)) ∧
    ((∃ d, (runChecks config files).1.registry.get? "" = some d) ↔
      ∃ f ∈ files, f.moduleName = "") ∧
    ((runChecks config files).1.registry.Stuck ↔
      ∃ d, (runChecks config files).1.registry.get? "" = some d ∧
      d.marked = false) := by
  refine ⟨?_, exists_get?_empty_iff,
    Registry.stuck_iff (keyed_runChecks config files)⟩
  intro f hf
  obtain ⟨p, hparse⟩ := hfiles f hf
  obtain ⟨rfl, -⟩ := FileTree.exists_read_of_parse hparse
  exact FileTree.moduleName_eq_empty_iff hregular hparse

-- ========================================================= small trees

namespace FileTree

variable {t : FileTree} {entries : List (String × Entry)} {target : String}
    {bytes : List UInt8}

/-- A link at the root leads to the file that its target names. -/
theorem find_of_link (hregular : t.Regular)
    (hroot : t.root = .directory entries) (hcurrent : t.current = [])
    (hentry : entries.lookup name = some (.link target))
    (hat : t.root.at? (targetNames target) = some (.file bytes)) :
    t.find ⟨.relative, [name]⟩ = .ok (.file bytes) := by
  have hname : EntryName name := by
    have hlink : t.root.at? [name] = some (.link target) := by
      rw [hroot, Entry.at?_cons]
      simp [Entry.child?, hentry, Entry.at?]
    exact entryName_of_at? hregular.names hlink name
      (List.mem_singleton_self _)
  have hshort : (Path.mk .relative [name]).render.utf8ByteSize ≤
      pathLimit := by
    have hrender : (Path.mk .relative [name]).render = name := by
      simp [Path.render, Path.rootText]
    rw [hrender]
    exact Nat.le_trans hname.2.1 (by decide)
  have hfollow : follow t.root linkLimit (t.startOf ⟨.relative, [name]⟩) [name]
      = .ok (targetNames target).reverse := by
    have hhere : t.root.at? ([] : List String).reverse =
        some (.directory entries) := by
      rw [hroot]
      rfl
    show follow t.root 40 t.current.reverse [name] = _
    rw [hcurrent, List.reverse_nil, follow_proper hhere hname.1 hname.2.1,
      hentry]
    simp only [linkStart, ite_self, List.append_nil]
    have hat' : t.root.at? (([] : List String).reverse ++ targetNames target)
        = some (.file bytes) := hat
    rw [follow_of_at? hregular.names hat' (by simp) 39, List.append_nil]
  refine find_eq_ok_iff.2 ⟨?_, hshort, _, hfollow, ?_⟩
  · simpa [Path.hasNul] using hname.2.2
  · rw [List.reverse_reverse, hat]

/-- A name that the root does not hold leads nowhere. -/
theorem find_of_lookup_none (hroot : t.root = .directory entries)
    (hname : EntryName name) (hnone : entries.lookup name = none) :
    t.find ⟨.single, [name]⟩ = .error .missing := by
  have hnul : (Path.mk .single [name]).hasNul = false := by
    simpa [Path.hasNul] using hname.2.2
  have hshort : ¬ pathLimit <
      (Path.mk .single [name]).render.utf8ByteSize := by
    have hrender : (Path.mk .single [name]).render = "/" ++ name := by
      simp [Path.render, Path.rootText]
    have hslash : "/".utf8ByteSize = 1 := rfl
    have hlimits : nameLimit + 1 ≤ pathLimit := by decide
    have hsize := hname.2.1
    rw [hrender, String.utf8ByteSize_append]
    omega
  have hhere : t.root.at? ([] : List String).reverse =
      some (.directory entries) := by
    rw [hroot]
    rfl
  have hfollow : follow t.root linkLimit (t.startOf ⟨.single, [name]⟩) [name]
      = .error .missing := by
    show follow t.root 40 [] [name] = _
    rw [follow_proper hhere hname.1 hname.2.1, hnone]
  rw [find_eq, hnul, if_neg hshort, hfollow]
  rfl

end FileTree

/-- A link with the suffix of a source file to a text with the stem of a
package's own file. -/
def lookalike : FileTree where
  root :=
    .directory [("__init__.txt", .file []), ("a.py", .link "__init__.txt")]
  current := []

/-- What is parsed at the link. -/
def lookalikeSource : Source :=
  { path := ⟨.relative, ["a.py"]⟩, moduleName := "", package := "",
    tree := ⟨[]⟩ }

/-- Where the link leads. -/
def lookalikePlace : Path := ⟨.single, ["__init__.txt"]⟩

theorem regular_lookalike : lookalike.Regular := by decide

theorem find_lookalikeSource :
    lookalike.find lookalikeSource.path = .ok (.file []) := by
  have hentry : List.lookup "a.py" [("__init__.txt", Entry.file []),
      ("a.py", .link "__init__.txt")]
      = some (.link "__init__.txt") := by simp [List.lookup_cons]
  have htarget :
      FileTree.targetNames "__init__.txt" = ["__init__.txt"] := by decide
  have hat : lookalike.root.at? (FileTree.targetNames "__init__.txt") =
      some (.file []) := by
    rw [htarget]
    simp [lookalike, Entry.at?, Entry.child?]
  exact FileTree.find_of_link regular_lookalike rfl rfl hentry hat

theorem find_lookalike :
    lookalike.find (lookalikePlace.parent.child packageFile) =
      .error .missing :=
  FileTree.find_of_lookup_none rfl (by decide)
    (by simp [packageFile, List.lookup_cons])

theorem moduleName_lookalike :
    lookalike.moduleName lookalikeSource.path = .ok "" := by
  have hpackage : lookalike.isPackage lookalikePlace.parent = false := by
    simp [FileTree.isPackage, FileTree.isFile, find_lookalike]
  have hall : lookalikePlace.parent.ancestry.all lookalike.isPackage =
      false := by
    simp [Path.ancestry_eq, hpackage]
  have hplace : lookalike.placeOf lookalikeSource.path =
      lookalikePlace := by decide +kernel
  have hresolve :=
    FileTree.resolve_of_find regular_lookalike find_lookalikeSource
  have hname : lookalike.nameAt lookalikePlace = "" := by
    refine (FileTree.nameAt_eq_empty_iff ?_ ?_ hall).2 ⟨?_, hpackage⟩
    · decide
    · decide
    · decide
  refine FileTree.moduleName_eq_ok_iff.2 ⟨lookalikePlace, hplace ▸ hresolve,
    ?_, hall, hname.symm⟩
  rw [find_lookalike]
  simp

/-- The one token of an empty text. -/
def endToken : Token :=
  { kind := .endOfText, line := 1, endLine := 1, column := 0, depth := 0,
    index := 0 }

theorem fileTokens_empty : Lexer.fileTokens "" = [endToken] := by
  have hlines : Lexer.sourceLines "".toList = ['\n'] := by decide
  have hrun : Lexer.run 2 {} ['\n'] [] = [endToken] :=
    calc Lexer.run 2 {} ['\n'] []
        = Lexer.run.go 1 { atLineStart := false } true ['\n'] [] := by
          rw [Lexer.run]; rfl
      _ = Lexer.run 1 { line := 2 } [] [] := by rw [Lexer.run.go]; rfl
      _ = Lexer.run.go 0 { line := 2, atLineStart := false } false [] [] := by
          rw [Lexer.run]; rfl
      _ = [endToken] := by rw [Lexer.run.go]; rfl
  unfold Lexer.fileTokens Lexer.tokensFrom
  rw [hlines]
  exact congrArg List.reverse hrun

theorem parse_empty : Module.parse "" = .ok ⟨[]⟩ := by
  have hnul : "".contains '\x00' = false := by simp
  unfold Module.parse
  rw [hnul, fileTokens_empty]
  rfl

/-- A file without text is parsed as soon as it has a name. -/
theorem FileTree.parse_of_empty {t : FileTree} {p : Path} {moduleName : String}
    (hfind : t.find p = .ok (.file []))
    (hname : t.moduleName p = .ok moduleName) :
    t.parse p
      = .ok (.ok { path := p,
                   moduleName,
                   package := packageOf p moduleName,
                   tree := ⟨[]⟩ }) := by
  have hread : t.read p = .ok [] := by
    simp [FileTree.read, hfind]
  have hmodule : t.readModule p = .ok ⟨[]⟩ := by
    unfold FileTree.readModule
    rw [hread]
    exact congrArg (Except.mapError _) parse_empty
  have hnul : p.hasNul = false := (FileTree.find_eq_ok_iff.1 hfind).1
  unfold FileTree.parse
  rw [hnul, hmodule, hname]
  rfl

theorem parse_lookalike :
    lookalike.parse lookalikeSource.path = .ok (.ok lookalikeSource) :=
  FileTree.parse_of_empty find_lookalikeSource moduleName_lookalike

/-- The file behind the link has no name, and the walk from it does not end. -/
theorem lookalike_stalls_walks :
    lookalike.Regular ∧
    lookalike.parse lookalikeSource.path = .ok (.ok lookalikeSource) ∧
      (∃ place, lookalike.resolve lookalikeSource.path = .ok place ∧
        lookalike.PosesAsPackage place) ∧
      (runChecks {} [lookalikeSource]).1.registry.Stuck := by
  have hfiles : ∀ f ∈ [lookalikeSource], ∃ p, lookalike.parse p =
      .ok (.ok f) := by
    intro f hf
    obtain rfl := List.mem_singleton.1 hf
    exact ⟨_, parse_lookalike⟩
  obtain ⟨hnamed, -, hstuck⟩ :=
    files_named_unless_posing regular_lookalike hfiles {}
  obtain ⟨place, -, hresolve, -, -, hposes⟩ :=
    hnamed lookalikeSource (List.mem_singleton_self _)
  refine ⟨regular_lookalike, parse_lookalike, ⟨place, hresolve, hposes.1 rfl⟩,
    hstuck.2 ?_⟩
  have hflag : ((runChecks {} [lookalikeSource]).1.registry.get? "").map
      Definition.marked
      = some false := by decide +kernel
  exact Option.map_eq_some_iff.1 hflag

end Purity
