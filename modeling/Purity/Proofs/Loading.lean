/-
Loading a configuration, and when it gives no answer. Most failures are
values, and the command line reports them. The load as a whole ends
without an answer in two cases only (`configuration_eq_error_iff`): the
place of the file cannot be looked at, or the bytes of the file are not
foreseen. Those are bytes that are the encoding of no text, a document
with an integer that is too long, and a section with a key whose name is
taken. So a file that describes no configuration is reported, unless its
bytes are not foreseen: then nothing is.

The proof goes the way of the load: the settings of a file, of which only
the promises of the validation are used (`Config.ofTable_eq_ok_iff`,
`Config.ofTable_eq_reservedKey_iff`, `Config.exists_key_of_invalid`), its
bytes (`readConfig_eq_error_iff`,
`readConfig_eq_ok_iff`), its place (`findProject_eq_error_iff`), and what
the command line makes of the answer (`runCheck_of_failure`,
`runCheck_of_escape`).
-/
import Purity.CommandLine
import Purity.Proofs.FileName
import Purity.Proofs.Settings
import Purity.Proofs.Utf8

namespace Purity

variable {t : FileTree} {path : Path} {start file : Option Path}
    {bytes : List UInt8}
  {table : Toml.Table} {config : Config}

-- ============================================================= settings

theorem ofTable_nil : Config.ofTable [] = .ok {} := rfl

-- ================================================================ bytes

/-- The bytes of a file hold these settings. -/
def HoldsSettings (path : Path) (bytes : List UInt8) (table : Toml.Table) :
    Prop :=
  ∃ s document, bytes = Text.utf8Bytes s ∧ Toml.parse s = .ok document ∧
    FileTree.settings path document = .ok table

/-- The bytes of a file describe a configuration. -/
def Describes (path : Path) (bytes : List UInt8) (config : Config) : Prop :=
  ∃ table, HoldsSettings path bytes table ∧ config.DescribedBy table

/-- Bytes that are no text, or a text with an integer that is too long, or
one with a setting whose name is taken. -/
def Unforeseen (path : Path) (bytes : List UInt8) : Prop :=
  (∀ s, bytes ≠ Text.utf8Bytes s) ∨
    (∃ s, bytes = Text.utf8Bytes s ∧ Toml.parse s = .error .longInteger) ∨
    ∃ table, HoldsSettings path bytes table ∧ "cls" ∈ table.map Prod.fst

section

variable {s : String}

theorem holdsSettings_utf8Bytes_iff :
    HoldsSettings path (Text.utf8Bytes s) table ↔
      ∃ document, Toml.parse s = .ok document ∧
      FileTree.settings path document = .ok table := by
  constructor
  · rintro ⟨s', document, hbytes, hparse⟩
    obtain rfl := Text.utf8Bytes_inj hbytes
    exact ⟨document, hparse⟩
  · rintro ⟨document, hparse⟩
    exact ⟨s, document, rfl, hparse⟩

theorem unforeseen_utf8Bytes_iff :
    Unforeseen path (Text.utf8Bytes s) ↔
      Toml.parse s = .error .longInteger ∨
        ∃ table, HoldsSettings path (Text.utf8Bytes s) table ∧
        "cls" ∈ table.map Prod.fst := by
  constructor
  · rintro (hnone | ⟨s', hbytes, hparse⟩ | htable)
    · exact absurd rfl (hnone s)
    · obtain rfl := Text.utf8Bytes_inj hbytes
      exact .inl hparse
    · exact .inr htable
  · rintro (hparse | htable)
    · exact .inr (.inl ⟨s, rfl, hparse⟩)
    · exact .inr (.inr htable)

end

namespace FileTree

theorem fromSettings_eq_error_iff {place : Option Path} :
    (∃ escape, fromSettings place table = .error escape) ↔
    "cls" ∈ table.map Prod.fst := by
  rw [← Config.ofTable_eq_reservedKey_iff]
  unfold fromSettings
  split <;> simp_all

theorem fromSettings_eq_ok_iff {place : Option Path} :
    fromSettings place table = .ok (.ok config) ↔
    config.DescribedBy table := by
  rw [← Config.ofTable_eq_ok_iff]
  unfold fromSettings
  split <;> simp_all

/-- Settings that are refused have faults, each at a key of the table. -/
theorem exists_key_of_fromSettings {place place' : Option Path}
    {faults : List Fault}
    (hrefused : fromSettings place table =
      .ok (.error (.invalid place' faults))) :
    faults ≠ [] ∧
      ∀ fault ∈ faults, ∃ key ∈ table.map Prod.fst, fault.location.head? =
        some key := by
  unfold fromSettings at hrefused
  split at hrefused
  next => cases hrefused
  next found hinvalid =>
    cases hrefused
    exact Config.exists_key_of_invalid hinvalid
  next => cases hrefused

/-- Reading a configuration gives no answer when the bytes of the file are
not foreseen. -/
theorem readConfig_eq_error_iff (hread : t.read path = .ok bytes) :
    (∃ escape, t.readConfig path = .error escape) ↔ Unforeseen path bytes := by
  simp only [readConfig, hread]
  cases hdecode : Text.decodeUtf8 bytes with
  | error fault =>
      have hnone : ∀ s, bytes ≠ Text.utf8Bytes s := by
        intro s hs
        rw [Text.decodeUtf8_eq_ok_iff.2 hs] at hdecode
        cases hdecode
      exact ⟨fun _ => .inl hnone, fun _ => ⟨.undecodable fault, rfl⟩⟩
  | ok s =>
      obtain rfl := Text.decodeUtf8_eq_ok_iff.1 hdecode
      rw [unforeseen_utf8Bytes_iff]
      simp only [holdsSettings_utf8Bytes_iff]
      cases hparse : Toml.parse s with
      | error fault =>
          cases fault with
          | malformed => simp
          | longInteger => simp
      | ok document =>
          cases hsettings : settings path document with
          | error e => simp [hsettings]
          | ok table => simp [hsettings, fromSettings_eq_error_iff]

/-- Reading a configuration gives the one that the file describes. -/
theorem readConfig_eq_ok_iff (hread : t.read path = .ok bytes) :
    t.readConfig path = .ok (.ok config) ↔ Describes path bytes config := by
  simp only [readConfig, hread, Describes]
  cases hdecode : Text.decodeUtf8 bytes with
  | error fault =>
      constructor
      · intro h
        cases h
      · rintro ⟨table, ⟨s, document, hbytes, -⟩, -⟩
        rw [Text.decodeUtf8_eq_ok_iff.2 hbytes] at hdecode
        cases hdecode
  | ok s =>
      obtain rfl := Text.decodeUtf8_eq_ok_iff.1 hdecode
      simp only [holdsSettings_utf8Bytes_iff]
      cases hparse : Toml.parse s with
      | error fault =>
          cases fault with
          | malformed => simp
          | longInteger => simp
      | ok document =>
          cases hsettings : settings path document with
          | error e => simp [hsettings]
          | ok table => simp [hsettings, fromSettings_eq_ok_iff]

theorem settings_ne_invalid (path : Path) (document : Toml.Table)
    (place : Option Path) (faults : List Fault) :
    settings path document ≠ .error (.invalid place faults) := by
  unfold settings
  split
  · split <;> exact nofun
  · exact nofun

/-- Settings that are refused are in the file. -/
theorem exists_settings_of_readConfig (hread : t.read path = .ok bytes)
    {place : Option Path} {faults : List Fault}
    (hrefused : t.readConfig path = .ok (.error (.invalid place faults))) :
    ∃ table, HoldsSettings path bytes table ∧
      fromSettings (some path) table =
        .ok (.error (.invalid place faults)) := by
  simp only [readConfig, hread] at hrefused
  split at hrefused
  next => cases hrefused
  next s hdecode =>
    split at hrefused
    next => cases hrefused
    next => cases hrefused
    next document hparse =>
      split at hrefused
      next e hsettings =>
        -- a section that is no table is another error
        cases hrefused
        exact absurd hsettings (settings_ne_invalid path document place faults)
      next table hsettings =>
        exact ⟨table, ⟨s, document, Text.decodeUtf8_eq_ok_iff.1 hdecode,
          hparse, hsettings⟩, hrefused⟩

-- ============================================================ the place

/-- The directory that the search for a project file starts at. -/
def searchStart (t : FileTree) (start : Path) : Path :=
  if t.isDirectory start then start else start.parent

/-- The place of the configuration file cannot be looked at: its path is too
long, or the search for it starts at a path that is too long, holds the
character 0 or leads into a circle of links. -/
def Unplaced (t : FileTree) (start file : Option Path) : Prop :=
  match file with
  | some path => t.find path = .error .tooLong
  | none =>
      let asked := start.getD t.currentPath
      let place := t.placeOf (t.searchStart asked)
      t.find asked = .error .tooLong ∨ (t.searchStart asked).hasNul = true ∨
        t.find place = .error .tooManyLinks ∨
        t.find (place.child projectFile) = .error .tooLong

theorem findProject_eq_error_iff {asked : Path} :
    (∃ escape, t.findProject asked = .error escape) ↔
    t.Unplaced (some asked) none := by
  have hstep : t.findProject asked = (do
      t.probe asked
      let directory ← t.resolve (t.searchStart asked)
      t.probe (directory.child projectFile)
      return t.projectAbove directory) := rfl
  rw [hstep]
  by_cases hlong : t.find asked = .error .tooLong
  · obtain ⟨escape, hprobe⟩ := exists_probe_eq_error_iff.2 hlong
    simp [hprobe, Unplaced, hlong]
  · rw [probe_eq_ok_iff.2 hlong]
    cases hresolve : t.resolve (t.searchStart asked) with
    | error escape =>
        obtain hnul | hcircle :=
          exists_resolve_eq_error_iff.1 ⟨escape, hresolve⟩
        · simp [Unplaced, hnul]
        · simp [Unplaced, hcircle]
    | ok place =>
        obtain ⟨hnul, hcircle, rfl⟩ := resolve_eq_ok_iff.1 hresolve
        simp [Unplaced, hlong, hnul, hcircle, exists_probe_eq_error_iff]

theorem Unplaced.settingsFile_ne (h : t.Unplaced start file)
    {found : Option Path} (hfile : file = none) :
    t.settingsFile start file ≠ .ok found := by
  subst hfile
  obtain ⟨escape, hescape⟩ :
      ∃ escape, t.settingsFile start none = .error escape :=
    findProject_eq_error_iff.2 h
  rw [hescape]
  simp

/-- The bytes of the configuration file, and its path. -/
def ConfiguredBy (t : FileTree) (start file : Option Path) (path : Path)
    (bytes : List UInt8) :
    Prop :=
  t.settingsFile start file = .ok (some path) ∧ t.read path = .ok bytes

theorem exists_read_of_isFile (h : t.isFile path = true) :
    ∃ bytes, t.read path = .ok bytes := by
  unfold isFile at h
  split at h
  next bytes hfind => exact ⟨bytes, by simp [read, hfind]⟩
  next => cases h

/-- A project file that is found can be read. -/
theorem exists_read_of_findProject {asked : Path}
    (h : t.findProject asked = .ok (some path)) :
    ∃ bytes, t.read path = .ok bytes := by
  simp only [findProject, Outcome.bind_eq_ok, Outcome.pure_eq,
    Except.ok.injEq] at h
  obtain ⟨-, -, directory, -, -, -, hfound⟩ := h
  exact exists_read_of_isFile (List.find?_some hfound)

/-- A configuration file is what is read. -/
theorem ConfiguredBy.configuration_eq
    (h : t.ConfiguredBy start file path bytes) :
    t.configuration start file = t.readConfig path := by
  obtain ⟨hsettings, hread⟩ := h
  unfold configuration
  cases file with
  | none =>
      rw [hsettings]
      rfl
  | some given =>
      obtain rfl : given = path := by simpa [settingsFile] using hsettings
      have hfind := find_of_read hread
      have hprobe : t.probe given = .ok () :=
        probe_eq_ok_iff.2 (by simp [hfind])
      simp [hprobe, isFile, hfind]

/-- Without a configuration file the place cannot be looked at, or nothing
was asked for and the defaults are taken, or the file is not there. -/
theorem configuration_of_not_configuredBy
    (h : ∀ path bytes, ¬ t.ConfiguredBy start file path bytes) :
    (t.Unplaced start file ∧
      ∃ escape, t.configuration start file = .error escape) ∨
      ¬ t.Unplaced start file ∧
        (t.settingsFile start file = .ok none ∧
          t.configuration start file = .ok (.ok {}) ∨
          ∃ path, file = some path ∧
          t.configuration start file = .ok (.error (.notFound path))) := by
  cases file with
  | some path =>
      have hfile : t.isFile path = false := by
        cases hfile : t.isFile path with
        | false => rfl
        | true =>
            obtain ⟨bytes, hread⟩ := exists_read_of_isFile hfile
            exact absurd ⟨rfl, hread⟩ (h path bytes)
      by_cases hlong : t.find path = .error .tooLong
      · obtain ⟨escape, hprobe⟩ := exists_probe_eq_error_iff.2 hlong
        exact .inl ⟨hlong, escape, by simp [configuration, hprobe]⟩
      · refine .inr ⟨hlong, .inr ⟨path, rfl, ?_⟩⟩
        simp [configuration, probe_eq_ok_iff.2 hlong, hfile]
  | none =>
      have hplaced : t.Unplaced start none ↔
          ∃ escape, t.settingsFile start none = .error escape :=
            findProject_eq_error_iff.symm
      cases hsettings : t.settingsFile start none with
      | error escape =>
          exact .inl ⟨hplaced.2 ⟨escape, hsettings⟩,
            escape, by simp [configuration, hsettings]⟩
      | ok found =>
          refine .inr ⟨by simp [hplaced, hsettings], .inl ?_⟩
          cases found with
          | none =>
              exact ⟨rfl, by simp [configuration, hsettings, fromSettings,
                ofTable_nil]⟩
          | some path =>
              obtain ⟨bytes, hread⟩ := exists_read_of_findProject hsettings
              exact absurd ⟨hsettings, hread⟩ (h path bytes)

theorem ConfiguredBy.not_unplaced (h : t.ConfiguredBy start file path bytes) :
    ¬ t.Unplaced start file := by
  intro hplace
  obtain ⟨hsettings, hread⟩ := h
  cases file with
  | none => exact hplace.settingsFile_ne rfl hsettings
  | some given =>
      obtain rfl : given = path := by simpa [settingsFile] using hsettings
      have hlong : t.find given = .error .tooLong := hplace
      rw [find_of_read hread] at hlong
      cases hlong

/-- There is one configuration file at most. -/
theorem ConfiguredBy.exists_and_iff {P : Path → List UInt8 → Prop}
    (h : t.ConfiguredBy start file path bytes) :
    (∃ path bytes, t.ConfiguredBy start file path bytes ∧ P path bytes) ↔
    P path bytes := by
  constructor
  · rintro ⟨path', bytes', h', hP⟩
    obtain rfl := Option.some.inj (Except.ok.inj (h'.1.symm.trans h.1))
    obtain rfl := Except.ok.inj (h'.2.symm.trans h.2)
    exact hP
  · exact fun hP => ⟨path, bytes, h, hP⟩

/-- Loading gives no answer in two cases. -/
theorem configuration_eq_error_iff :
    (∃ escape, t.configuration start file = .error escape) ↔
      t.Unplaced start file ∨
        ∃ path bytes, t.ConfiguredBy start file path bytes ∧
        Unforeseen path bytes := by
  by_cases hfile : ∃ path bytes, t.ConfiguredBy start file path bytes
  · obtain ⟨path, bytes, h⟩ := hfile
    rw [h.configuration_eq, readConfig_eq_error_iff h.2, h.exists_and_iff]
    simp [h.not_unplaced]
  · have hnone : ∀ path bytes, ¬ t.ConfiguredBy start file path bytes :=
      fun path bytes h => hfile ⟨path, bytes, h⟩
    obtain ⟨hplace, hescape⟩ | ⟨hplace, ⟨-, hdefault⟩ | ⟨path, -, habsent⟩⟩ :=
      configuration_of_not_configuredBy hnone
    · simp [hplace, hescape]
    · simp [hplace, hdefault, hnone]
    · simp [hplace, habsent, hnone]

/-- Loading gives the configuration that the file describes, or the defaults
where there is no file. -/
theorem configuration_eq_ok_iff :
    t.configuration start file = .ok (.ok config) ↔
      t.settingsFile start file = .ok none ∧ config = {} ∨
        ∃ path bytes, t.ConfiguredBy start file path bytes ∧
        Describes path bytes config := by
  by_cases hfile : ∃ path bytes, t.ConfiguredBy start file path bytes
  · obtain ⟨path, bytes, h⟩ := hfile
    rw [h.configuration_eq, readConfig_eq_ok_iff h.2, h.exists_and_iff, h.1]
    simp
  · have hnone : ∀ path bytes, ¬ t.ConfiguredBy start file path bytes :=
      fun path bytes h => hfile ⟨path, bytes, h⟩
    obtain ⟨hplace, escape, hescape⟩ | ⟨-,
        ⟨hsettings, hdefault⟩ | ⟨path, rfl, habsent⟩⟩ :=
      configuration_of_not_configuredBy hnone
    · have hplaced : t.settingsFile start file ≠ .ok none := by
        cases file with
        | none => exact hplace.settingsFile_ne rfl
        | some given => simp [settingsFile]
      simp [hescape, hplaced, hnone]
    · simp [hsettings, hdefault, hnone, eq_comm]
    · simp [settingsFile, habsent, hnone]

/-- Loading refuses settings with faults, each at a key of the settings that
the configuration file holds. -/
theorem exists_settings_of_invalid {place : Option Path} {faults : List Fault}
    (hrefused : t.configuration start file =
      .ok (.error (.invalid place faults))) :
    faults ≠ [] ∧ ∃ path bytes table, t.ConfiguredBy start file path bytes ∧
      HoldsSettings path bytes table ∧
      ∀ fault ∈ faults, ∃ key ∈ table.map Prod.fst, fault.location.head? =
        some key := by
  by_cases hfile : ∃ path bytes, t.ConfiguredBy start file path bytes
  · obtain ⟨path, bytes, h⟩ := hfile
    rw [h.configuration_eq] at hrefused
    obtain ⟨table, hsettings, hrefused⟩ :=
      exists_settings_of_readConfig h.2 hrefused
    obtain ⟨hsome, hkeys⟩ := exists_key_of_fromSettings hrefused
    exact ⟨hsome, path, bytes, table, h, hsettings, hkeys⟩
  · have hnone : ∀ path bytes, ¬ t.ConfiguredBy start file path bytes :=
      fun path bytes h => hfile ⟨path, bytes, h⟩
    obtain ⟨-, escape, hescape⟩ | ⟨-, ⟨-, hdefault⟩ | ⟨path, -, habsent⟩⟩ :=
      configuration_of_not_configuredBy hnone
    · rw [hescape] at hrefused
      cases hrefused
    · rw [hdefault] at hrefused
      cases hrefused
    · rw [habsent] at hrefused
      cases hrefused

end FileTree

-- ===================================================== the command line

namespace CommandLine

variable {argv : List String} {args : Arguments}

/-- A check is asked for, and not the text of a rule. -/
def Arguments.AsksForCheck (args : Arguments) : Prop :=
  ∀ code, args.explain = .given code → code = ""

theorem run_eq_runCheck (hargs : readArguments argv = .run args)
    (hcheck : args.AsksForCheck) :
    run t argv = runCheck t args := by
  unfold run
  rw [hargs]
  cases hexplain : args.explain with
  | absent => simp [hexplain]
  | hollow => simp [hexplain]
  | given code => simp [hexplain, hcheck code hexplain]

/-- What is printed about a configuration that could not be loaded. -/
def loadFailure (e : ConfigError) : Output where
  exit := 2
  err := "ERROR: Failed to load configuration: " ++ e.render ++ "\n"

theorem runCheck_of_failure {e : ConfigError}
    (hfile : configFile args.config = .ok file)
    (hload : t.configuration none file = .ok (.error e)) :
    runCheck t args = .ok (loadFailure e) := by
  simp [runCheck, hfile, hload, loadFailure]

theorem runCheck_of_escape {escape : Escape}
    (hfile : configFile args.config = .ok file)
    (hload : t.configuration none file = .error escape) :
    runCheck t args = .error escape := by
  simp [runCheck, hfile, hload]

end CommandLine

/-- In a picture of the files, where every file can be read, loading a
configuration gives no answer exactly when the place of the file cannot be
looked at or its bytes are not foreseen; otherwise it gives the
configuration that the file describes, or the defaults, or an error.
Settings that are refused have faults, each at one of their keys. The
command line ends with code 2 for a file that describes none, unless
its bytes are not foreseen: then it gives no answer either. -/
theorem load_answers_unless_unforeseen (t : FileTree)
    (start file : Option Path) :
    ((∃ escape, t.configuration start file = .error escape) ↔
      t.Unplaced start file ∨
        ∃ path bytes, t.ConfiguredBy start file path bytes ∧
        Unforeseen path bytes) ∧
    (∀ config, t.configuration start file = .ok (.ok config) ↔
      t.settingsFile start file = .ok none ∧ config = {} ∨
        ∃ path bytes, t.ConfiguredBy start file path bytes ∧
        Describes path bytes config) ∧
    (∀ place faults, t.configuration start file =
      .ok (.error (.invalid place faults)) →
      faults ≠ [] ∧ ∃ path bytes table, t.ConfiguredBy start file path bytes ∧
        HoldsSettings path bytes table ∧
        ∀ fault ∈ faults, ∃ key ∈ table.map Prod.fst, fault.location.head? =
          some key) ∧
    ∀ argv args path bytes, CommandLine.readArguments argv = .run args →
    args.AsksForCheck →
      CommandLine.configFile args.config = .ok file →
      t.ConfiguredBy none file path bytes →
      (∀ config, ¬ Describes path bytes config) →
        (Unforeseen path bytes ∧
          (∃ escape, CommandLine.run t argv = .error escape) ∨
          ¬ Unforeseen path bytes ∧
          ∃ e, t.configuration none file = .ok (.error e) ∧
            CommandLine.run t argv = .ok (CommandLine.loadFailure e)) := by
  refine ⟨FileTree.configuration_eq_error_iff,
    fun config => FileTree.configuration_eq_ok_iff,
    fun place faults => FileTree.exists_settings_of_invalid, ?_⟩
  intro argv args path bytes hargs hcheck hfile hconfigured hinvalid
  rw [CommandLine.run_eq_runCheck hargs hcheck]
  have hload := hconfigured.configuration_eq
  by_cases hforeseen : Unforeseen path bytes
  · obtain ⟨escape, hescape⟩ :=
      (FileTree.readConfig_eq_error_iff hconfigured.2).2 hforeseen
    exact .inl ⟨hforeseen, escape,
      CommandLine.runCheck_of_escape hfile (hload.trans hescape)⟩
  · refine .inr ⟨hforeseen, ?_⟩
    cases hanswer : t.readConfig path with
    | error escape =>
        exact absurd ((FileTree.readConfig_eq_error_iff hconfigured.2).1
          ⟨escape, hanswer⟩) hforeseen
    | ok answer =>
        cases answer with
        | ok config =>
            exact absurd ((FileTree.readConfig_eq_ok_iff hconfigured.2).1
              hanswer) (hinvalid config)
        | error e =>
            have hfailed := hload.trans hanswer
            exact ⟨e, hfailed, CommandLine.runCheck_of_failure hfile hfailed⟩

/-- A project file with these bytes in the current directory. -/
def projectTree (bytes : List UInt8) : FileTree where
  root := .directory [("work", .directory [("pyproject.toml", .file bytes)])]
  current := ["work"]

/-- The path of the project file. -/
def projectPath : Path := ⟨.relative, ["pyproject.toml"]⟩

theorem read_projectTree (bytes : List UInt8) :
    (projectTree bytes).read projectPath = .ok bytes := by
  have hnul : projectPath.hasNul = false := by decide
  have hshort : projectPath.render.utf8ByteSize ≤
      FileTree.pathLimit := by decide
  have hregular : FileTree.regular (projectTree bytes).root = true := by
    simp only [projectTree, FileTree.regular, FileTree.regularAll,
      Bool.and_true, Bool.and_eq_true]
    decide
  have hat : (projectTree bytes).root.at? (["work"].reverse ++
      ["pyproject.toml"])
      = some (.file bytes) := by
    simp [projectTree, Entry.at?, Entry.child?]
  have hfollow : FileTree.follow (projectTree bytes).root FileTree.linkLimit
      ((projectTree bytes).startOf projectPath) projectPath.parts =
        .ok ["pyproject.toml", "work"] :=
    FileTree.follow_of_at? hregular hat (by simp) FileTree.linkLimit
  have hfind : (projectTree bytes).find projectPath = .ok (.file bytes) :=
    FileTree.find_eq_ok_iff.2 ⟨hnul, hshort, ["pyproject.toml", "work"],
      hfollow, hat⟩
  simp [FileTree.read, hfind]

theorem readArguments_config :
    CommandLine.readArguments ["--config", "pyproject.toml"]
      = .run { config := .given projectPath } := by
  decide +kernel

/-- A section with a key whose name is taken. -/
def takenText : String := "[tool.pure-module-check]\ncls = 1\n"

theorem unforeseen_takenText :
    Unforeseen projectPath (Text.utf8Bytes takenText) := by
  have hparse : Toml.parse takenText
      = .ok [("tool",
        .table [("pure-module-check", .table [("cls", .int 1)])])] := rfl
  refine unforeseen_utf8Bytes_iff.2 (.inr ⟨[("cls", .int 1)], ?_, by simp⟩)
  exact holdsSettings_utf8Bytes_iff.2 ⟨_, hparse, rfl⟩

/-- A text that is no document. -/
def brokenText : String := "="

theorem parse_brokenText : Toml.parse brokenText = .error .malformed := rfl

/-- The taken name ends the run without an answer; the broken document is
reported. -/
theorem taken_name_unreported :
    (∃ escape, CommandLine.run (projectTree (Text.utf8Bytes takenText))
      ["--config", "pyproject.toml"] = .error escape) ∧
    ∃ e, CommandLine.run (projectTree (Text.utf8Bytes brokenText))
      ["--config", "pyproject.toml"] = .ok (CommandLine.loadFailure e) := by
  have hargs := readArguments_config
  have hcheck : CommandLine.Arguments.AsksForCheck
      { config := .given projectPath } := by
    rintro code ⟨⟩
  constructor
  · have hread := read_projectTree (Text.utf8Bytes takenText)
    have hinvalid : ∀ config,
        ¬ Describes projectPath (Text.utf8Bytes takenText) config := by
      intro config hconfig
      obtain ⟨escape, hescape⟩ :=
        (FileTree.readConfig_eq_error_iff hread).2 unforeseen_takenText
      rw [(FileTree.readConfig_eq_ok_iff hread).2 hconfig] at hescape
      cases hescape
    have hanswer :=
      (load_answers_unless_unforeseen
        (projectTree (Text.utf8Bytes takenText)) none
      (some projectPath)).2.2.2 _ _ _ _ hargs hcheck rfl ⟨rfl, hread⟩ hinvalid
    obtain ⟨-, hescape⟩ | ⟨hforeseen, -⟩ := hanswer
    · exact hescape
    · exact absurd unforeseen_takenText hforeseen
  · have hread := read_projectTree (Text.utf8Bytes brokenText)
    have hsettings : ∀ table,
        ¬ HoldsSettings projectPath (Text.utf8Bytes brokenText) table := by
      intro table htable
      obtain ⟨document, hparse, -⟩ := holdsSettings_utf8Bytes_iff.1 htable
      rw [parse_brokenText] at hparse
      cases hparse
    have hinvalid : ∀ config,
        ¬ Describes projectPath (Text.utf8Bytes brokenText) config := by
      rintro config ⟨table, htable, -⟩
      exact hsettings table htable
    have hanswer :=
      (load_answers_unless_unforeseen
        (projectTree (Text.utf8Bytes brokenText)) none
      (some projectPath)).2.2.2 _ _ _ _ hargs hcheck rfl ⟨rfl, hread⟩ hinvalid
    obtain ⟨hforeseen, -⟩ | ⟨-, e, -, hrun⟩ := hanswer
    · rw [unforeseen_utf8Bytes_iff, parse_brokenText] at hforeseen
      obtain hlong | ⟨table, htable, -⟩ := hforeseen
      · cases hlong
      · exact absurd htable (hsettings table)
    · exact ⟨e, hrun⟩

end Purity
