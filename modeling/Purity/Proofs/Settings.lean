/-
What the validation of settings promises, said without its readers. Each
kind of setting has a form: the values that are accepted for it, with what
they stand for. A reader keeps to a form when it gives exactly what the
form says, and refuses everything else with at least one fault, inside the
setting that it reads (`KeepsTo`).

From the readers this goes to tables. A table is accepted exactly when it
describes a configuration: it has known keys only, and each setting has a
value of its form or the default (`ofTable_eq_ok_iff`). A table with the
key whose name is taken is refused as a whole
(`ofTable_eq_reservedKey_iff`). Any other table is refused with faults,
each of which starts with a key of the table (`exists_key_of_invalid`).

These are all that the proofs about loading a configuration and about the
name of the marker use of the validation.
-/
import Purity.Config
import Purity.Proofs.Outcome

namespace Purity.Config

variable {α β : Type}

-- ================================================================ forms

/-- A reader keeps to a form. -/
structure KeepsTo (read : List String → Value → Reading α)
    (Form : Value → α → Prop) :
    Prop where
  /-- It accepts the values of the form, and nothing else. -/
  accepts : ∀ {location value a}, read location value = .ok a ↔ Form value a
  /-- It refuses with faults, and these are inside the setting. -/
  refuses : ∀ {location value faults}, read location value = .error faults →
    faults ≠ [] ∧ ∀ fault ∈ faults, location <+: fault.location

/-- A text. -/
def IsText (value : Value) (text : String) : Prop := value = .text text

/-- A list of texts. -/
def IsTexts (value : Value) (texts : List String) : Prop :=
  value = .list (texts.map .text)

/-- A list of texts with at least one of them. -/
def IsSomeTexts (value : Value) (texts : List String) : Prop :=
  IsTexts value texts ∧ texts ≠ []

/-- A table of lists of texts. -/
def IsTextTable (value : Value) (m : Map (List String)) : Prop :=
  ∃ entries : List (String × List String),
    value = .table (entries.map fun entry =>
      (entry.1, .list (entry.2.map .text))) ∧
      m = .ofList entries

/-- The text of a marker. -/
def IsMarkerText (value : Value) (marker : String) : Prop :=
  IsText value marker ∧ isMarker marker = true

/-- The values that stand for a truth value. -/
inductive StandsFor : Value → Bool → Prop where
  | itself (b : Bool) : StandsFor (.bool b) b
  | zero : StandsFor (.int 0) false
  | one : StandsFor (.int 1) true
  /-- A text by the word that it is, in any case of letters. -/
  | word {s : String} {b : Bool} :
      boolWords.lookup (s.map Char.toLower) = some b → StandsFor (.text s) b
  /-- A number that is zero, with either sign. -/
  | zeroNumber {negative : Bool} {x : Binary64} :
      x.whole? = some 0 → StandsFor (.float negative x) false
  | oneNumber {x : Binary64} : x.whole? = some 1 →
      StandsFor (.float false x) true

-- ============================================================= readings

/-- Several readings that fail with faults only fail together when one of
them does. -/
theorem allOf_eq_ok_iff {readings : List (Reading α)} {values : List α}
    (hfaults : ∀ reading ∈ readings, ∀ faults, reading = .error faults →
      faults ≠ []) :
    allOf readings = .ok values ↔ readings = values.map .ok := by
  unfold allOf
  constructor
  · intro hall
    split at hall
    next hnone =>
      rw [← Except.ok.inj hall]
      clear hall
      induction readings with
      | nil => rfl
      | cons reading readings ih =>
          rw [List.flatMap_cons, List.append_eq_nil_iff] at hnone
          have hrest :=
            ih (fun r hr => hfaults r (List.mem_cons_of_mem _ hr)) hnone.2
          cases reading with
          | error faults =>
              exact absurd hnone.1 (hfaults _ List.mem_cons_self faults rfl)
          | ok a => exact congrArg (List.cons (.ok a)) hrest
    next => cases hall
  · rintro rfl
    have hnone : (values.map (Except.ok (ε := List Fault))).flatMap
        Reading.faults = [] := by
      simp [List.flatMap_map, Reading.faults]
    have hvalues :
        (values.map (Except.ok (ε := List Fault))).filterMap Except.toOption =
          values := by
      rw [List.filterMap_map]
      exact List.filterMap_some
    rw [hnone, hvalues]

theorem allOf_eq_error {readings : List (Reading α)} {faults : List Fault}
    (hall : allOf readings = .error faults) :
    faults ≠ [] ∧ faults = readings.flatMap Reading.faults := by
  unfold allOf at hall
  split at hall
  next => cases hall
  next hsome =>
    rw [← Except.error.inj hall]
    exact ⟨hsome, rfl⟩

/-- The faults of several readings are those of each of them. -/
theorem forall_faults_of_allOf {readings : List (Reading α)}
    {faults : List Fault} {P : Fault → Prop}
    (hall : allOf readings = .error faults)
    (hreadings : ∀ reading ∈ readings, ∀ fs, reading = .error fs →
      ∀ fault ∈ fs, P fault) :
    ∀ fault ∈ faults, P fault := by
  intro fault hfault
  rw [(allOf_eq_error hall).2, List.mem_flatMap] at hfault
  obtain ⟨reading, hreading, hfault⟩ := hfault
  cases reading with
  | ok a => cases hfault
  | error fs => exact hreadings _ hreading fs rfl fault hfault

-- ============================================================== readers

/-- A single fault at the place of the setting. -/
theorem refuses_single {location : List String} {kind : FaultKind}
    {faults : List Fault}
    (hread : (.error [⟨location, kind⟩] : Reading α) = .error faults) :
    faults ≠ [] ∧ ∀ fault ∈ faults, location <+: fault.location := by
  rw [← Except.error.inj hread]
  refine ⟨List.cons_ne_nil _ _, fun fault hfault => ?_⟩
  obtain rfl := List.mem_singleton.1 hfault
  exact List.prefix_refl _

theorem keepsTo_readText : KeepsTo readText IsText where
  accepts {location value a} := by
    cases value <;> simp [readText, IsText]
  refuses {location value faults} hread := by
    cases value
    case text s => cases hread
    all_goals exact refuses_single hread

theorem error_of_mem_readItems {location : List String} {items : List Value}
    {reading : Reading String} (hreading : reading ∈ readItems location items)
    {faults : List Fault} (hfaults : reading = .error faults) :
    faults ≠ [] ∧ ∀ fault ∈ faults, location <+: fault.location := by
  obtain ⟨⟨item, i⟩, -, rfl⟩ := List.mem_map.1 hreading
  obtain ⟨hsome, hinside⟩ := keepsTo_readText.refuses hfaults
  exact ⟨hsome, fun fault hfault =>
    (List.prefix_append _ _).trans (hinside fault hfault)⟩

theorem readItems_eq_map_ok_iff {location : List String} {items : List Value}
    {texts : List String} :
    readItems location items = texts.map .ok ↔ items = texts.map .text := by
  unfold readItems
  -- the index of an item only shows in its faults
  suffices ∀ start, (items.zipIdx start).map
        (fun p => readText (location ++ [toString p.2]) p.1) = texts.map .ok ↔
      items = texts.map .text from this 0
  induction items generalizing texts with
  | nil =>
      intro start
      cases texts <;> simp
  | cons item items ih =>
      intro start
      cases texts with
      | nil => simp
      | cons text texts =>
          rw [List.zipIdx_cons, List.map_cons, List.map_cons, List.map_cons,
            List.cons.injEq, List.cons.injEq, ih, keepsTo_readText.accepts]
          rfl

theorem keepsTo_readTexts : KeepsTo readTexts IsTexts where
  accepts {location value texts} := by
    cases value
    case list items =>
      rw [readTexts, allOf_eq_ok_iff fun reading hreading faults hfaults =>
        (error_of_mem_readItems hreading hfaults).1, readItems_eq_map_ok_iff]
      simp [IsTexts]
    all_goals simp [readTexts, IsTexts]
  refuses {location value faults} hread := by
    cases value
    case list items =>
      refine ⟨(allOf_eq_error hread).1, forall_faults_of_allOf hread ?_⟩
      exact fun reading hreading fs hfs =>
        (error_of_mem_readItems hreading hfs).2
    all_goals exact refuses_single hread

theorem keepsTo_readSomeTexts : KeepsTo readSomeTexts IsSomeTexts where
  accepts {location value texts} := by
    cases value
    case list items =>
      have hall : allOf (readItems location items) = .ok texts ↔
          items = texts.map .text := by
        rw [allOf_eq_ok_iff fun reading hreading faults hfaults =>
          (error_of_mem_readItems hreading hfaults).1, readItems_eq_map_ok_iff]
      have hform : IsSomeTexts (.list items) texts ↔
          items = texts.map .text ∧ texts ≠ [] := by
        simp [IsSomeTexts, IsTexts]
      rw [hform, readSomeTexts]
      split
      next hsome =>
        rw [hall]
        refine ⟨fun hitems => ⟨hitems, ?_⟩, And.left⟩
        rintro rfl
        rw [readItems_eq_map_ok_iff.2 hitems] at hsome
        cases hsome
      next hnone =>
        refine iff_of_false nofun ?_
        rintro ⟨hitems, hne⟩
        rw [readItems_eq_map_ok_iff.2 hitems] at hnone
        cases texts with
        | nil => exact hne rfl
        | cons text texts => exact hnone rfl
    all_goals simp [readSomeTexts, IsSomeTexts, IsTexts]
  refuses {location value faults} hread := by
    cases value
    case list items =>
      rw [readSomeTexts] at hread
      have hitems : ∀ reading ∈ readItems location items, ∀ fs,
          reading = .error fs →
          ∀ fault ∈ fs, location <+: fault.location :=
        fun reading hreading fs hfs => (error_of_mem_readItems hreading hfs).2
      split at hread
      next =>
        exact ⟨(allOf_eq_error hread).1, forall_faults_of_allOf hread hitems⟩
      next =>
        rw [← Except.error.inj hread]
        refine ⟨by simp, fun fault hfault => ?_⟩
        rcases List.mem_append.1 hfault with hfault | hfault
        · obtain ⟨reading, hreading, hfault⟩ := List.mem_flatMap.1 hfault
          cases reading with
          | ok a => cases hfault
          | error fs => exact hitems _ hreading fs rfl fault hfault
        · obtain rfl := List.mem_singleton.1 hfault
          exact List.prefix_refl _
    all_goals exact refuses_single hread

/-- One entry of a table, read as a list of texts under its key. -/
theorem readEntry_eq_ok_iff {location : List String} {entry : String × Value}
    {read : String × List String} :
    (readTexts (location ++ [entry.1]) entry.2).map (fun texts =>
      (entry.1, texts)) = .ok read ↔
      entry = (read.1, .list (read.2.map .text)) := by
  obtain ⟨key, value⟩ := entry
  obtain ⟨key', texts⟩ := read
  cases hread : readTexts (location ++ [key]) value with
  | error faults =>
      have hform : ¬ IsTexts value texts := by
        rw [← keepsTo_readTexts.accepts, hread]
        exact nofun
      refine iff_of_false nofun fun hentry => hform ?_
      exact (Prod.mk.inj hentry).2
  | ok texts' =>
      have hform : IsTexts value texts ↔ texts' = texts := by
        rw [← keepsTo_readTexts.accepts, hread, Except.ok.injEq]
      show Except.ok (key, texts') = Except.ok (key', texts) ↔ _
      rw [Except.ok.injEq, Prod.mk.injEq, Prod.mk.injEq, ← hform]
      rfl

theorem readEntries_eq_map_ok_iff {location : List String}
    {entries : List (String × Value)} {read : List (String × List String)} :
    entries.map (fun entry => (readTexts (location ++ [entry.1]) entry.2).map
        fun texts => (entry.1, texts)) = read.map .ok ↔
      entries = read.map fun entry =>
        (entry.1, .list (entry.2.map .text)) := by
  induction entries generalizing read with
  | nil => cases read <;> simp
  | cons entry entries ih =>
      cases read with
      | nil => simp
      | cons first read =>
          rw [List.map_cons, List.map_cons, List.map_cons, List.cons.injEq,
            List.cons.injEq, ih, readEntry_eq_ok_iff]

theorem error_of_mem_readEntries {location : List String}
    {entries : List (String × Value)}
    {reading : Reading (String × List String)}
    (hreading : reading ∈ entries.map fun entry =>
      (readTexts (location ++ [entry.1]) entry.2).map fun texts =>
        (entry.1, texts))
    {faults : List Fault} (hfaults : reading = .error faults) :
    faults ≠ [] ∧ ∀ fault ∈ faults, location <+: fault.location := by
  obtain ⟨entry, -, rfl⟩ := List.mem_map.1 hreading
  cases hread : readTexts (location ++ [entry.1]) entry.2 with
  | ok texts =>
      rw [hread] at hfaults
      cases hfaults
  | error fs =>
      rw [hread] at hfaults
      cases hfaults
      obtain ⟨hsome, hinside⟩ := keepsTo_readTexts.refuses hread
      exact ⟨hsome, fun fault hfault =>
        (List.prefix_append _ _).trans (hinside fault hfault)⟩

theorem keepsTo_readTextTable : KeepsTo readTextTable IsTextTable where
  accepts {location value m} := by
    cases value
    case table entries =>
      have hall : ∀ read, allOf (entries.map fun entry =>
          (readTexts (location ++ [entry.1]) entry.2).map fun texts =>
            (entry.1, texts)) = .ok read ↔
          entries = read.map fun entry =>
            (entry.1, .list (entry.2.map .text)) := by
        intro read
        rw [allOf_eq_ok_iff fun reading hreading faults hfaults =>
          (error_of_mem_readEntries hreading hfaults).1,
            readEntries_eq_map_ok_iff]
      rw [readTextTable, Outcome.bind_eq_ok]
      simp only [hall, IsTextTable, Value.table.injEq, Outcome.pure_eq,
        Except.ok.injEq]
      simp only [eq_comm (b := m)]
    all_goals simp [readTextTable, IsTextTable]
  refuses {location value faults} hread := by
    cases value
    case table entries =>
      rw [readTextTable, Outcome.bind_eq_error] at hread
      rcases hread with hread | ⟨read, -, hnone⟩
      · refine ⟨(allOf_eq_error hread).1, forall_faults_of_allOf hread ?_⟩
        exact fun reading hreading fs hfs =>
          (error_of_mem_readEntries hreading hfs).2
      · cases hnone
    all_goals exact refuses_single hread

theorem keepsTo_readMarker : KeepsTo readMarker IsMarkerText where
  accepts {location value marker} := by
    rw [readMarker, Outcome.bind_eq_ok]
    simp only [keepsTo_readText.accepts]
    constructor
    · rintro ⟨text, htext, hmarker⟩
      split at hmarker
      next hdotted =>
        obtain rfl := Except.ok.inj hmarker
        exact ⟨htext, hdotted⟩
      next => cases hmarker
    · rintro ⟨htext, hdotted⟩
      exact ⟨marker, htext, if_pos hdotted⟩
  refuses {location value faults} hread := by
    rw [readMarker, Outcome.bind_eq_error] at hread
    rcases hread with hread | ⟨text, -, hmarker⟩
    · exact keepsTo_readText.refuses hread
    · split at hmarker
      next => cases hmarker
      next => exact refuses_single hmarker

theorem boolOfInt_eq_ok_iff {location : List String} {written : Bool} {n : Int}
    {b : Bool} :
    boolOfInt location written n = .ok b ↔
    n = 0 ∧ b = false ∨ n = 1 ∧ b = true := by
  unfold boolOfInt
  by_cases hzero : n = 0
  · simp [hzero, eq_comm]
  · by_cases hone : n = 1
    · simp [hone, eq_comm]
    · simp only [hzero, hone, if_false, false_and, or_self, iff_false]
      split <;> exact nofun

theorem refuses_boolOfInt {location : List String} {written : Bool} {n : Int}
    {faults : List Fault}
    (hread : boolOfInt location written n = .error faults) :
    faults ≠ [] ∧ ∀ fault ∈ faults, location <+: fault.location := by
  unfold boolOfInt at hread
  simp only at hread
  split at hread
  · cases hread
  · split at hread
    · cases hread
    · split at hread
      · exact refuses_single hread
      · exact refuses_single hread

theorem keepsTo_readBool : KeepsTo readBool StandsFor where
  accepts {location value b} := by
    cases value
    case bool b' =>
      rw [readBool, Except.ok.injEq]
      constructor
      · rintro rfl
        exact .itself b'
      · rintro ⟨⟩
        rfl
    case int n =>
      rw [readBool, boolOfInt_eq_ok_iff]
      constructor
      · rintro (⟨rfl, rfl⟩ | ⟨rfl, rfl⟩)
        · exact .zero
        · exact .one
      · rintro (_ | _ | _)
        · exact .inl ⟨rfl, rfl⟩
        · exact .inr ⟨rfl, rfl⟩
    case text s =>
      rw [readBool]
      constructor
      · intro hread
        split at hread
        next b' hword =>
          rw [← Except.ok.inj hread]
          exact .word hword
        next => cases hread
      · rintro (_ | _ | _ | hword)
        rw [hword]
    case float negative x =>
      rw [readBool]
      cases hwhole : x.whole? with
      | none =>
          refine iff_of_false nofun ?_
          rintro (_ | _ | _ | _ | hzero | hone)
          · rw [hwhole] at hzero
            cases hzero
          · rw [hwhole] at hone
            cases hone
      | some n =>
          simp only [boolOfInt_eq_ok_iff]
          constructor
          · rintro (⟨hn, rfl⟩ | ⟨hn, rfl⟩)
            · have hzero : n = 0 := by split at hn <;> omega
              exact .zeroNumber (hzero ▸ hwhole)
            · cases negative with
              | true => simp only [if_true] at hn; omega
              | false =>
                  have hone : n =
                      1 := by
                        simp only [Bool.false_eq_true, if_false] at hn; omega
                  exact .oneNumber (hone ▸ hwhole)
          · rintro (_ | _ | _ | _ | hzero | hone)
            · obtain rfl : n = 0 := Option.some.inj (hwhole.symm.trans hzero)
              left
              split <;> simp
            · obtain rfl : n = 1 := Option.some.inj (hwhole.symm.trans hone)
              exact .inr ⟨rfl, rfl⟩
    all_goals
      refine iff_of_false nofun ?_
      rintro ⟨⟩
  refuses {location value faults} hread := by
    cases value
    case bool b => cases hread
    case int n => exact refuses_boolOfInt hread
    case text s =>
      rw [readBool] at hread
      split at hread
      next => cases hread
      next => exact refuses_single hread
    case float negative x =>
      rw [readBool] at hread
      split at hread
      next => exact refuses_boolOfInt hread
      next => exact refuses_single hread
    all_goals exact refuses_single hread

-- =============================================================== tables

/-- A setting has a value: what the entry under its key stands for, or the
default without such an entry. -/
def HasSetting (table : List (String × Value)) (key : String)
    (Form : Value → α → Prop) (default value : α) : Prop :=
  match table.lookup key with
  | some entry => Form entry value
  | none => value = default

section Setting

variable {table : List (String × Value)} {key : String} {default : α}
  {read : List String → Value → Reading α} {Form : Value → α → Prop}

theorem setting_eq_ok_iff (hread : KeepsTo read Form) {value : α} :
    setting table key read default = .ok value ↔
    HasSetting table key Form default value := by
  unfold setting HasSetting
  cases table.lookup key with
  | some entry => exact hread.accepts
  | none => rw [Except.ok.injEq, eq_comm]

/-- The faults of a setting are in its entry. -/
theorem located_of_setting (hread : KeepsTo read Form) {fault : Fault}
    (hfault : fault ∈ (setting table key read default).faults) :
    ∃ key ∈ table.map Prod.fst, fault.location.head? = some key := by
  unfold setting at hfault
  split at hfault
  next entry hentry =>
    refine ⟨key, ?_, ?_⟩
    · obtain ⟨before, after, rfl, -⟩ := List.lookup_eq_some_iff.1 hentry
      simp
    · cases hsetting : read [key] entry with
      | ok value =>
          rw [hsetting] at hfault
          cases hfault
      | error faults =>
          rw [hsetting] at hfault
          obtain ⟨inside, hlocation⟩ := (hread.refuses hsetting).2 fault hfault
          rw [← hlocation]
          rfl
  next => cases hfault

/-- A setting without faults has a value. -/
theorem exists_setting_eq_ok (hread : KeepsTo read Form)
    (hnone : (setting table key read default).faults = []) :
    ∃ value, setting table key read default = .ok value := by
  unfold setting at hnone ⊢
  split at hnone
  next entry hentry =>
    cases hsetting : read [key] entry with
    | ok value => exact ⟨value, rfl⟩
    | error faults =>
        rw [hsetting] at hnone
        exact absurd hnone (hread.refuses hsetting).1
  next => exact ⟨default, rfl⟩

end Setting

/-- A table describes a configuration: it has known keys only, and each
setting has a value. -/
structure DescribedBy (config : Config) (table : List (String × Value)) :
    Prop where
  known : ∀ key ∈ table.map Prod.fst, key ∈ keys
  marker : HasSetting table "pure_mod_marker" IsMarkerText ({} : Config).marker
    config.marker
  standardPure : HasSetting table "stdlib_pure_mods" IsTexts
    ({} : Config).standardPure
    config.standardPure
  extraPure : HasSetting table "extra_pure_mods" IsTexts
    ({} : Config).extraPure config.extraPure
  impureFunctions : HasSetting table
    "stdlib_partial_pure_mods_impure_functions" IsTextTable
    ({} : Config).impureFunctions config.impureFunctions
  reportDuplicates : HasSetting table "report_duplicate_modules" StandsFor
    ({} : Config).reportDuplicates config.reportDuplicates
  paths : HasSetting table "paths" IsSomeTexts ({} : Config).paths config.paths

variable {table : List (String × Value)} {config : Config}
    {faults : List Fault}

theorem unknown_eq_nil_iff :
    (table.filter fun entry => entry.1 ∉ keys).map
        (fun entry => { location := [entry.1], kind := .unknownKey : Fault }) =
    [] ↔
      ∀ key ∈ table.map Prod.fst, key ∈ keys := by
  simp [List.filter_eq_nil_iff]

/-- A table is accepted exactly as what it describes. -/
theorem ofTable_eq_ok_iff :
    ofTable table = .ok config ↔ config.DescribedBy table := by
  constructor
  · intro hread
    unfold ofTable at hread
    simp only at hread
    split at hread
    · cases hread
    · split at hread
      next hmarker hstandard hextra himpure hduplicates hpaths hunknown =>
        rw [← Except.ok.inj hread]
        exact {
          known := unknown_eq_nil_iff.1 hunknown
          marker := (setting_eq_ok_iff keepsTo_readMarker).1 hmarker
          standardPure := (setting_eq_ok_iff keepsTo_readTexts).1 hstandard
          extraPure := (setting_eq_ok_iff keepsTo_readTexts).1 hextra
          impureFunctions :=
            (setting_eq_ok_iff keepsTo_readTextTable).1 himpure
          reportDuplicates :=
            (setting_eq_ok_iff keepsTo_readBool).1 hduplicates
          paths := (setting_eq_ok_iff keepsTo_readSomeTexts).1 hpaths }
      next => cases hread
  · intro hdescribed
    have hfree : ¬ (table.map Prod.fst).contains "cls" = true := by
      rw [List.contains_iff_mem]
      exact fun hkey => absurd (hdescribed.known _ hkey) (by decide)
    unfold ofTable
    simp only [(setting_eq_ok_iff keepsTo_readMarker).2 hdescribed.marker,
      (setting_eq_ok_iff keepsTo_readTexts).2 hdescribed.standardPure,
      (setting_eq_ok_iff keepsTo_readTexts).2 hdescribed.extraPure,
      (setting_eq_ok_iff keepsTo_readTextTable).2 hdescribed.impureFunctions,
      (setting_eq_ok_iff keepsTo_readBool).2 hdescribed.reportDuplicates,
      (setting_eq_ok_iff keepsTo_readSomeTexts).2 hdescribed.paths,
      unknown_eq_nil_iff.2 hdescribed.known]
    exact if_neg hfree

/-- A table with the key whose name is taken is refused as a whole. -/
theorem ofTable_eq_reservedKey_iff :
    ofTable table = .error .reservedKey ↔ "cls" ∈ table.map Prod.fst := by
  unfold ofTable
  simp only [List.contains_iff_mem]
  split
  next hkey => simp [hkey]
  next hkey =>
    split
    next => simp [hkey]
    next => simp [hkey]

/-- Any other table is refused with faults that are located in it. -/
theorem exists_key_of_invalid
    (hread : ofTable table = .error (.invalid faults)) :
    faults ≠ [] ∧
      ∀ fault ∈ faults, ∃ key ∈ table.map Prod.fst, fault.location.head? =
        some key := by
  have hunknown : ∀ fault ∈ (table.filter fun entry => entry.1 ∉ keys).map
      (fun entry => { location := [entry.1], kind := .unknownKey : Fault }),
      ∃ key ∈ table.map Prod.fst, fault.location.head? = some key := by
    intro fault hfault
    obtain ⟨entry, hentry, rfl⟩ := List.mem_map.1 hfault
    exact ⟨entry.1, List.mem_map_of_mem (List.mem_filter.1 hentry).1, rfl⟩
  unfold ofTable at hread
  simp only at hread
  split at hread
  · cases hread
  · split at hread
    next => cases hread
    next hrefused =>
      rw [← ConfigFault.invalid.inj (Except.error.inj hread)]
      constructor
      · -- without any fault every setting would have a value
        intro hempty
        have hperm :=
          (List.mergeSort_perm _ Fault.noLater).symm.trans
            (List.Perm.of_eq hempty)
        simp only [List.perm_nil, List.append_eq_nil_iff] at hperm
        obtain ⟨⟨⟨⟨⟨⟨hmarker, hstandard⟩, hextra⟩, himpure⟩, hduplicates⟩,
            hpaths⟩, hkeys⟩ := hperm
        obtain ⟨marker, hmarker⟩ :=
          exists_setting_eq_ok keepsTo_readMarker hmarker
        obtain ⟨standard, hstandard⟩ :=
          exists_setting_eq_ok keepsTo_readTexts hstandard
        obtain ⟨extra, hextra⟩ := exists_setting_eq_ok keepsTo_readTexts hextra
        obtain ⟨impure, himpure⟩ :=
          exists_setting_eq_ok keepsTo_readTextTable himpure
        obtain ⟨duplicates, hduplicates⟩ :=
          exists_setting_eq_ok keepsTo_readBool hduplicates
        obtain ⟨paths, hpaths⟩ :=
          exists_setting_eq_ok keepsTo_readSomeTexts hpaths
        exact hrefused marker standard extra impure duplicates paths hmarker
          hstandard hextra
          himpure hduplicates hpaths hkeys
      · intro fault hfault
        rw [List.mem_mergeSort] at hfault
        simp only [List.mem_append] at hfault
        rcases hfault with
          (((((hfault | hfault) | hfault) | hfault) | hfault) | hfault)
          | hfault
        · exact located_of_setting keepsTo_readMarker hfault
        · exact located_of_setting keepsTo_readTexts hfault
        · exact located_of_setting keepsTo_readTexts hfault
        · exact located_of_setting keepsTo_readTextTable hfault
        · exact located_of_setting keepsTo_readBool hfault
        · exact located_of_setting keepsTo_readSomeTexts hfault
        · exact hunknown fault hfault

end Purity.Config
