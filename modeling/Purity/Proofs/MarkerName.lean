/-
Which texts can name the marker. The settings read such a text character
by character; `isMarker_iff` says what they accept by the segments of the
text: they have to be words. One line end may stand behind the last word.

Splitting the text for the search loses nothing (`join_segments`), so a
call is taken for the marker when it spells the segments. A line end stays
in the last segment and no name in a source file holds one, so a marker
with a line end is found nowhere (`marks?_eq_none`), nothing but a
protocol is marked, and a run has nothing to report
(`verdict_eq_nil_of_lineEnd`).
-/
import Purity.Proofs.Record
import Purity.Proofs.Segments
import Purity.Proofs.Settings

namespace Purity

-- ================================================================ words

namespace Name

/-- A letter of the alphabet, without any accent. -/
def IsLetter (c : Char) : Prop := ('A' ≤ c ∧ c ≤ 'Z') ∨ ('a' ≤ c ∧ c ≤ 'z')

def IsDigit (c : Char) : Prop := '0' ≤ c ∧ c ≤ '9'

theorem isAlpha_iff {c : Char} : c.isAlpha = true ↔ IsLetter c := by
  have hupper : c.isUpper = true ↔ 'A' ≤ c ∧ c ≤ 'Z' := decide_eq_true_iff
  have hlower : c.isLower = true ↔ 'a' ≤ c ∧ c ≤ 'z' :=
    Bool.and_eq_true_iff.trans
      (and_congr decide_eq_true_iff decide_eq_true_iff)
  exact Bool.or_eq_true_iff.trans (or_congr hupper hlower)

theorem isDigit_iff {c : Char} : c.isDigit = true ↔ IsDigit c :=
  Bool.and_eq_true_iff.trans (and_congr decide_eq_true_iff decide_eq_true_iff)

instance (c : Char) : Decidable (IsLetter c) :=
  decidable_of_iff (c.isAlpha = true) isAlpha_iff

instance (c : Char) : Decidable (IsDigit c) :=
  decidable_of_iff (c.isDigit = true) isDigit_iff

/-- A letter or an underscore, followed by letters, digits and
underscores. -/
def IsWord : List Char → Prop
  | [] => False
  | c :: cs =>
      (IsLetter c ∨ c = '_') ∧ ∀ d ∈ cs, IsLetter d ∨ IsDigit d ∨ d = '_'

instance : DecidablePred IsWord
  | [] => inferInstanceAs (Decidable False)
  -- by going through the list, and not through all characters there are
  | _ :: cs => @instDecidableAnd _ _ _ (List.decidableBAll _ cs)

/-- A name that has segments, all of which are words. -/
def IsDotted (name : String) : Prop :=
  segments name ≠ [] ∧ ∀ s ∈ segments name, IsWord s.toList

instance (name : String) : Decidable (IsDotted name) :=
  inferInstanceAs (Decidable (_ ∧ _))

theorem startsWord_iff {c : Char} :
    Config.startsWord c = true ↔ IsLetter c ∨ c = '_' := by
  simp [Config.startsWord, isAlpha_iff]

theorem continuesWord_iff {c : Char} :
    Config.continuesWord c = true ↔ IsLetter c ∨ IsDigit c ∨ c = '_' := by
  simp [Config.continuesWord, Char.isAlphanum, isAlpha_iff, isDigit_iff,
    or_assoc]

theorem not_isWord_nil : ¬ IsWord [] := id

theorem isDotted_iff {name : String} :
    IsDotted name ↔ ∀ w ∈ splitDots name.toList, IsWord w := by
  unfold IsDotted
  by_cases hname : name = ""
  · subst hname
    simp [splitDots, not_isWord_nil]
  · rw [segments_eq hname]
    simp [splitDots_ne_nil]

-- ============================================================== reading

/-- What is left of a text fits where its reading stands: the first piece
completes a word that has been started, and all others are words. -/
def Fits : (started : Bool) → List (List Char) → Prop
  | false, pieces => ∀ w ∈ pieces, IsWord w
  | true, [] => False
  | true, piece :: pieces =>
      (∀ c ∈ piece, IsLetter c ∨ IsDigit c ∨ c = '_') ∧ ∀ w ∈ pieces, IsWord w

theorem fits_nil (started : Bool) :
    Fits started (splitDots []) ↔ started = true := by
  cases started <;> simp [Fits, splitDots, not_isWord_nil]

theorem fits_false_cons {c : Char} {cs : List Char} :
    Fits false (splitDots (c :: cs)) ↔
    Config.startsWord c = true ∧ Fits true (splitDots cs) := by
  obtain ⟨piece, pieces, hcs⟩ :=
    List.exists_cons_of_ne_nil (splitDots_ne_nil cs)
  by_cases hdot : c = '.'
  · have hstart : Config.startsWord '.' = false := rfl
    simp [splitDots, hdot, Fits, not_isWord_nil, hstart]
  · simp [splitDots, hdot, hcs, Fits, IsWord, startsWord_iff, and_assoc]

theorem fits_true_cons {c : Char} {cs : List Char} :
    Fits true (splitDots (c :: cs)) ↔
      Config.continuesWord c = true ∧ Fits true (splitDots cs) ∨
        c = '.' ∧ Fits false (splitDots cs) := by
  obtain ⟨piece, pieces, hcs⟩ :=
    List.exists_cons_of_ne_nil (splitDots_ne_nil cs)
  by_cases hdot : c = '.'
  · have hword : Config.continuesWord '.' = false := rfl
    simp [splitDots, hdot, Fits, hword]
  · simp [splitDots, hdot, hcs, Fits, continuesWord_iff, and_assoc]

/-- A text is read to its end when it fits, or when it fits without a line
end behind it. -/
theorem isDotted_eq_true_iff (started : Bool) (cs : List Char) :
    Config.isDotted started cs = true ↔
      Fits started (splitDots cs) ∨
        ∃ body, cs = body ++ ['\n'] ∧ Fits started (splitDots body) := by
  induction cs generalizing started with
  | nil =>
      rw [fits_nil]
      simp [Config.isDotted]
  | cons c cs ih =>
      -- a line end that is not the first character stands behind the rest
      have hends : (∃ body, c :: cs = body ++ ['\n'] ∧
          Fits started (splitDots body)) ↔
          (c = '\n' ∧ cs = [] ∧ started = true) ∨
            ∃ body, cs = body ++ ['\n'] ∧
            Fits started (splitDots (c :: body)) := by
        constructor
        · rintro ⟨body, hbody, hfits⟩
          cases body with
          | nil =>
              cases hbody
              exact .inl ⟨rfl, rfl, (fits_nil started).1 hfits⟩
          | cons d body =>
              cases hbody
              exact .inr ⟨body, rfl, hfits⟩
        · rintro (⟨rfl, rfl, hstarted⟩ | ⟨body, rfl, hfits⟩)
          · exact ⟨[], rfl, (fits_nil started).2 hstarted⟩
          · exact ⟨c :: body, rfl, hfits⟩
      rw [hends]
      cases started with
      | false =>
          simp only [Config.isDotted, Bool.and_eq_true, ih, fits_false_cons]
          grind
      | true =>
          have hline : Config.continuesWord '\n' = false := rfl
          have hdot : Config.continuesWord '.' = false := rfl
          simp only [Config.isDotted, fits_true_cons]
          split
          next hword =>
            simp only [ih, hword]
            grind
          next hword =>
            split
            next hc =>
              simp only [ih, hc]
              grind
            next hc => grind

/-- The texts that the settings accept as a marker. -/
theorem isMarker_iff {s : String} :
    Config.isMarker s = true ↔ IsDotted s ∨ ∃ name, IsDotted name ∧
    s = name ++ "\n" := by
  unfold Config.isMarker
  rw [isDotted_eq_true_iff]
  simp only [isDotted_iff]
  refine or_congr Iff.rfl ⟨?_, ?_⟩
  · rintro ⟨body, hbody, hfits⟩
    refine ⟨String.ofList body, ?_, String.toList_injective ?_⟩
    · rw [String.toList_ofList]
      exact hfits
    · simp [hbody]
  · rintro ⟨name, hwords, rfl⟩
    exact ⟨name.toList, by simp, hwords⟩

-- ============================================================= segments

/-- A character that is no dot goes to the last piece. -/
theorem splitDots_concat {c : Char} (hc : c ≠ '.') (cs : List Char) :
    ∃ before last, splitDots cs = before ++ [last] ∧
      splitDots (cs ++ [c]) = before ++ [last ++ [c]] := by
  induction cs with
  | nil => exact ⟨[], [], rfl, by simp [splitDots, hc]⟩
  | cons d cs ih =>
      obtain ⟨before, last, hcs, hlonger⟩ := ih
      by_cases hdot : d = '.'
      · exact ⟨[] :: before, last, by simp [splitDots, hdot, hcs],
          by simp [splitDots, hdot, hlonger]⟩
      · cases before with
        | nil =>
            exact ⟨[], d :: last, by simp [splitDots, hdot, hcs],
              by simp [splitDots, hdot, hlonger]⟩
        | cons piece before =>
            exact ⟨(d :: piece) :: before, last,
              by simp [splitDots, hdot, hcs],
              by simp [splitDots, hdot, hlonger]⟩

theorem IsWord.ne_nil {w : List Char} (h : IsWord w) : w ≠ [] := by
  rintro rfl
  exact h

/-- A line end behind a dotted name is in the last segment. -/
theorem segments_lineEnd {name : String} (h : IsDotted name) :
    ∃ before last, segments (name ++ "\n") = before ++ [last] ∧
      (∀ s ∈ before, s ≠ "") ∧ '\n' ∈ last.toList := by
  obtain ⟨before, last, hname, hlonger⟩ :=
    splitDots_concat (c := '\n') (by decide) name.toList
  have hne : name ++ "\n" ≠ "" := by simp
  have hchars : (name ++ "\n").toList = name.toList ++ ['\n'] := by simp
  refine ⟨before.map String.ofList, String.ofList (last ++ ['\n']), ?_,
    ?_, by simp⟩
  · rw [segments_eq hne, hchars, hlonger, List.map_append]
    rfl
  · intro s hs
    obtain ⟨w, hw, rfl⟩ := List.mem_map.1 hs
    have hword :=
      isDotted_iff.1 h w (by rw [hname]; exact List.mem_append_left _ hw)
    simpa using hword.ne_nil

/-- Joining undoes splitting when there is no empty segment. -/
theorem join_segments {name : String} (h : ∀ s ∈ segments name, s ≠ "") :
    join (segments name) = name := by
  have hall : (segments name).filter (· ≠ "") = segments name :=
    List.filter_eq_self.2 fun s hs => by simpa using h s hs
  rw [join_eq_intercalate, hall, intercalate_segments]

theorem join_segments_of_isMarker {s : String} (h : Config.isMarker s = true) :
    join (segments s) = s := by
  refine join_segments ?_
  rcases isMarker_iff.1 h with hdotted | ⟨name, hname, rfl⟩
  · intro x hx hempty
    subst hempty
    exact not_isWord_nil (hdotted.2 "" hx)
  · obtain ⟨before, last, hsegments, hbefore, hlast⟩ := segments_lineEnd hname
    rw [hsegments]
    intro x hx hempty
    rcases List.mem_append.1 hx with hx | hx
    · exact hbefore x hx hempty
    · rw [← List.mem_singleton.1 hx, hempty] at hlast
      cases hlast

end Name

-- ============================================================= settings

/-- A table with nothing but the name of the marker. -/
theorem ofTable_marker (s : String) :
    Config.ofTable [("pure_mod_marker", .text s)] =
      if Config.isMarker s then .ok { marker := s }
      else .error (.invalid [⟨["pure_mod_marker"], .notDotted s⟩]) := by
  cases hmarker : Config.isMarker s with
  | true =>
      rw [if_pos rfl, Config.ofTable_eq_ok_iff]
      exact {
        known := by simp [Config.keys]
        marker := ⟨rfl, hmarker⟩
        standardPure := rfl
        extraPure := rfl
        impureFunctions := rfl
        reportDuplicates := rfl
        paths := rfl }
  | false =>
      have hread : Config.readMarker ["pure_mod_marker"] (.text s)
          = .error [⟨["pure_mod_marker"], .notDotted s⟩] := by
        show (if Config.isMarker s then Except.ok s else _) = _
        rw [hmarker]
        rfl
      unfold Config.ofTable
      simp [Config.setting, List.lookup_cons, hread, Config.keys,
        Config.Reading.faults]

-- ============================================================== marking

/-- The names of the path that a node spells. -/
def Node.spelled : Node → List String
  | .expr e => e.path?.getD []
  | _ => []

/-- No name in a source file goes over the end of a line. -/
def Module.NamesOnOneLine (m : Module) : Prop :=
  ∀ n : Node, n.Within m.node → ∀ s ∈ n.spelled, '\n' ∉ s.toList

instance (m : Module) : Decidable m.NamesOnOneLine :=
  decidable_of_iff
    (∀ x ∈ m.node.placed, ∀ s ∈ x.2.spelled, '\n' ∉ s.toList) <| by
    constructor
    · rintro h n ⟨p, hp⟩
      exact h (p, n) (Node.mem_placed.2 hp)
    · rintro h ⟨p, n⟩ hx
      exact h n ⟨p, Node.mem_placed.1 hx⟩

namespace Context

variable {c : Context}

/-- A marker with a line end in its name is found nowhere. -/
theorem marks?_eq_none (hnames : c.tree.NamesOnOneLine) {s : String}
    (hs : s ∈ c.marker) (hline : '\n' ∈ s.toList) {v : Visit}
    (hv : v ∈ c.visits) : c.marks? v = none := by
  unfold marks?
  split
  next span callSpan func args keywords hnode =>
    refine if_neg fun hpath => ?_
    have hcall : (Node.expr func).Within v.node := by
      rw [hnode]
      exact ⟨[0, 0], rfl⟩
    refine hnames (.expr func) (hcall.trans (within_of_mem_visits c hv)) s
      ?_ hline
    simpa [Node.spelled, hpath] using hs
  next => rfl

/-- Where no marker is found, only protocols are marked. -/
theorem protocol_of_marked (hmarks : ∀ v ∈ c.visits, c.marks? v = none)
    {name : String} {d : Definition}
    (hd : c.collect.1.registry.get? name = some d)
    (hmarked : d.marked = true) :
    d.protocol = true := by
  obtain ⟨e, charged, he, rfl, -⟩ := exists_get?_survey hd
  rw [registry_survey] at he
  refine forall_foldl_enter (P := fun d => d.marked = true →
    d.protocol = true) keyed_empty
    c.visits (fun _ _ h => by cases h) ?_ ?_ name e he hmarked
  · intro v _ d hdeclared
    obtain ⟨name, line, rfl | rfl⟩ := exists_eq_of_declared? hdeclared
    · exact fun _ => rfl
    · exact nofun
  · intro v hv mark hmark
    rw [hmarks v hv] at hmark
    cases hmark

end Context

-- =============================================================== a run

/-- A run with such a marker reports nothing but repeated names. -/
theorem verdict_eq_nil_of_lineEnd {config : Config} {files : List Source}
    {s : String} (hs : s ∈ Name.segments config.marker)
    (hline : '\n' ∈ s.toList)
    (hnames : ∀ f ∈ files, f.tree.NamesOnOneLine) :
    (runChecks config files).1.registry.verdict config.library = [] := by
  rw [List.eq_nil_iff_forall_not_mem]
  intro x hx
  obtain ⟨d, hd, hmarked, -, hfinding⟩ :=
    (Registry.mem_verdict (keyed_runChecks _ _)).1 hx
  obtain ⟨before, f, after, hfiles, hget, -⟩ :=
    exists_last_of_get?_runChecks hd
  have hsound := Context.allSound_collect _ _ d hget
  have hprotocol := Context.protocol_of_marked
    (fun v => Context.marks?_eq_none (hnames f (by simp [hfiles])) hs hline)
      hget hmarked
  rw [hsound.protocol_of_mem_findings hfinding] at hprotocol
  cases hprotocol

/-- Which texts the settings accept as the name of the marker, and which of
them are of use. Accepted are the dotted names, and a dotted name with a
line end behind it; any other text is the one fault that is reported. An
accepted text is all that is set. In each file it is looked for by its
segments, which join to the text again, so that a statement is taken for
the marker just when it calls the path of these segments. But a text that
is no dotted name itself is found in no file, and a run passes whatever
its files hold. -/
theorem marker_accepted_iff (s : String) :
    let read := Config.ofTable [("pure_mod_marker", .text s)]
    ((∃ config, read = .ok config) ↔
      Name.IsDotted s ∨ ∃ name, Name.IsDotted name ∧ s = name ++ "\n") ∧
    (∀ fault, read = .error fault →
      fault = .invalid [⟨["pure_mod_marker"], .notDotted s⟩]) ∧
    ∀ config, read = .ok config →
      config = { marker := s } ∧
      (∀ (f : Source) (project : NameSet), let c := f.context config project
        c.marker = Name.segments s ∧ c.dottedMarker = s ∧
        ∀ (t : Collector) (span callSpan : Span) (func : Expr)
          (args : List Expr) (keywords : List (Keyword Expr)),
          t.meet c (.stmt
            (.expression span (.call callSpan func args keywords))) =
            if func.path? = some (Name.segments s) then
              t.markAround c keywords span.line
            else t) ∧
      (¬ Name.IsDotted s →
        ∀ files : List Source, (∀ f ∈ files, f.tree.NamesOnOneLine) →
        (runChecks config files).1.passed = true) := by
  intro read
  have hread : read = _ := ofTable_marker s
  rw [hread, ← Name.isMarker_iff]
  refine ⟨?_, ?_, ?_⟩
  · split
    next hmarker => simp [hmarker]
    next hmarker => simp [hmarker]
  · intro fault hfault
    split at hfault
    next => cases hfault
    next => exact (Except.error.inj hfault).symm
  · intro config hconfig
    split at hconfig
    next hmarker =>
      obtain rfl := Except.ok.inj hconfig
      refine ⟨rfl, fun f project =>
        ⟨rfl, Name.join_segments_of_isMarker hmarker, ?_⟩, ?_⟩
      · intro t span callSpan func args keywords
        rfl
      · intro hdotted files hnames
        obtain ⟨name, hname, rfl⟩ :=
          (Name.isMarker_iff.1 hmarker).resolve_left hdotted
        obtain ⟨before, last, hsegments, -, hline⟩ :=
          Name.segments_lineEnd hname
        have hlast : last ∈ Name.segments (name ++ "\n") := by
          rw [hsegments]
          exact List.mem_append_right _ (List.mem_singleton_self _)
        unfold Report.passed
        rw [diagnostics_runChecks,
          verdict_eq_nil_of_lineEnd hlast hline hnames]
        rfl
    next => cases hconfig

/-- A file that is marked by `app.pure()` and reads the clock. -/
def stamped : Source where
  path := ⟨.relative, ["app", "core.py"]⟩
  moduleName := "app.core"
  package := "app"
  tree := ⟨[
    .expression ⟨1, 1, 0⟩ (.call ⟨1, 1, 0⟩
      (.member ⟨1, 1, 0⟩ (.name ⟨1, 1, 0⟩ "app") "pure") [] []),
    Context.clockClass "Watch" [] 2]⟩

/-- The file is reported when the marker is set to the name that it calls. A
line end behind that name is accepted, and the report is gone. -/
theorem stamped_passes_with_line_end :
    (runChecks { marker := "app.pure" } [stamped]).1.passed = false ∧
    Config.ofTable
    [("pure_mod_marker", .text "app.pure\n")] =
      .ok { marker := "app.pure\n" } ∧
    (∀ f ∈ [stamped], f.tree.NamesOnOneLine) ∧
    (runChecks { marker := "app.pure\n" } [stamped]).1.passed = true := by
  obtain ⟨haccepted, -, hworks⟩ := marker_accepted_iff "app.pure\n"
  obtain ⟨config, hconfig⟩ := haccepted.2 (.inr ⟨"app.pure", by decide, rfl⟩)
  obtain ⟨rfl, -, hpasses⟩ := hworks config hconfig
  have hnames : ∀ f ∈ [stamped], f.tree.NamesOnOneLine := by decide +kernel
  refine ⟨?_, hconfig, hnames, hpasses (by decide) [stamped] hnames⟩
  have hfile :
      ((runChecks { marker := "app.pure" } [stamped]).1.registry.get?
        "app.core").any
      (fun d => d.marked && !d.forced && !d.calls.isEmpty) = true := by
    decide +kernel
  obtain ⟨d, hd, hflags⟩ := (Option.any_eq_true _ _).1 hfile
  simp only [Bool.and_eq_true, Bool.not_eq_true',
    List.isEmpty_eq_false_iff] at hflags
  obtain ⟨⟨hmarked, hforced⟩, hcalls⟩ := hflags
  obtain ⟨x, hx, -⟩ := (Registry.exists_finding_iff (keyed_runChecks _ _)).2
    ⟨d, hd, hmarked, hforced, Definition.exists_call_finding.2 hcalls⟩
  unfold Report.passed
  rw [diagnostics_runChecks, List.isEmpty_eq_false_iff]
  exact List.ne_nil_of_mem (List.mem_append_left _ hx)

end Purity
