/-
The lines of tokens. The lexer reads a text from its start to its end, so
the lines of its tokens never go back, and behind the end of a line they
go on below it (`Ascends`). No token ends below the last line of the text,
and all names are plain.

One step is described once (`Follows`); the rest is an induction over the
steps of a run. Consumed by the proofs about what the grammar reads.
-/
import Purity.Proofs.Word
import Purity.Syntax.Lexer

namespace Purity

namespace Lexer

/-- The number of line ends in a text. -/
def lineEnds (cs : List Char) : Nat := cs.countP (· = '\n')

@[simp] theorem lineEnds_nil : lineEnds [] = 0 := rfl

theorem lineEnds_append (cs ds : List Char) :
    lineEnds (cs ++ ds) = lineEnds cs + lineEnds ds := List.countP_append

theorem lineEnds_cons (c : Char) (cs : List Char) :
    lineEnds (c :: cs) = lineEnds cs + if c = '\n' then 1 else 0 := by
  unfold lineEnds
  rw [List.countP_cons]
  simp

theorem lineEnds_reverse (cs : List Char) :
    lineEnds cs.reverse = lineEnds cs := List.countP_reverse

theorem lineEnds_le_cons (c : Char) (cs : List Char) :
    lineEnds cs ≤ lineEnds (c :: cs) := (List.sublist_cons_self c cs).countP_le

/-- A character that moves from one text to another keeps its line end. -/
theorem lineEnds_move (c : Char) (cs ds : List Char) :
    lineEnds (c :: cs) + lineEnds ds = lineEnds cs + lineEnds (c :: ds) := by
  simp only [lineEnds_cons]
  omega

theorem lineEnds_le_of_suffix {cs ds : List Char} (h : cs <:+ ds) :
    lineEnds cs ≤ lineEnds ds := h.sublist.countP_le

-- ============================================================= numbers

theorem digitGroups_go_suffix {isDigit : Char → Bool}
    (acc cs : List Char) {r : List Char × List Char}
    (h : digitGroups.go isDigit acc cs = some r) : r.2 <:+ cs := by
  fun_induction digitGroups.go isDigit acc cs with
  | case1 => cases h; exact List.suffix_refl _
  | case2 acc c cs hdigit ih => exact (ih h).trans (List.suffix_cons c cs)
  | case3 acc d rest _ _ ih =>
    exact (ih h).trans ((List.suffix_cons d rest).trans
      (List.suffix_cons _ _))
  | case4 => cases h
  | case5 => cases h
  | case6 => cases h; exact List.suffix_refl _

theorem digitGroups_suffix {isDigit : Char → Bool} {cs : List Char}
    {r : List Char × List Char} (h : digitGroups isDigit cs = some r) :
    r.2 <:+ cs := digitGroups_go_suffix [] cs h

theorem basedNumber_suffix {base : Nat} {isDigit : Char → Bool}
    {cs : List Char} {r : Option Constant × List Char}
    (h : basedNumber base isDigit cs = some r) : r.2 <:+ cs := by
  unfold basedNumber at h
  obtain ⟨groups, hgroups, hend⟩ := Option.bind_eq_some_iff.1 h
  have hrest : r.2 = groups.2 := by
    dsimp only at hend
    split at hend
    next => cases hend
    next =>
      split at hend
      next => cases hend
      next =>
        split at hend
        next => cases hend; rfl
        next => cases hend
  rw [hrest]
  refine (digitGroups_suffix hgroups).trans ?_
  split
  next => exact List.suffix_cons _ _
  next => exact List.suffix_refl _

theorem signed_suffix {sign : Int} {cs : List Char}
    {r : Option Int × List Char} (h : exponentPart.signed sign cs = some r) :
    r.2 <:+ cs := by
  obtain ⟨groups, hgroups, rfl⟩ := Option.map_eq_some_iff.1 h
  exact digitGroups_suffix hgroups

theorem exponentPart_suffix {cs : List Char} {r : Option Int × List Char}
    (h : exponentPart cs = some r) : r.2 <:+ cs := by
  have hsame : ∀ ds : List Char, some ((none : Option Int), ds) = some r →
      r.2 <:+ ds := by
    rintro ds ⟨⟩
    exact List.suffix_refl _
  unfold exponentPart at h
  split at h
  next e rest =>
    split at h
    next =>
      split at h
      next d more =>
        split at h
        next =>
          exact (signed_suffix h).trans
            ((List.drop_suffix 1 _).trans (List.suffix_cons _ _))
        next => cases h
      next d more =>
        split at h
        next =>
          exact (signed_suffix h).trans
            ((List.drop_suffix 1 _).trans (List.suffix_cons _ _))
        next => cases h
      next => cases h
      next => cases h
      next =>
        split at h
        next => exact (signed_suffix h).trans (List.suffix_cons _ _)
        next => exact hsame _ h
      next => exact hsame _ h
    next => exact hsame _ h
  next => exact hsame _ h

theorem finish_suffix {fraction : Option (List Char)} {exponent : Option Int}
    {whole : List Char} {value : Binary64} {cs : List Char}
    {r : Option Constant × List Char}
    (h : decimalTail.finish fraction exponent whole value cs = some r) :
    r.2 <:+ cs := by
  unfold decimalTail.finish at h
  split at h
  next => cases h
  next =>
    split at h
    next =>
      split at h
      next =>
        split at h
        next => cases h; exact List.suffix_refl _
        next => cases h
      next => cases h; exact List.suffix_refl _
    next => cases h; exact List.suffix_refl _

theorem fractionPart_suffix {cs : List Char}
    {r : Option (List Char) × List Char} (h : fractionPart cs = some r) :
    r.2 <:+ cs := by
  unfold fractionPart at h
  split at h
  next rest =>
    obtain ⟨groups, hgroups, rfl⟩ := Option.map_eq_some_iff.1 h
    refine List.IsSuffix.trans ?_ (List.suffix_cons _ _)
    split at hgroups
    next => exact digitGroups_suffix hgroups
    next => cases hgroups; exact List.suffix_refl _
  next => cases h; exact List.suffix_refl _

theorem decimalTail_suffix {whole cs : List Char}
    {r : Option Constant × List Char} (h : decimalTail whole cs = some r) :
    r.2 <:+ cs := by
  unfold decimalTail at h
  obtain ⟨fraction, hfraction, h⟩ := Option.bind_eq_some_iff.1 h
  obtain ⟨exponent, hexponent, h⟩ := Option.bind_eq_some_iff.1 h
  have hrest : r.2 <:+ exponent.2 := by
    dsimp only at h
    split at h
    next c rest heq =>
      split at h
      next =>
        split at h
        next => cases h; rw [heq]; exact List.suffix_cons _ _
        next => cases h
      next => exact finish_suffix h
    next => exact finish_suffix h
  exact hrest.trans ((exponentPart_suffix hexponent).trans
    (fractionPart_suffix hfraction))

theorem number_suffix {cs : List Char} {r : Option Constant × List Char}
    (h : number cs = some r) : r.2 <:+ cs := by
  have hdecimal : number.decimal cs = some r → r.2 <:+ cs := by
    intro h
    obtain ⟨groups, hgroups, htail⟩ := Option.bind_eq_some_iff.1 h
    exact (decimalTail_suffix htail).trans (digitGroups_suffix hgroups)
  unfold number at h
  split at h
  next x rest =>
    have hrest : rest <:+ '0' :: x :: rest :=
      (List.suffix_cons x rest).trans (List.suffix_cons _ _)
    split at h
    next => exact (basedNumber_suffix h).trans hrest
    next =>
      split at h
      next => exact (basedNumber_suffix h).trans hrest
      next =>
        split at h
        next => exact (basedNumber_suffix h).trans hrest
        next => exact hdecimal h
  next => exact decimalTail_suffix h
  next => exact hdecimal h

-- ============================================================= strings

/-- The line ends of a string's body and of what follows it are all in the
text. -/
theorem stringBody_lineEnds {quote : Char} {long : Bool} (acc cs : List Char)
    {r : List Char × List Char} (h : stringBody quote long acc cs = some r) :
    lineEnds r.1 + lineEnds r.2 ≤ lineEnds acc + lineEnds cs := by
  fun_induction stringBody quote long acc cs with
  | case1 => cases h
  | case2 acc cs =>
    cases h
    have := lineEnds_le_cons quote cs
    simp only [lineEnds_reverse]
    omega
  | case3 acc _ c₁ c₂ rest =>
    cases h
    have := lineEnds_le_cons quote (c₁ :: c₂ :: rest)
    have := lineEnds_le_cons c₁ (c₂ :: rest)
    have := lineEnds_le_cons c₂ rest
    simp only [lineEnds_reverse]
    omega
  | case4 acc _ c₁ c₂ rest _ ih =>
    rw [← lineEnds_move]
    exact ih h
  | case5 acc cs _ _ ih =>
    rw [← lineEnds_move]
    exact ih h
  | case6 => cases h
  | case7 acc e rest _ _ ih =>
    rw [← lineEnds_move, ← lineEnds_move]
    exact ih h
  | case8 => cases h
  | case9 acc c cs _ _ _ ih =>
    rw [← lineEnds_move]
    exact ih h

theorem string_lineEnds {cs : List Char} {r : Bool × List Char × List Char}
    (h : string cs = some r) :
    lineEnds r.2.1 + lineEnds r.2.2 ≤ lineEnds cs := by
  have hbody : ∀ {quote long ds} {b : List Char × List Char},
      stringBody quote long [] ds = some b → ds <:+ cs →
      lineEnds b.1 + lineEnds b.2 ≤ lineEnds cs := by
    intro quote long ds b hb hds
    have := stringBody_lineEnds [] ds hb
    have := lineEnds_le_of_suffix hds
    simp only [lineEnds_nil] at *
    omega
  unfold string at h
  split at h
  next q q₁ q₂ rest =>
    split at h
    next =>
      obtain ⟨b, hb, rfl⟩ := Option.map_eq_some_iff.1 h
      refine hbody hb ?_
      exact (List.suffix_cons q₂ rest).trans ((List.suffix_cons q₁ _).trans
        (List.suffix_cons q _))
    next =>
      obtain ⟨b, hb, rfl⟩ := Option.map_eq_some_iff.1 h
      exact hbody hb (List.suffix_cons _ _)
  next =>
    obtain ⟨b, hb, rfl⟩ := Option.map_eq_some_iff.1 h
    exact hbody hb (List.suffix_cons _ _)
  next => cases h

end Lexer

-- =============================================================== tokens

namespace Token

/-- Is it a token of the text, and not a sign of its layout or its end? -/
def isText (t : Token) : Bool :=
  match t.kind with
  | .keyword _ | .name .. | .number _ | .string .. | .op _ => true
  | _ => false

/-- The number of line ends in a token. -/
def lineEnds (t : Token) : Nat :=
  match t.kind with
  | .string _ body _ => Lexer.lineEnds body
  | _ => 0

/-- Is it a line of the token? -/
def HasLine (t : Token) (line : Int) : Prop :=
  t.line ≤ line ∧ line ≤ t.line + t.lineEnds

theorem HasLine.first {t : Token} {line : Int} (h : line = t.line) :
    t.HasLine line := ⟨by omega, by omega⟩

/-- A token that is a name is a plain one. -/
def Plain (t : Token) : Prop :=
  ∀ spelling id, t.kind = .name spelling id → Name.Plain id

theorem isText_of_isOp {t : Token} {symbol : String}
    (h : t.isOp symbol = true) : t.isText = true := by
  unfold isOp at h
  unfold isText
  split at h
  next heq => rw [heq]
  next => cases h

theorem isText_of_isKeyword {t : Token} {word : String}
    (h : t.isKeyword word = true) : t.isText = true := by
  unfold isKeyword at h
  unfold isText
  split at h
  next heq => rw [heq]
  next => cases h

theorem isText_of_isSpelled {t : Token} {word : String}
    (h : t.isSpelled word = true) : t.isText = true := by
  unfold isSpelled at h
  unfold isText
  split at h
  next heq => rw [heq]
  next => cases h

theorem isText_of_symbol {t : Token} (h : t.symbol ≠ "") :
    t.isText = true := by
  unfold symbol at h
  unfold isText
  split at h
  next heq => rw [heq]
  next heq => rw [heq]
  next => exact absurd rfl h

/-- Does the token end its text? -/
def isFinal (t : Token) : Bool :=
  match t.kind with
  | .endOfText | .failure _ => true
  | _ => false

theorem isText_eq_false_of_isFinal {t : Token}
    (h : t.isFinal = true) : t.isText = false := by
  unfold isFinal at h
  unfold isText
  split at h
  next heq => rw [heq]
  next heq => rw [heq]
  next => cases h

theorem isLayout_eq_false_of_isText {t : Token} (h : t.isText = true) :
    t.isLayout = false := by
  unfold isText at h
  unfold isLayout
  split at h <;> simp_all

theorem Plain.of_not_isText {t : Token} (h : ¬ t.isText = true) :
    t.Plain := by
  intro _ _ hkind
  simp [isText, hkind] at h

theorem plain_of_kind {t : Token}
    (h : ∀ spelling id, t.kind ≠ .name spelling id) : t.Plain :=
  fun spelling id hkind => absurd hkind (h spelling id)

end Token

-- =========================================================== one step

namespace Lexer

/-- Reading goes on from one place to another that is not above it, and no
line ends are made up. -/
structure Forward (s : State) (cs : List Char) (s' : State)
    (rest : List Char) : Prop where
  line_le : s.line ≤ s'.line
  lineEnds_le : s'.line + lineEnds rest ≤ s.line + lineEnds cs

theorem Forward.trans {s s' s'' : State} {cs cs' cs'' : List Char}
    (h : Forward s cs s' cs') (h' : Forward s' cs' s'' cs'') :
    Forward s cs s'' cs'' :=
  ⟨Nat.le_trans h.line_le h'.line_le,
    Nat.le_trans h'.lineEnds_le h.lineEnds_le⟩

theorem Forward.of_suffix {s s' : State} {cs rest : List Char}
    (h : rest <:+ cs) (hline : s'.line = s.line) : Forward s cs s' rest :=
  ⟨Nat.le_of_eq hline.symm, by
    rw [hline]
    exact Nat.add_le_add_left (lineEnds_le_of_suffix h) _⟩

theorem Forward.nextLine {s : State} (rest : List Char) :
    Forward s ('\n' :: rest) s.nextLine rest :=
  ⟨Nat.le_succ _, Nat.le_of_eq (by
    rw [lineEnds_cons, if_pos rfl]
    exact Nat.add_right_comm s.line 1 _)⟩

/-- What one step of the lexer gives: nothing, the end of a line, a token of
the text from here to where the step ends, or the last token. -/
def Follows (s : State) (cs : List Char) : Step → Prop
  | .skip s' rest => Forward s cs s' rest
  | .emit t s' rest => Forward s cs s' rest ∧
      (t.kind = .newline ∧ s.line < s'.line ∨
        t.isText = true ∧ t.Plain ∧ t.line = s.line ∧
          t.endLine = t.line + t.lineEnds ∧ t.endLine = s'.line)
  | .stop t => t.isFinal = true

theorem Follows.of_forward {s s' : State} {cs cs' : List Char} {step : Step}
    (h : Follows s' cs' step) (hs : Forward s cs s' cs')
    (hline : s'.line = s.line) : Follows s cs step := by
  cases step with
  | skip s'' rest => exact hs.trans h
  | emit t s'' rest =>
    refine ⟨hs.trans h.1, ?_⟩
    rw [← hline]
    exact h.2
  | stop t => exact h

theorem isNameChar_of_isNameStart {c : Char} (h : isNameStart c = true) :
    isNameChar c = true := by
  unfold isNameStart at h
  unfold isNameChar
  simp only [Bool.or_eq_true] at h ⊢
  rcases h with (halpha | hunder) | hhigh
  · exact Or.inl (Or.inl (Bool.or_eq_true_iff.2 (Or.inl halpha)))
  · exact Or.inl (Or.inr hunder)
  · exact Or.inr hhigh

theorem follows_name {s : State} {c : Char} {cs : List Char}
    (hstart : isNameStart c = true) :
    Follows s (c :: cs) (name s (c :: cs)) := by
  have hne : (c :: cs).takeWhile isNameChar ≠ [] := by
    rw [List.takeWhile_cons, isNameChar_of_isNameStart hstart]
    exact List.cons_ne_nil _ _
  have hword : ∀ d ∈ (c :: cs).takeWhile isNameChar, isNameChar d = true :=
    fun d hd => List.all_eq_true.1 List.all_takeWhile d hd
  have hforward : ∀ s', s'.line = s.line →
      Forward s (c :: cs) s' ((c :: cs).dropWhile isNameChar) :=
    fun s' hline => .of_suffix (List.dropWhile_suffix _) hline
  unfold name
  dsimp only
  split
  next =>
    split
    next =>
      refine ⟨hforward _ rfl, Or.inr ⟨rfl, ?_, rfl, rfl, rfl⟩⟩
      exact Token.plain_of_kind fun _ _ h => by cases h
    next =>
      refine ⟨hforward _ rfl, Or.inr ⟨rfl, ?_, rfl, rfl, rfl⟩⟩
      rintro _ _ ⟨⟩
      exact plain_word hne hword
  next =>
    split
    next =>
      refine ⟨hforward _ rfl, Or.inr ⟨rfl, ?_, rfl, rfl, rfl⟩⟩
      rintro _ _ ⟨⟩
      exact Text.Compatibility.plain_normalize hne
        fun d hd => firstDigit_le_of_isNameChar (hword d hd)
    next => rfl

theorem follows_stringToken {s : State} {marks cs : List Char} :
    Follows s cs (stringToken s marks cs) := by
  unfold stringToken
  split
  next => rfl
  next long body rest hstring =>
    have hends : lineEnds body + lineEnds rest ≤ lineEnds cs :=
      string_lineEnds hstring
    dsimp only
    generalize List.replicate (if long = true then 3 else 1) '"' = quotes
    have hplain : ∀ column, Token.Plain { s.token (.string marks body column)
        with endLine := s.line + lineEnds body } := fun column =>
      Token.plain_of_kind fun _ _ h => by cases h
    by_cases hone : body.countP (· = '\n') = 0
    · rw [if_pos hone]
      refine ⟨⟨Nat.le_refl _, ?_⟩, Or.inr ⟨rfl, hplain _, rfl, rfl, ?_⟩⟩
      · exact Nat.add_le_add_left (Nat.le_trans (Nat.le_add_left _ _) hends) _
      · exact congrArg (s.line + ·) hone
    · rw [if_neg hone]
      refine ⟨⟨Nat.le_add_right _ _, ?_⟩,
        Or.inr ⟨rfl, hplain _, rfl, rfl, rfl⟩⟩
      show s.line + lineEnds body + lineEnds rest ≤ s.line + lineEnds cs
      omega

theorem follows_punctuation {s : State} {cs : List Char} :
    Follows s cs (punctuation s cs) := by
  have hemit : ∀ (op : List Char) (depth : Nat) (s' : State),
      s'.line = s.line →
      Follows s cs (.emit { s.token (.op (String.ofList op)) with depth } s'
        (cs.drop op.length)) := by
    intro op depth s' hline
    refine ⟨.of_suffix (List.drop_suffix _ _) hline,
      Or.inr ⟨rfl, ?_, rfl, rfl, hline.symm⟩⟩
    exact Token.plain_of_kind fun _ _ h => by cases h
  unfold punctuation
  dsimp only
  split
  next c _ =>
    split
    next =>
      split
      next => rfl
      next => exact hemit _ _ _ (by rfl)
    next =>
      split
      next =>
        split
        next =>
          split
          next => exact hemit _ _ _ (by rfl)
          next => rfl
        next => rfl
      next =>
        split
        next => exact hemit _ _ _ (by rfl)
        next => rfl
  next => exact hemit _ _ _ (by rfl)

theorem line_skipBlanks (s : State) (cs : List Char) :
    (skipBlanks s cs).1.line = s.line := by
  unfold skipBlanks
  dsimp only
  split
  next => rfl
  next => rfl

theorem skipBlanks_suffix (s : State) (cs : List Char) :
    (skipBlanks s cs).2 <:+ cs := by
  unfold skipBlanks
  dsimp only
  split
  next rest _ =>
    exact (List.dropWhile_suffix _).trans (List.dropWhile_suffix _)
  next => exact List.dropWhile_suffix _

theorem follows_step (s : State) (blank : Bool) (cs : List Char) :
    Follows s cs (step s blank cs) := by
  have hline := line_skipBlanks s cs
  have hforward := Forward.of_suffix (skipBlanks_suffix s cs) hline
  unfold step
  refine Follows.of_forward ?_ hforward hline
  generalize skipBlanks s cs = r
  obtain ⟨s, cs⟩ := r
  dsimp only
  split
  next =>
    split
    next => rfl
    next => rfl
  next rest =>
    have hnext : Forward s ('\n' :: rest) s.nextLine rest := .nextLine rest
    split
    next => exact ⟨hnext.1, hnext.2⟩
    next => exact ⟨⟨hnext.1, hnext.2⟩, Or.inl ⟨rfl, Nat.lt_succ_self _⟩⟩
  next rest =>
    split
    next => rfl
    next =>
      have hcons : Forward s ('\\' :: '\n' :: rest) s ('\n' :: rest) :=
        .of_suffix (List.suffix_cons _ _) rfl
      exact hcons.trans (.nextLine rest)
  next => rfl
  next c rest _ _ _ =>
    split
    next =>
      exact follows_stringToken.of_forward
        (.of_suffix (List.drop_suffix _ _) rfl) rfl
    next =>
      split
      next hstart => exact follows_name hstart
      next =>
        split
        next =>
          split
          next => rfl
          next value rest hnumber =>
            refine ⟨.of_suffix (number_suffix hnumber) rfl,
              Or.inr ⟨rfl, ?_, rfl, rfl, rfl⟩⟩
            exact Token.plain_of_kind fun _ _ h => by cases h
        next => exact follows_punctuation

-- ========================================================= indentation

/-- What reading the start of a line gives: a place to go on from, or the
last token. -/
def Begins (s : State) (cs : List Char) : MarginResult → Prop
  | .found _ s' rest => Forward s cs s' rest
  | .failed t => t.isFinal = true

theorem Begins.of_forward {s s' : State} {cs cs' : List Char}
    {r : MarginResult} (h : Begins s' cs' r) (hs : Forward s cs s' cs') :
    Begins s cs r := by
  cases r with
  | found m s'' rest => exact hs.trans h
  | failed t => exact h

theorem begins_readMargin (m : Margin) (s : State) (cs : List Char) :
    Begins s cs (readMargin m s cs) := by
  fun_induction readMargin m s cs with
  | case1 m s cs ih =>
    exact ih.of_forward (.of_suffix (List.suffix_cons _ _) rfl)
  | case2 m s cs ih =>
    exact ih.of_forward (.of_suffix (List.suffix_cons _ _) rfl)
  | case3 m s cs ih =>
    exact ih.of_forward (.of_suffix (List.suffix_cons _ _) rfl)
  | case4 => rfl
  | case5 m s cs _ _ ih =>
    have hcons : Forward s ('\\' :: '\n' :: cs) s ('\n' :: cs) :=
      .of_suffix (List.suffix_cons _ _) rfl
    exact ih.of_forward (hcons.trans (.nextLine cs))
  | case6 => rfl
  | case7 => exact .of_suffix (List.suffix_refl _) rfl

/-- A change of indentation gives the tokens of the change, or the last
token. -/
theorem indentTokens_cases (line : Nat) (m : Margin) (s : State) :
    (∃ t, indentTokens line m s = ([t], s, true) ∧ t.isFinal = true) ∨
      ∃ tokens s', indentTokens line m s = (tokens, s', false) ∧
        s'.line = s.line ∧
        ∀ t ∈ tokens, t.kind = .indent ∨ t.kind = .dedent := by
  have hfailed : (s.fail line false).isFinal = true := rfl
  unfold indentTokens
  dsimp only
  generalize (if m.fixed = 0 then m.width else m.fixed) = width
  generalize (if m.fixed = 0 then m.altWidth else m.fixed) = altWidth
  split
  next => exact Or.inl ⟨_, rfl, hfailed⟩
  next w a _ _ =>
    split
    next =>
      split
      next => exact Or.inr ⟨_, _, rfl, rfl, by simp⟩
      next => exact Or.inl ⟨_, rfl, hfailed⟩
    next =>
      split
      next =>
        split
        next => exact Or.inl ⟨_, rfl, hfailed⟩
        next => exact Or.inr ⟨_, _, rfl, rfl, by simp [State.token]⟩
      next =>
        split
        next => exact Or.inr ⟨_, _, rfl, rfl, by simp [State.token]⟩
        next => exact Or.inl ⟨_, rfl, hfailed⟩

-- =========================================================== whole runs

/-- Tokens in the order of a text. Lines do not go back from a line on, the
line behind the end of a line is below it, and the last line is the bound
of all. The last token, and no other, ends the text. -/
inductive Ascends (bound : Nat) : (floor : Nat) → List Token → Prop
  | final {floor : Nat} {t : Token} (ht : t.isFinal = true) :
      Ascends bound floor [t]
  | newline {floor : Nat} {t : Token} {ts : List Token}
      (ht : t.kind = .newline) (h : Ascends bound (floor + 1) ts) :
      Ascends bound floor (t :: ts)
  | block {floor : Nat} {t : Token} {ts : List Token}
      (ht : t.kind = .indent ∨ t.kind = .dedent) (h : Ascends bound floor ts) :
      Ascends bound floor (t :: ts)
  | text {floor : Nat} {t : Token} {ts : List Token} (ht : t.isText = true)
      (hplain : t.Plain) (hline : floor ≤ t.line)
      (hend : t.endLine = t.line + t.lineEnds)
      (hbound : t.endLine ≤ bound) (h : Ascends bound t.endLine ts) :
      Ascends bound floor (t :: ts)

variable {bound floor : Nat} {ts : List Token}

theorem Ascends.ne_nil (h : Ascends bound floor ts) : ts ≠ [] := by
  cases h <;> exact List.cons_ne_nil _ _

/-- Tokens from a line on are tokens from any line above it on. -/
theorem Ascends.anti (h : Ascends bound floor ts) {floor' : Nat}
    (hle : floor' ≤ floor) : Ascends bound floor' ts := by
  induction h generalizing floor' with
  | final ht => exact .final ht
  | newline ht _ ih => exact .newline ht (ih (Nat.succ_le_succ hle))
  | block ht _ ih => exact .block ht (ih hle)
  | text ht hplain hline hend hbound h _ =>
    exact .text ht hplain (Nat.le_trans hle hline) hend hbound h

theorem Ascends.append_block {tokens : List Token}
    (htokens : ∀ t ∈ tokens, t.kind = .indent ∨ t.kind = .dedent)
    (h : Ascends bound floor ts) : Ascends bound floor (tokens ++ ts) := by
  induction tokens with
  | nil => exact h
  | cons t tokens ih =>
    obtain ⟨ht, htokens⟩ := List.forall_mem_cons.1 htokens
    exact .block ht (ih htokens)

/-- A run adds tokens of the text from where it starts on. -/
theorem run_ascends (steps : Nat) :
    ∀ (s : State) (cs : List Char) (made : List Token),
      s.line + lineEnds cs ≤ bound →
        ∃ ts, run steps s cs made = ts.reverse ++ made ∧
          Ascends bound s.line ts := by
  induction steps with
  | zero =>
    intro s cs made _
    refine ⟨[s.fail s.line true], ?_, .final rfl⟩
    rw [run]
    rfl
  | succ steps ih =>
    intro s cs made hbound
    -- what follows a step, wherever on the line it is made
    have hgo : ∀ (s' : State) (blank : Bool) (cs' : List Char)
        (made : List Token), Forward s cs s' cs' → ∃ ts,
        run.go steps s' blank cs' made = ts.reverse ++ made ∧
          Ascends bound s.line ts := by
      intro s' blank cs' made hs'
      rw [run.go]
      have hstep := follows_step s' blank cs'
      split
      next s'' rest heq =>
        rw [heq] at hstep
        have hforward := hs'.trans hstep
        obtain ⟨ts, hts, hasc⟩ :=
          ih s'' rest made (Nat.le_trans hforward.lineEnds_le hbound)
        exact ⟨ts, hts, hasc.anti hforward.line_le⟩
      next t s'' rest heq =>
        rw [heq] at hstep
        obtain ⟨hstep, hkind⟩ := hstep
        have hforward := hs'.trans hstep
        obtain ⟨ts, hts, hasc⟩ := ih s'' rest (t :: made)
          (Nat.le_trans hforward.lineEnds_le hbound)
        refine ⟨t :: ts, by simp [hts], ?_⟩
        rcases hkind with ⟨ht, hline⟩ | ⟨ht, hplain, hline, hends, hend⟩
        · exact .newline ht (hasc.anti (Nat.lt_of_le_of_lt hs'.line_le hline))
        · refine .text ht hplain ?_ hends ?_ ?_
          · rw [hline]
            exact hs'.line_le
          · rw [hend]
            exact Nat.le_trans (Nat.le_add_right _ _)
              (Nat.le_trans hforward.lineEnds_le hbound)
          · rw [hend]
            exact hasc
      next t heq =>
        rw [heq] at hstep
        exact ⟨[t], rfl, .final hstep⟩
    rw [run]
    split
    next =>
      have hmargin := begins_readMargin {} s cs
      split
      next t heq =>
        rw [heq] at hmargin
        exact ⟨[t], rfl, .final hmargin⟩
      next m s' rest heq =>
        rw [heq] at hmargin
        dsimp only
        split
        next => exact hgo _ _ _ _ ⟨hmargin.1, hmargin.2⟩
        next =>
          generalize (if rest.isEmpty = true then _ else _) = line
          rcases indentTokens_cases line m { s' with atLineStart := false }
            with ⟨t, heq, ht⟩ | ⟨tokens, s'', heq, hline, hkinds⟩
          · rw [heq]
            exact ⟨[t], rfl, .final ht⟩
          · rw [heq]
            have hs'' : Forward s cs s'' rest := by
              refine ⟨?_, ?_⟩
              · rw [hline]
                exact hmargin.1
              · rw [hline]
                exact hmargin.2
            obtain ⟨ts, hts, hasc⟩ := hgo s'' false rest (tokens ++ made) hs''
            refine ⟨tokens.reverse ++ ts, by simp [hts], ?_⟩
            exact hasc.append_block fun t ht =>
              hkinds t (List.mem_reverse.1 ht)
    next => exact hgo s false cs made ⟨Nat.le_refl _, Nat.le_refl _⟩

/-- The tokens of a text are in its order. -/
theorem tokensFrom_ascends (s : State) (cs : List Char) :
    Ascends (s.line + lineEnds cs) s.line (tokensFrom s cs) := by
  obtain ⟨ts, hts, hasc⟩ :=
    run_ascends (cs.length + 1) s cs [] (Nat.le_refl _)
  unfold tokensFrom
  rw [hts, List.append_nil, List.reverse_reverse]
  exact hasc

theorem Ascends.plain (h : Ascends bound floor ts) : ∀ t ∈ ts, t.Plain := by
  induction h with
  | final ht => exact List.forall_mem_singleton.2 (.of_not_isText (by
      simp [Token.isText_eq_false_of_isFinal ht]))
  | newline ht _ ih =>
    refine List.forall_mem_cons.2 ⟨.of_not_isText ?_, ih⟩
    simp [Token.isText, ht]
  | block ht _ ih =>
    refine List.forall_mem_cons.2 ⟨.of_not_isText ?_, ih⟩
    rcases ht with ht | ht <;> simp [Token.isText, ht]
  | text _ hplain _ _ _ _ ih => exact List.forall_mem_cons.2 ⟨hplain, ih⟩

theorem Ascends.lines (h : Ascends bound floor ts) :
    ∀ t ∈ ts, t.isText = true →
      floor ≤ t.line ∧ t.line + t.lineEnds ≤ bound := by
  induction h with
  | final ht =>
    refine List.forall_mem_singleton.2 fun htext => ?_
    rw [Token.isText_eq_false_of_isFinal ht] at htext
    cases htext
  | newline ht _ ih =>
    refine List.forall_mem_cons.2 ⟨fun htext => ?_, fun t hmem htext => ?_⟩
    · simp [Token.isText, ht] at htext
    · obtain ⟨hline, hend⟩ := ih t hmem htext
      exact ⟨Nat.le_of_succ_le hline, hend⟩
  | block ht _ ih =>
    refine List.forall_mem_cons.2 ⟨fun htext => ?_, ih⟩
    rcases ht with ht | ht <;> simp [Token.isText, ht] at htext
  | text _ _ hline hend hbound _ ih =>
    rw [hend] at hbound ih
    refine List.forall_mem_cons.2 ⟨fun _ => ⟨hline, hbound⟩, ?_⟩
    intro t hmem htext
    obtain ⟨hline', hend'⟩ := ih t hmem htext
    exact ⟨by omega, hend'⟩

end Lexer

end Purity
