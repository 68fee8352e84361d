/-
What the rules for patterns read, in the same way as for expressions: the
token that a rule starts at, and every part of the pattern that it gives.
-/
import Purity.Proofs.Expression
import Purity.Syntax.Grammar.Pattern

namespace Purity.Grammar

open Parse

/-- A pattern, as what was read. -/
@[simp, grind =] def ofPattern (p : Pattern) : List Part :=
  [.node (.pattern p)]

variable {inner : Inner} {rule : Parse Pattern} {b c : Cursor}

-- ============================================================= literals

theorem forms_signedNumber (h : inner.Sound) :
    Forms (signedNumber inner) ofExpr := by
  intro c
  unfold signedNumber
  refine .peek ((ensures_tryOp "-").bind fun minus d hd => .peek ?_)
  split
  next =>
    -- the token it starts at is the sign, or that of the number
    have h₁ : ∃ xs, Read c d xs ∧ (d = c ∨ .token c.token ∈ xs) := by
      rcases hd with ⟨-, ht, rfl⟩ | ⟨-, rfl⟩
      · exact ⟨_, Read.token ht, by simp⟩
      · exact ⟨_, Read.start d, Or.inl rfl⟩
    obtain ⟨xs, h₁, hstart⟩ := h₁
    refine h₁.forms (forms_atom h) fun value d₁ h₂ => ?_
    refine .ite (fun _ => ?_) fun _ => .pure (h₂.sub (by grind))
    refine h₂.builds (by grind) ?_
    simp [Expr.span, Expr.children]
    grind
  next => exact .reject

theorem reads_imaginaryPart (h : inner.Sound) {real : Expr} (o : BinaryOp)
    (hc : Read b c (.token b.token :: ofExpr real)) :
    Ensures (imaginaryPart inner b.token real o) c
      fun e d => Read b d (.token b.token :: ofExpr e) := by
  unfold imaginaryPart
  refine .peek ?_
  split
  next =>
    refine hc.forms (forms_atom h) fun imaginary d hd => ?_
    refine .ite (fun _ => .reject) fun _ => ?_
    exact hd.builds (by simp) (by simp [Expr.span, Expr.children])
  next => exact .reject

theorem forms_literalExpression (h : inner.Sound) :
    Forms (literalExpression inner) ofExpr := by
  intro c
  unfold literalExpression
  refine .peek ?_
  split
  next hkind => exact reads_strings h hkind
  next => exact forms_atom h c
  next =>
    refine (Read.start c).forms (forms_signedNumber h) fun real c₁ h₁ => ?_
    refine (looks_isNext _).bind fun _ =>
      .ite (fun _ => ?_) fun _ => .pure (h₁.sub (by simp))
    refine .tryOp (fun _ => ?_) ?_
    · exact reads_imaginaryPart h .add (h₁.step.sub (by simp))
    · refine h₁.forms (forms_op "-") fun _ c₂ h₂ => ?_
      exact reads_imaginaryPart h .sub (h₂.sub (by simp))

theorem forms_dottedName : Forms dottedName fun r => ofExpr r.1 := by
  intro c
  unfold dottedName
  refine .peek ((Read.start c).forms forms_name fun id c₁ h₁ => ?_)
  refine .spanFrom fun span hline _ => ?_
  have hhead : Read c c₁ (.token c.token :: ofExpr (.name span id)) :=
    h₁.built (fun span => .expr (.name span id)) (by simp)
      (by simp [Expr.span, Expr.children]) hline
  refine .loop hhead fun r d hd => ?_
  obtain ⟨e, dotted⟩ := r
  refine .tryOp (fun _ => ?_) (.pure hd)
  refine hd.step.forms forms_name fun id d₁ h₂ => ?_
  refine .spanFrom fun span hline _ => .pure ?_
  exact h₂.built (fun span => .expr (.member span e id)) (by simp)
    (by simp [Expr.span, Expr.children]) hline

theorem forms_captureName : Forms captureName fun _ => [] := by
  intro c
  unfold captureName
  refine .peek (.ite (fun _ => .reject) fun _ => ?_)
  refine (Read.start c).forms forms_name fun id c₁ h₁ => ?_
  exact (looks_isNext _).bind fun _ =>
    .ite (fun _ => .reject) fun _ => .pure (h₁.sub (by simp))

-- ============================================================ sequences

theorem forms_maybeStarPattern (hrule : Forms rule ofPattern) :
    Forms (maybeStarPattern rule) ofPattern := by
  intro c
  unfold maybeStarPattern
  refine .peek (.tryOp (fun ht => ?_) (hrule c))
  have h₁ := (Read.start c).pass ht
  refine .peek (.ite (fun _ => .next ?_) fun _ => ?_)
  · exact h₁.step.builds (by simp) (by simp [Pattern.span, Pattern.children])
  · refine h₁.forms forms_captureName fun id d hd => ?_
    exact hd.builds (by simp) (by simp [Pattern.span, Pattern.children])

theorem forms_openSequence (hrule : Forms rule ofPattern) :
    Forms (openSequence rule) ofPattern := by
  intro c
  unfold openSequence
  refine .peek ((Read.start c).forms
    (forms_commaList (forms_maybeStarPattern hrule)) fun r c₁ h₁ => ?_)
  obtain ⟨items, trailing⟩ := r
  dsimp only
  split
  next => exact .reject
  next => exact .pure (h₁.sub (by simp))
  next => exact h₁.builds (by simp) (by simp [Pattern.span, Pattern.children])

-- ============================================= mappings and objects

/-- A mapping pattern as far as it was read. -/
def MappingEntries.parts (s : MappingEntries) : List Part :=
  s.keys.flatMap ofExpr ++ s.patterns.flatMap ofPattern

theorem forms_mappingPattern (h : inner.Sound)
    (hrule : Forms rule ofPattern) :
    Forms (mappingPattern inner rule) ofPattern := by
  intro c
  unfold mappingPattern
  refine (Read.start c).forms (forms_op "\x7b") fun start c₁ h₁ => ?_
  refine (h₁.repeats MappingEntries.parts (by simp [MappingEntries.parts])
    ?_).bind fun s c₂ h₂ => ?_
  · intro s d ys hd
    refine .peek (.ite (fun _ => .pure hd) fun _ => ?_)
    refine .ite (fun _ => .reject) fun _ => ?_
    have hmore : ∀ (s : MappingEntries) d, Read c d (s.parts ++ ys) →
        Ensures (do
          if ← tryOp "," then return .more s
          else return Turn.done s) d
          fun turn d => Read c d (turn.value.parts ++ ys) :=
      fun s d hd => .tryOp (fun _ => .pure hd.step) (.pure hd)
    refine .tryOp (fun _ => ?_) ?_
    · refine hd.step.forms forms_captureName fun id d₁ h₂ => ?_
      exact hmore _ d₁ (h₂.sub (by grind [MappingEntries.parts]))
    have hentry : ∀ key d, Read c d (ofExpr key ++ s.parts ++ ys) →
        Ensures (do
          let _ ← op ":"
          let p ← rule
          let s : MappingEntries :=
            { s with keys := key :: s.keys, patterns := p :: s.patterns }
          if ← tryOp "," then return .more s
          else return Turn.done s) d
          fun turn d => Read c d (turn.value.parts ++ ys) := by
      intro key d hd
      refine hd.forms (forms_op ":") fun _ d₁ h₂ => ?_
      refine h₂.forms hrule fun p d₂ h₃ => ?_
      exact hmore _ d₂ (h₃.sub (by grind [MappingEntries.parts]))
    refine .peek ?_
    split
    next =>
      refine hd.forms forms_dottedName fun r d₁ h₂ => ?_
      obtain ⟨e, dotted⟩ := r
      refine .ite (fun _ => ?_) fun _ => ?_
      · exact hentry e d₁ (h₂.sub (by grind))
      · exact Ensures.bind (P := fun _ _ => False) .reject
          fun _ _ hnone => hnone.elim
    next =>
      refine hd.forms (forms_literalExpression h) fun key d₁ h₂ => ?_
      exact hentry key d₁ (h₂.sub (by grind))
  · refine h₂.forms (forms_op "\x7d") fun _ c₃ h₃ => ?_
    refine h₃.builds (by simp) ?_
    simp [Pattern.span, Pattern.children, MappingEntries.parts]
    grind

/-- The arguments of an object pattern as far as they were read. -/
def ObjectArguments.parts (s : ObjectArguments) : List Part :=
  s.patterns.flatMap ofPattern ++ s.attrPatterns.flatMap ofPattern

theorem forms_objectArguments (hrule : Forms rule ofPattern) :
    Forms (objectArguments rule) ObjectArguments.parts := by
  intro c
  unfold objectArguments
  refine (Read.start c).forms (forms_op "(") fun _ c₁ h₁ => ?_
  refine (h₁.repeats ObjectArguments.parts
    (by simp [ObjectArguments.parts]) ?_).bind fun s c₂ h₂ => ?_
  · intro s d ys hd
    refine .peek (.ite (fun _ => .pure hd) fun _ => ?_)
    have hmore : ∀ (s : ObjectArguments) d, Read c d (s.parts ++ ys) →
        Ensures (do
          if ← tryOp "," then return .more s
          else return Turn.done s) d
          fun turn d => Read c d (turn.value.parts ++ ys) :=
      fun s d hd => .tryOp (fun _ => .pure hd.step) (.pure hd)
    refine looks_atKeywordArgument.bind fun _ =>
      .ite (fun _ => ?_) fun _ => .ite (fun _ => ?_) fun _ => ?_
    · refine hd.forms forms_name fun id d₁ h₂ => ?_
      refine h₂.forms (forms_op "=") fun _ d₂ h₃ => ?_
      refine h₃.forms hrule fun p d₃ h₄ => ?_
      exact hmore _ d₃ (h₄.sub (by grind [ObjectArguments.parts]))
    · refine hd.forms hrule fun p d₁ h₂ => ?_
      exact hmore _ d₁ (h₂.sub (by grind [ObjectArguments.parts]))
    · exact Ensures.bind (P := fun _ _ => False) .reject
        fun _ _ hnone => hnone.elim
  · refine h₂.forms (forms_op ")") fun _ c₃ h₃ => ?_
    exact .pure (h₃.sub (by grind))

-- ============================================================= patterns

theorem forms_closedPattern (h : inner.Sound)
    (hrule : Forms rule ofPattern) :
    Forms (closedPattern inner rule) ofPattern := by
  intro c
  unfold closedPattern
  -- a pattern that takes its span from the expression it is made of
  have hsame : ∀ (e : Expr) (p : Pattern) d xs,
      Read c d (.token c.token :: .node (.expr e) :: xs) → p.span = e.span →
      (∀ k ∈ p.children, k = .expr e) →
      Read c d (.token c.token :: ofPattern p) := by
    intro e p d xs hd hspan hchildren
    have hnode : Read c d (ofPattern p) := by
      refine hd.nodeOf (k := .expr e) (by simp) ?_ (by simp) fun k hk => ?_
      · exact congrArg some hspan
      · rw [hchildren k hk]
        simp
    have hfirst : Read c d [.token c.token] := hd.sub (by simp)
    exact hnode.and hfirst
  refine .peek ?_
  split
  next spelling id hkind =>
    refine .ite (fun _ => .next ?_) fun _ => ?_
    · exact ((Read.start c).passName hkind).builds (by simp)
        (by simp [Pattern.span, Pattern.children])
    refine (Read.start c).forms forms_dottedName fun r c₁ h₁ => ?_
    obtain ⟨e, dotted⟩ := r
    refine .peek (.ite (fun _ => ?_) fun _ => ?_)
    · refine h₁.forms (forms_objectArguments hrule) fun s c₂ h₂ => ?_
      refine h₂.builds (by simp) ?_
      simp [Pattern.span, Pattern.children, ObjectArguments.parts]
      grind
    refine .peek (.ite (fun _ => .reject) fun _ => ?_)
    split
    next s id =>
      exact .pure (hsame _ _ _ _ h₁ rfl (by simp [Pattern.children]))
    next =>
      exact .pure (hsame _ _ _ _ h₁ rfl (by simp [Pattern.children]))
  next =>
    refine (Read.start c).forms (forms_atom h) fun e c₁ h₁ => ?_
    split
    next s value =>
      exact .pure (hsame _ _ _ _ h₁ rfl (by simp [Pattern.children]))
    next => exact .reject
  next hkind =>
    have h₁ := (Read.start c).pass (by simp [Token.isText, hkind])
    refine .next (.tryOp (fun _ => ?_) ?_)
    · exact h₁.step.builds (by simp) (by simp [Pattern.span,
        Pattern.children])
    · refine h₁.forms (forms_openSequence hrule) fun p c₂ h₂ => ?_
      refine h₂.forms (forms_op ")") fun _ c₃ h₃ => ?_
      exact .pure (h₃.sub (by simp))
  next hkind =>
    have h₁ := (Read.start c).pass (by simp [Token.isText, hkind])
    refine .next (.tryOp (fun _ => ?_) ?_)
    · exact h₁.step.builds (by simp) (by simp [Pattern.span,
        Pattern.children])
    · refine h₁.forms (forms_commaList (forms_maybeStarPattern hrule))
        fun r c₂ h₂ => ?_
      refine h₂.forms (forms_op "]") fun _ c₃ h₃ => ?_
      exact h₃.builds (by simp) (by simp [Pattern.span, Pattern.children])
  next => exact forms_mappingPattern h hrule c
  next =>
    refine (Read.start c).forms (forms_literalExpression h)
      fun e c₁ h₁ => ?_
    exact .pure (hsame _ _ _ _ h₁ rfl (by simp [Pattern.children]))

theorem forms_patternWith (h : inner.Sound) (hrule : Forms rule ofPattern) :
    Forms (patternWith inner rule) ofPattern := by
  intro c
  unfold patternWith
  refine .peek ((Read.start c).forms (forms_closedPattern h hrule)
    fun first c₁ h₁ => ?_)
  refine (h₁.repeats (fun found => found.flatMap ofPattern) (by simp)
    ?_).bind fun found c₂ h₂ => ?_
  · intro found d ys hd
    refine .tryOp (fun _ => ?_) (.pure hd)
    refine hd.step.forms (forms_closedPattern h hrule) fun p d₁ h₂ => ?_
    exact .pure (h₂.sub (by grind))
  have hnamed : ∀ p d, Read c d (.token c.token :: ofPattern p) →
      Ensures (do
        if ← tryKeyword "as" then
          let id ← captureName
          return .capture (← spanFrom c.token) (some p) (some id)
        else return p) d
        fun p d => Read c d (.token c.token :: ofPattern p) := by
    intro p d hd
    refine .tryKeyword (fun _ => ?_) (.pure hd)
    refine hd.step.forms forms_captureName fun id d₁ h₃ => ?_
    exact h₃.builds (by simp) (by simp [Pattern.span, Pattern.children])
  split
  next p => exact hnamed p c₂ (h₂.sub (by simp))
  next =>
    refine .spanFrom fun span hline _ => hnamed _ c₂ ?_
    exact h₂.built (fun span => .pattern (.alternatives span found.reverse))
      (by simp) (by simp +contextual [Pattern.span, Pattern.children]) hline

/-- Nested patterns are read as they are given, at every depth. -/
theorem forms_pattern (h : inner.Sound) (depth : Nat) :
    Forms (pattern inner depth) ofPattern := by
  induction depth with
  | zero => exact fun _ => .reject
  | succ depth ih => exact forms_patternWith h ih

end Purity.Grammar
