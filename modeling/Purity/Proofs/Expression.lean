/-
What the rules for expressions read. Each rule passes the token that it
starts at, and the expression that it gives is made of parts that the rule
read on its way: `Forms`. The lemmas follow the rules one by one, and the
nested rules by induction on their depth (`sound_inner`).
-/
import Purity.Proofs.FieldLines
import Purity.Proofs.Reading
import Purity.Syntax.Grammar.Expression

namespace Purity.Grammar

open Parse

/-- The nested rules read what they give. -/
structure Inner.Sound (inner : Inner) : Prop where
  expression : Forms inner.expression ofExpr
  disjunction : Forms inner.disjunction ofExpr
  inversion : Forms inner.inversion ofExpr
  bitOr : Forms inner.bitOr ofExpr
  factor : Forms inner.factor ofExpr

variable {inner : Inner} {rule : Parse Expr} {b c : Cursor} {xs : List Part}

-- ============================================================== targets

theorem forms_starredWith (hrule : Forms rule ofExpr) :
    Forms (starredWith rule) ofExpr := by
  intro c
  unfold starredWith
  refine (Read.start c).forms (forms_op "*") fun start c₁ h₁ => ?_
  refine h₁.forms hrule fun value c₂ h₂ => ?_
  exact h₂.builds (by simp) (by simp [Expr.span, Expr.children])

theorem forms_tupleOf (hrule : Forms rule ofExpr) :
    Forms (tupleOf rule) ofExpr := by
  intro c
  unfold tupleOf
  refine .peek ?_
  refine (Read.start c).forms (forms_commaList hrule) fun r c₁ h₁ => ?_
  obtain ⟨items, trailing⟩ := r
  dsimp only
  split
  next e => exact .pure (h₁.sub (by simp))
  next =>
    exact h₁.builds (by simp) (by simp [Expr.span, Expr.children])

theorem forms_starTarget (h : inner.Sound) :
    Forms (starTarget inner) ofExpr := by
  intro c
  unfold starTarget
  have htarget : ∀ target d, Read c d (.token c.token :: ofExpr target) →
      Ensures (if isTarget target = true then pure target else reject) d
        fun e d => Read c d (.token c.token :: ofExpr e) :=
    fun _ _ hd => .ite (fun _ => .pure hd) fun _ => .reject
  refine .peek (.ite (fun _ => ?_) fun _ => ?_)
  · exact (forms_starredWith h.bitOr c).bind htarget
  · exact (h.bitOr c).bind htarget

theorem forms_starTargets (h : inner.Sound) :
    Forms (starTargets inner) ofExpr :=
  forms_tupleOf (forms_starTarget h)

-- ======================================================== common forms

theorem forms_namedExpression (hrule : Forms rule ofExpr) :
    Forms (namedExpression rule) ofExpr := by
  have hplain : Forms (namedExpression.plain rule) ofExpr := by
    intro c
    refine (hrule c).bind fun e d hd => ?_
    exact .peek (.ite (fun _ => .reject) fun _ => .pure hd)
  intro c
  unfold namedExpression
  refine .peek ?_
  split
  next spelling id hkind =>
    refine looks_peekSecond.bind fun second =>
      .ite (fun _ => ?_) fun _ => hplain c
    have h₁ := (Read.start c).passName hkind
    refine .next (.spanFrom fun span hline _ => ?_)
    have h₂ : Read c c.behind (ofExpr (.name span id)) :=
      h₁.node (by simp [Node.span?, Expr.span, hline]) (by simp)
        (by simp [Node.children, Expr.children])
    refine .next ((h₁.and h₂).step.forms hrule fun value c₃ h₃ => ?_)
    exact h₃.builds (by simp) (by simp [Expr.span, Expr.children])
  next => exact hplain c

theorem forms_starNamedExpression (h : inner.Sound) :
    Forms (starNamedExpression inner) ofExpr := fun c =>
  .peek (.ite (fun _ => forms_starredWith h.bitOr c)
    fun _ => forms_namedExpression h.expression c)

theorem forms_starExpression (h : inner.Sound) :
    Forms (starExpression inner) ofExpr := fun c =>
  .peek (.ite (fun _ => forms_starredWith h.bitOr c)
    fun _ => h.expression c)

theorem forms_starExpressions (h : inner.Sound) :
    Forms (starExpressions inner) ofExpr :=
  forms_tupleOf (forms_starExpression h)

theorem forms_yieldExpression (h : inner.Sound) :
    Forms (yieldExpression inner) ofExpr := by
  intro c
  unfold yieldExpression
  refine (Read.start c).forms (forms_keyword "yield") fun start c₁ h₁ => ?_
  refine .tryKeyword (fun ht => ?_) ?_
  · refine (h₁.pass ht).forms h.expression fun value c₂ h₂ => ?_
    exact h₂.builds (by simp) (by simp [Expr.span, Expr.children])
  · refine h₁.reads (reads_optional (forms_starExpressions h).reads)
      fun value c₂ h₂ => ?_
    exact h₂.builds (by simp) (by simp [Expr.span, Expr.children])

-- ====================================================== comprehensions

/-- A clause, as what was read. -/
@[simp, grind =] def ofClause (c : Clause Expr) : List Part :=
  [.node (.clause c)]

theorem looks_atClause : Looks atClause := looks_isNext _

theorem reads_clause (h : inner.Sound) : Reads (clause inner) ofClause := by
  intro c
  unfold clause
  refine (Read.start c).reads (reads_tryKeyword "async")
    fun isAsync c₁ h₁ => ?_
  refine h₁.forms (forms_keyword "for") fun _ c₂ h₂ => ?_
  refine h₂.forms (forms_starTargets h) fun target c₃ h₃ => ?_
  refine h₃.forms (forms_keyword "in") fun _ c₄ h₄ => ?_
  refine h₄.forms h.disjunction fun iterable c₅ h₅ => ?_
  refine (h₅.repeats (fun found => found.flatMap ofExpr) (by simp) ?_).bind
    fun conditions c₆ h₆ => .pure ?_
  · intro found d ys hd
    refine .tryKeyword (fun ht => ?_) (.pure hd)
    refine (hd.pass ht).forms h.disjunction fun e d' hd' => ?_
    exact .pure (hd'.sub (by grind))
  · exact h₆.node (by simp [Node.span?]) (by simp)
      (by simp +contextual [Node.children])

theorem reads_clauses (h : inner.Sound) :
    Reads (clauses inner) fun cs => cs.flatMap ofClause := by
  intro c
  unfold clauses
  refine (Read.start c).reads (reads_clause h) fun first c₁ h₁ => ?_
  refine (h₁.repeats (fun found => found.flatMap ofClause) (by simp) ?_).bind
    fun all c₂ h₂ => .pure (h₂.sub (by grind))
  intro found d ys hd
  refine looks_atClause.bind fun more => .ite (fun _ => ?_) fun _ => .pure hd
  refine hd.reads (reads_clause h) fun x d' hd' => ?_
  exact .pure (hd'.sub (by grind))

-- ========================================================== parameters

/-- A parameter, as what was read. -/
@[simp, grind =] def ofParam (p : Param Expr) : List Part := [.node (.param p)]

/-- A parameter list as far as it was read. -/
def ParamState.parts (s : ParamState) : List Part :=
  (s.positional ++ s.positionalOnly.getD [] ++ s.rest.toList ++
      s.keywordOnly ++ s.keywordRest.toList).flatMap ofParam ++
    s.defaults.flatMap ofExpr ++
    s.keywordDefaults.flatMap fun e => e.toList.flatMap ofExpr

theorem forms_param (h : inner.Sound) (annotations starAnnotation : Bool) :
    Forms (param inner annotations starAnnotation) ofParam := by
  intro c
  unfold param
  refine .peek ((Read.start c).forms forms_name fun id c₁ h₁ => ?_)
  -- the name alone, or the name and what is read of an annotation
  have hmade : ∀ (hint : Option Expr) d,
      Read c d (.token c.token :: hint.toList.flatMap ofExpr) →
      Ensures (do return ⟨← spanFrom c.token, id, hint⟩) d
        fun p d => Read c d (.token c.token :: ofParam p) := by
    intro hint d hd
    exact hd.builds (by simp) (by simp)
  cases annotations with
  | false => exact hmade none c₁ (h₁.sub (by simp))
  | true =>
    refine .tryOp (fun ht => ?_) (hmade none c₁ (h₁.sub (by simp)))
    have h₂ := h₁.pass ht
    cases starAnnotation with
    | true =>
      refine h₂.forms (forms_starExpression h) fun e d hd => ?_
      exact hmade (some e) d (hd.sub (by simp))
    | false =>
      refine h₂.forms h.expression fun e d hd => ?_
      exact hmade (some e) d (hd.sub (by simp))

theorem reads_paramDefault (h : inner.Sound) :
    Reads (paramDefault inner) fun o => o.toList.flatMap ofExpr := by
  intro c
  unfold paramDefault
  refine .tryOp (fun ht => ?_) (.pure ((Read.start c).sub (by simp)))
  refine ((Read.start c).pass ht).forms h.expression fun e c₁ h₁ => ?_
  exact .pure (h₁.sub (by simp))

theorem reads_paramEntry (h : inner.Sound) (annotations : Bool)
    {s : ParamState} (hs : Read b c s.parts) :
    Ensures (paramEntry inner annotations s) c
      fun s d => Read b d s.parts := by
  unfold paramEntry
  refine .ite (fun _ => .reject) fun _ => ?_
  refine .tryOp (fun _ => ?_) (.tryOp (fun _ => ?_) (.tryOp (fun _ => ?_) ?_))
  · refine .ite (fun _ => .reject) fun hnot => .pure (hs.step.sub ?_)
    simp only [Bool.or_eq_true, not_or, Bool.not_eq_true,
      Option.isSome_eq_false_iff, Option.isNone_iff_eq_none] at hnot
    simp [ParamState.parts, hnot.1.2]
  · refine .ite (fun _ => .reject) fun _ => ?_
    refine hs.step.forms (forms_param h annotations false)
      fun p d hd => .pure (hd.sub ?_)
    grind [ParamState.parts]
  · refine .ite (fun _ => .reject) fun _ => ?_
    refine .peek (.ite (fun _ => .pure hs.step) fun _ => ?_)
    refine hs.step.forms (forms_param h annotations true)
      fun p d hd => .pure (hd.sub ?_)
    grind [ParamState.parts]
  · refine hs.forms (forms_param h annotations false) fun p d hd => ?_
    refine hd.reads (reads_paramDefault h) fun default e he => ?_
    cases default with
    | some e =>
      exact .ite (fun _ => .pure (he.sub (by grind [ParamState.parts])))
        fun _ => .pure (he.sub (by grind [ParamState.parts]))
    | none =>
      refine .ite (fun _ => .pure (he.sub (by grind [ParamState.parts])))
        fun _ => .ite (fun _ => .pure ?_) fun _ => .reject
      exact he.sub (by grind [ParamState.parts])

theorem reads_params (h : inner.Sound) (annotations : Bool)
    (closing : String) :
    Reads (params inner annotations closing)
      fun ps => [.node (.params ps)] := by
  intro c
  unfold params
  refine Ensures.bind (P := fun s d => Read c d s.parts) ?_ fun s d hd => ?_
  · refine .loop ((Read.start c).sub (by simp [ParamState.parts]))
      fun s d hd => ?_
    refine .peek (.ite (fun _ => .pure hd) fun _ => ?_)
    refine (reads_paramEntry h annotations hd).bind fun s d hd => ?_
    refine .tryOp (fun _ => .pure hd.step) ?_
    exact .peek (.ite (fun _ => .pure hd) fun _ => .reject)
  · refine .ite (fun _ => .reject) fun _ => .pure ?_
    exact hd.node (by simp [Node.span?]) (by simp)
      (by simp [Node.children, ParamState.parts]; grind)

theorem forms_lambda (h : inner.Sound) : Forms (lambda inner) ofExpr := by
  intro c
  unfold lambda
  refine (Read.start c).forms (forms_keyword "lambda") fun start c₁ h₁ => ?_
  refine h₁.reads (reads_params h false ":") fun ps c₂ h₂ => ?_
  refine h₂.forms (forms_op ":") fun _ c₃ h₃ => ?_
  refine h₃.forms h.expression fun body c₄ h₄ => ?_
  exact h₄.builds (by simp) (by simp [Expr.span, Expr.children])

-- =========================================================== arguments

/-- An argument with a name, as what was read. -/
@[simp, grind =] def ofKeyword (k : Keyword Expr) : List Part :=
  [.node (.keyword k)]

/-- An argument list as far as it was read. -/
def Arguments.parts (s : Arguments) : List Part :=
  s.args.flatMap ofExpr ++ s.keywords.flatMap ofKeyword ++
    s.generator.toList.flatMap fun g => ofExpr g.1 ++ g.2.flatMap ofClause

theorem looks_atKeywordArgument : Looks atKeywordArgument := by
  intro c
  refine .peek ?_
  split
  next => exact looks_peekSecond.bind fun _ => .pure rfl
  next => exact .pure rfl

theorem forms_keywordArgument (h : inner.Sound) :
    Forms (keywordArgument inner) ofKeyword := by
  intro c
  unfold keywordArgument
  refine .peek ((Read.start c).forms forms_name fun id c₁ h₁ => ?_)
  refine h₁.forms (forms_op "=") fun _ c₂ h₂ => ?_
  refine h₂.forms h.expression fun value c₃ h₃ => ?_
  exact h₃.builds (by simp) (by simp)

theorem reads_argument (h : inner.Sound) {s : Arguments}
    (hs : Read b c s.parts) :
    Ensures (argument inner s) c fun s d => Read b d s.parts := by
  unfold argument
  refine .peek (.ite (fun _ => ?_) fun _ => ?_)
  · refine .ite (fun _ => .reject) fun _ => ?_
    refine hs.forms (forms_starredWith h.expression) fun e d hd => ?_
    exact .pure (hd.sub (by grind [Arguments.parts]))
  refine .tryOp (fun ht => ?_) ?_
  · refine (hs.pass ht).forms h.expression fun value d hd => ?_
    refine .spanFrom fun span hline _ => .pure ?_
    have hnode : Read b d (ofKeyword ⟨span, none, value⟩) :=
      hd.node (by simp [Node.span?, hline]) (by simp)
        (by simp [Node.children])
    exact (hd.and hnode).sub (by grind [Arguments.parts])
  refine looks_atKeywordArgument.bind fun _ => .ite (fun _ => ?_) fun _ => ?_
  · refine hs.forms (forms_keywordArgument h) fun k d hd => ?_
    exact .pure (hd.sub (by grind [Arguments.parts]))
  refine .ite (fun _ => .reject) fun _ => ?_
  refine hs.forms (forms_namedExpression h.expression) fun e d hd => ?_
  refine looks_atClause.bind fun _ => .ite (fun _ => ?_) fun _ => ?_
  · refine hd.reads (reads_clauses h) fun cs d' hd' => ?_
    refine .peek (.ite (fun _ => .reject) fun _ => .pure (hd'.sub ?_))
    grind [Arguments.parts]
  · exact .pure (hd.sub (by grind [Arguments.parts]))

theorem reads_arguments (h : inner.Sound) :
    Reads (arguments inner) Arguments.parts := by
  intro c
  unfold arguments
  refine Ensures.bind (P := fun s d => Read c d s.parts) ?_ fun s d hd => ?_
  · refine .loop ((Read.start c).sub (by simp [Arguments.parts]))
      fun s d hd => ?_
    refine .peek (.ite (fun _ => .pure hd) fun _ => ?_)
    refine (reads_argument h hd).bind fun s d hd => ?_
    exact .tryOp (fun _ => .pure hd.step) (.pure hd)
  · exact .pure (hd.sub (by grind [Arguments.parts]))

theorem forms_callArguments (h : inner.Sound) :
    Forms (callArguments inner)
      fun s => s.args.flatMap ofExpr ++ s.keywords.flatMap ofKeyword := by
  intro c
  unfold callArguments
  refine (Read.start c).forms (forms_op "(") fun start c₁ h₁ => ?_
  refine h₁.reads (reads_arguments h) fun s c₂ h₂ => ?_
  refine h₂.forms (forms_op ")") fun _ c₃ h₃ => ?_
  split
  next item cs hgenerator =>
    refine .spanFrom fun span hline _ => .pure ?_
    have hnode : Read c c₃
        (ofExpr (.comprehension span .generator item cs)) := by
      refine h₃.node ?_ (by simp) ?_
      · rintro _ ⟨⟩
        exact ⟨start, by simp, hline⟩
      · simp [Node.children, Expr.children, Arguments.parts, hgenerator]
    exact (h₃.and hnode).sub (by simp)
  next => exact .pure (h₃.sub (by grind [Arguments.parts]))

-- ========================================================== subscripts

theorem reads_bound (h : inner.Sound) :
    Reads (index.bound inner) fun o => o.toList.flatMap ofExpr := by
  intro c
  unfold index.bound
  refine (looks_isNext _).bind fun _ => .ite (fun _ => ?_) fun _ => ?_
  · exact .pure ((Read.start c).sub (by simp))
  · refine (h.expression c).bind fun e d hd => .pure (hd.sub (by simp))

theorem reads_slice (h : inner.Sound) {lower : Option Expr}
    (hr : Read b c xs) (hb : c = b ∨ .token b.token ∈ xs)
    (hlower : ∀ e ∈ lower, .node (.expr e) ∈ xs) :
    Ensures (index.slice inner b.token lower) c
      fun e d => Read b d (.token b.token :: ofExpr e) := by
  unfold index.slice
  refine hr.forms (forms_op ":") fun _ c₁ h₁ => ?_
  refine h₁.reads (reads_bound h) fun upper c₂ h₂ => ?_
  have hmade : ∀ (step : Option Expr) d,
      Read b d (step.toList.flatMap ofExpr ++
        (upper.toList.flatMap ofExpr ++ .token c.token :: xs)) →
      Ensures (do return .slice (← spanFrom b.token) lower upper step) d
        fun e d => Read b d (.token b.token :: ofExpr e) := by
    intro step d hd
    refine hd.builds (by grind) ?_
    simp [Expr.span, Expr.children]
    grind
  refine .tryOp (fun ht => ?_) (hmade none c₂ (h₂.sub (by grind)))
  refine h₂.step.reads (reads_bound h) fun step c₃ h₃ => ?_
  exact hmade step c₃ (h₃.sub (by grind))

theorem forms_index (h : inner.Sound) : Forms (index inner) ofExpr := by
  intro c
  unfold index
  refine .peek (.ite (fun _ => ?_) fun _ => ?_)
  · exact reads_slice h (Read.start c) (Or.inl rfl) (by simp)
  · refine (Read.start c).forms (forms_namedExpression h.expression)
      fun e c₁ h₁ => ?_
    refine .peek (.ite (fun _ => ?_) fun _ => .pure (h₁.sub (by simp)))
    refine .ite (fun _ => .reject) fun _ => ?_
    exact reads_slice h h₁ (by simp) (by simp)

theorem forms_indices (h : inner.Sound) : Forms (indices inner) ofExpr := by
  intro c
  unfold indices
  have hitem : Forms (do
      if (← peek).isOp "*" then starredWith inner.expression
      else index inner) ofExpr := fun c =>
    .peek (.ite (fun _ => forms_starredWith h.expression c)
      fun _ => forms_index h c)
  refine .peek ((Read.start c).forms (forms_commaList hitem)
    fun r c₁ h₁ => ?_)
  obtain ⟨items, trailing⟩ := r
  dsimp only
  split
  next s e =>
    exact h₁.builds (by simp) (by simp [Expr.span, Expr.children])
  next => exact .pure (h₁.sub (by simp))
  next => exact h₁.builds (by simp) (by simp [Expr.span, Expr.children])

-- ============================================================= strings

section Strings

open StringLiteral (Piece Located)

/-- The parts of a formatted string start on these lines, and have plain
names. -/
def Fragment.Lies (onLine : Int → Prop) : Fragment → Prop
  | .inl _ => True
  | .inr e => (Node.expr e).Marked onLine Name.Plain

variable {first last : Nat} {onLine : Int → Prop} {span : Span}

/-- A fresh reading of a field's expression stays on the lines of its text. -/
theorem marked_fieldExpression (h : inner.Sound) {brace : Located}
    {text : List Located} : Ensures (fieldExpression inner brace text) c
      fun e d => d = c ∧ (Node.expr e).Marked (fun line => brace.line ≤ line ∧
        line ≤ brace.line + StringLiteral.lineEnds text) Name.Plain := by
  have hasc := StringLiteral.fieldTokens_ascends brace text
  unfold fieldExpression
  refine .lift fun start hstart => .lift fun r hr => .pure ⟨rfl, ?_⟩
  rw [(Cursor.start_eq_some hstart).1] at hasc
  have hread := (forms_starExpressions h).reads start r.1 r.2 hr
  refine Node.Marked.mono (hread.lies _ List.mem_cons_self) ?_ ?_
  · rintro line ⟨b, hb, htext, hline, -⟩
    have := hasc.lines b.token hb.token_mem htext
    unfold Token.HasLine at hline
    omega
  · exact fun w hw => hw hasc.plain

theorem marked_joinTexts {fragments : List Fragment}
    (hspan : onLine span.line) (h : ∀ f ∈ fragments, f.Lies onLine) :
    ∀ e ∈ joinTexts span fragments,
      (Node.expr e).Marked onLine Name.Plain := by
  intro e he
  unfold joinTexts at he
  split at he
  next => cases he
  next =>
    obtain ⟨f, hf, hfe⟩ := List.mem_filterMap.1 he
    have hlies : f.Lies onLine := by
      refine List.foldlRecOn (motive := fun acc => ∀ f ∈ acc, f.Lies onLine)
        fragments _ (List.forall_mem_nil _) ?_ f (List.mem_reverse.1 hf)
      intro acc hacc p hp
      split
      next =>
        exact List.forall_mem_cons.2
          ⟨trivial, (List.forall_mem_cons.1 hacc).2⟩
      next => exact List.forall_mem_cons.2 ⟨h p hp, hacc⟩
    split at hfe
    next => cases hfe
    next =>
      cases hfe
      refine Node.marked_iff.2 ⟨⟨?_, List.forall_mem_nil _⟩,
        List.forall_mem_nil _⟩
      rintro _ ⟨⟩
      exact hspan
    next =>
      cases hfe
      exact hlies

theorem marked_joined {fragments : List Fragment}
    (hspan : onLine span.line) (h : ∀ f ∈ fragments, f.Lies onLine) :
    (Node.expr (.joined span (joinTexts span fragments))).Marked onLine
      Name.Plain := by
  refine Node.marked_iff.2 ⟨⟨?_, List.forall_mem_nil _⟩, ?_⟩
  · rintro _ ⟨⟩
    exact hspan
  · intro k hk
    obtain ⟨e, he, rfl⟩ := List.mem_map.1 hk
    exact marked_joinTexts hspan h e he

/-- What the pieces of a formatted string are turned into, and the outer
reading stays where it is. -/
theorem lies_formatParts (h : inner.Sound) (hspan : onLine span.line)
    (hline : ∀ line : Int, first ≤ line → line ≤ last → onLine line)
    {pieces : List Piece} (hpieces : ∀ p ∈ pieces, p.Lies first last) :
    Ensures (formatParts inner span pieces) c fun fragments d =>
      d = c ∧ ∀ f ∈ fragments, f.Lies onLine := by
  induction pieces using formatParts.induct with
  | case1 =>
    unfold formatParts
    exact .pure ⟨rfl, List.forall_mem_nil _⟩
  | case2 value rest ih =>
    obtain ⟨-, hrest⟩ := List.forall_mem_cons.1 hpieces
    unfold formatParts
    refine (ih hrest).bind fun fragments d hd => .pure ⟨hd.1, ?_⟩
    exact List.forall_mem_cons.2 ⟨trivial, hd.2⟩
  | case3 brace expression conversion format rest ihrest ihformat =>
    obtain ⟨hfield, hrest⟩ := List.forall_mem_cons.1 hpieces
    cases hfield with | field hfirst hlast hformat =>
    -- a field is its value and its format, and the rest goes on behind it
    have hgo : ∀ (value : Expr) (format : Option Expr),
        (Node.expr value).Marked onLine Name.Plain →
        (∀ e ∈ format, (Node.expr e).Marked onLine Name.Plain) →
        Ensures (do
          let field := Expr.formatted span value conversion format
          return .inr field :: (← formatParts inner span rest)) c
          fun fragments d => d = c ∧ ∀ f ∈ fragments, f.Lies onLine := by
      intro value format hvalue hparts
      refine (ihrest hrest).bind fun fragments d hd => .pure ⟨hd.1, ?_⟩
      refine List.forall_mem_cons.2 ⟨Node.marked_iff.2
        ⟨⟨?_, List.forall_mem_nil _⟩, ?_⟩, hd.2⟩
      · rintro _ ⟨⟩
        exact hspan
      · refine List.forall_mem_cons.2 ⟨hvalue, fun k hk => ?_⟩
        obtain ⟨e, he, rfl⟩ := List.mem_map.1 hk
        exact hparts e (Option.mem_toList.1 he)
    unfold formatParts
    refine (marked_fieldExpression h).bind fun value d hd => ?_
    obtain ⟨rfl, hvalue⟩ := hd
    have hvalue' : (Node.expr value).Marked onLine Name.Plain :=
      hvalue.mono (fun line hl => hline line (by omega) (by omega))
        fun _ hw => hw
    cases format with
    | none => exact hgo value none hvalue' (by simp)
    | some pieces =>
      refine (ihformat (hformat pieces rfl)).bind fun parts d hd => ?_
      obtain ⟨rfl, hparts⟩ := hd
      refine hgo value _ hvalue' ?_
      rintro _ ⟨⟩
      exact marked_joined hspan hparts

/-- The expressions in one string of several that are joined. -/
def StringPart.Lies (onLine : Int → Prop) : StringPart → Prop
  | .bytes _ => True
  | .text parts _ => ∀ f ∈ parts, f.Lies onLine

theorem lies_stringPart (h : inner.Sound) {t : Token}
    (hspan : onLine span.line)
    (hline : ∀ line, t.HasLine line → onLine line) :
    Ensures (stringPart inner span t) c fun part d =>
      d = c ∧ part.Lies onLine := by
  unfold stringPart
  split
  next marks body column hkind =>
    dsimp only
    refine .ite (fun _ => ?_) fun _ => .ite (fun _ => ?_) fun _ => ?_
    · split
      next => exact .pure ⟨rfl, trivial⟩
      next => exact .reject
    · split
      next pieces hpieces =>
        have hlines : ∀ line : Int, t.line ≤ line →
            line ≤ (t.line + Lexer.lineEnds body : Nat) → onLine line := by
          intro line hfirst hlast
          refine hline line ⟨hfirst, ?_⟩
          have hends : t.lineEnds = Lexer.lineEnds body := by
            unfold Token.lineEnds
            rw [hkind]
          omega
        refine (lies_formatParts h hspan hlines
          (StringLiteral.formatPieces_lies hpieces)).bind fun parts d hd => ?_
        exact .pure hd
      next => exact .reject
    · split
      next => exact .pure ⟨rfl, by simp [StringPart.Lies, Fragment.Lies]⟩
      next => exact .reject
  next => exact .reject

/-- The string tokens from here on, and here is one. -/
theorem reads_stringTokens {marks body : List Char} {column : Nat}
    (hkind : c.token.kind = .string marks body column) :
    Ensures stringTokens c fun ts d =>
      Read c d (.token c.token :: ts.map .token) := by
  unfold stringTokens
  refine Ensures.bind (P := fun ts d =>
    Read c d (.token c.token :: ts.map .token)) ?_ fun ts d hd => ?_
  · refine .repeating (fun ts d => Read c d (ts.map .token) ∧
      (d = c ∨ .token c.token ∈ ts.map Part.token)) ?_ ?_
    · exact ⟨Read.start c, Or.inl rfl⟩
    · intro ts d hd
      refine .peek ?_
      split
      next heq =>
        have ht : d.token.isText = true := by
          unfold Token.isText
          rw [heq]
        refine .next (.pure ⟨hd.1.pass ht, Or.inr ?_⟩)
        rcases hd.2 with rfl | hmem
        · exact List.mem_cons_self
        · exact List.mem_cons_of_mem _ hmem
      next hother =>
        refine .pure ?_
        rcases hd.2 with rfl | hmem
        · exact absurd hkind (hother marks body column)
        · exact hd.1.sub (List.forall_mem_cons.2 ⟨hmem, fun _ hx => hx⟩)
  · refine .pure (hd.sub ?_)
    simp

end Strings

theorem reads_strings (h : inner.Sound) {marks body : List Char}
    {column : Nat} (hkind : c.token.kind = .string marks body column) :
    Ensures (strings inner) c
      fun e d => Read c d (.token c.token :: ofExpr e) := by
  unfold strings
  refine .peek ?_
  refine (reads_stringTokens hkind).bind fun tokens d hd => ?_
  refine .spanFrom fun span hline _ => ?_
  have htoken : Read c d [.token c.token] := hd.sub (by simp)
  have hspan : c.Covers d span.line :=
    htoken.lies _ List.mem_cons_self _ (.first hline)
  -- whatever the strings are joined to is one node that starts here
  have hgo : ∀ e : Expr, (Node.expr e).Marked (c.Covers d) Name.Plain →
      Ensures (pure e) d
        fun e d => Read c d (.token c.token :: ofExpr e) := by
    intro e he
    refine .pure ⟨hd.reaches, List.forall_mem_cons.2
      ⟨htoken.lies _ List.mem_cons_self, List.forall_mem_singleton.2 ?_⟩⟩
    exact he.mono (fun _ hl => hl) fun _ hw _ => hw
  have hconstant : ∀ value, (Node.expr (.constant span value)).Marked
      (c.Covers d) Name.Plain := by
    intro value
    refine Node.marked_iff.2 ⟨⟨?_, List.forall_mem_nil _⟩,
      List.forall_mem_nil _⟩
    rintro _ ⟨⟩
    exact hspan
  refine Ensures.bind (P := fun parts d' => d' = d ∧
    ∀ part ∈ parts, StringPart.Lies (c.Covers d) part) ?_ ?_
  · refine .mapM fun t ht => lies_stringPart h hspan ?_
    exact hd.lies _ (List.mem_cons_of_mem _ (List.mem_map_of_mem ht))
  · intro parts d' hparts
    obtain ⟨rfl, hparts⟩ := hparts
    dsimp only
    refine .ite (fun _ => hgo _ (hconstant _)) fun _ =>
      .ite (fun _ => .reject) fun _ => .ite (fun _ => hgo _ ?_)
        fun _ => hgo _ (hconstant _)
    refine marked_joined hspan fun f hf => ?_
    obtain ⟨part, hpart, hf⟩ := List.mem_flatMap.1 hf
    split at hf
    next => exact hparts _ hpart f hf
    next => cases hf

-- =============================================================== atoms

theorem forms_round (h : inner.Sound) : Forms (round inner) ofExpr := by
  intro c
  unfold round
  refine (Read.start c).forms (forms_op "(") fun start c₁ h₁ => ?_
  refine .tryOp (fun ht => ?_) (.peek (.ite (fun _ => ?_) fun _ => ?_))
  · exact (h₁.pass ht).builds (by simp) (by simp [Expr.span, Expr.children])
  · refine h₁.forms (forms_yieldExpression h) fun e c₂ h₂ => ?_
    refine h₂.forms (forms_op ")") fun _ c₃ h₃ => ?_
    exact .pure (h₃.sub (by simp))
  · refine h₁.forms (forms_commaList (forms_starNamedExpression h))
      fun r c₂ h₂ => ?_
    obtain ⟨items, trailing⟩ := r
    dsimp only
    split
    next => exact .reject
    next e =>
      refine looks_atClause.bind fun _ => .ite (fun _ => ?_) fun _ => ?_
      · refine h₂.reads (reads_clauses h) fun cs c₃ h₃ => ?_
        refine h₃.forms (forms_op ")") fun _ c₄ h₄ => ?_
        exact h₄.builds (by simp) (by simp [Expr.span, Expr.children])
      · refine h₂.forms (forms_op ")") fun _ c₃ h₃ => ?_
        exact .pure (h₃.sub (by simp))
    next =>
      refine h₂.forms (forms_op ")") fun _ c₃ h₃ => ?_
      exact h₃.builds (by simp) (by simp [Expr.span, Expr.children])

theorem forms_square (h : inner.Sound) : Forms (square inner) ofExpr := by
  intro c
  unfold square
  refine (Read.start c).forms (forms_op "[") fun start c₁ h₁ => ?_
  refine .tryOp (fun ht => ?_) ?_
  · exact (h₁.pass ht).builds (by simp) (by simp [Expr.span, Expr.children])
  · refine h₁.forms (forms_commaList (forms_starNamedExpression h))
      fun r c₂ h₂ => ?_
    obtain ⟨items, trailing⟩ := r
    dsimp only
    refine looks_atClause.bind fun _ => .ite (fun _ => ?_) fun _ => ?_
    · split
      next => exact .reject
      next e =>
        refine h₂.reads (reads_clauses h) fun cs c₃ h₃ => ?_
        refine h₃.forms (forms_op "]") fun _ c₄ h₄ => ?_
        exact h₄.builds (by simp) (by simp [Expr.span, Expr.children])
      next => exact .reject
    · refine h₂.forms (forms_op "]") fun _ c₃ h₃ => ?_
      exact h₃.builds (by simp) (by simp [Expr.span, Expr.children])

/-- An entry of a mapping, as what was read. -/
@[simp, grind =] def ofEntry (entry : Option Expr × Expr) : List Part :=
  entry.1.toList.flatMap ofExpr ++ ofExpr entry.2

theorem reads_entry (h : inner.Sound) : Reads (entry inner) ofEntry := by
  intro c
  unfold entry
  refine .tryOp (fun ht => ?_) ?_
  · refine (Read.start c).step.forms h.bitOr fun e c₁ h₁ => ?_
    exact .pure (h₁.sub (by simp))
  · refine (Read.start c).forms h.expression fun key c₁ h₁ => ?_
    refine h₁.forms (forms_op ":") fun _ c₂ h₂ => ?_
    refine h₂.forms h.expression fun value c₃ h₃ => ?_
    exact .pure (h₃.sub (by grind))

theorem reads_mapping (h : inner.Sound) {start : Token}
    {first : Option Expr × Expr} (hr : Read b c xs)
    (hb : .token b.token ∈ xs) (hstart : .token start ∈ xs)
    (hfirst : ∀ x ∈ ofEntry first, x ∈ xs) :
    Ensures (mapping inner start first) c
      fun e d => Read b d (.token b.token :: ofExpr e) := by
  unfold mapping
  refine (hr.repeats (fun found => found.flatMap ofEntry)
    (by simpa using hfirst) ?_).bind fun entries c₁ h₁ => ?_
  · intro found d ys hd
    refine .tryOp (fun ht => ?_) (.pure hd)
    refine .peek (.ite (fun _ => .pure hd.step) fun _ => ?_)
    refine hd.step.reads (reads_entry h) fun x d' hd' => ?_
    exact .pure (hd'.sub (by grind))
  · refine h₁.forms (forms_op "\x7d") fun _ c₂ h₂ => ?_
    refine h₂.builds (by simp [hb]) ?_
    simp [Expr.span, Expr.children]
    grind

theorem forms_braces (h : inner.Sound) : Forms (braces inner) ofExpr := by
  intro c
  unfold braces
  refine (Read.start c).forms (forms_op "\x7b") fun start c₁ h₁ => ?_
  refine .tryOp (fun ht => ?_) (.peek (.ite (fun _ => ?_) fun _ => ?_))
  · exact (h₁.pass ht).builds (by simp) (by simp [Expr.span, Expr.children])
  · refine h₁.reads (reads_entry h) fun first c₂ h₂ => ?_
    exact reads_mapping h h₂ (by simp) (by simp) (by grind)
  refine .peek (h₁.forms (forms_starNamedExpression h)
    fun first c₂ h₂ => ?_)
  refine .peek (.ite (fun _ => ?_) fun _ => ?_)
  · refine .ite (fun _ => .reject) fun _ => .next ?_
    refine h₂.step.forms h.expression fun value c₃ h₃ => ?_
    refine looks_atClause.bind fun _ => .ite (fun _ => ?_) fun _ => ?_
    · refine h₃.reads (reads_clauses h) fun cs c₄ h₄ => ?_
      refine h₄.forms (forms_op "\x7d") fun _ c₅ h₅ => ?_
      exact h₅.builds (by simp) (by simp [Expr.span, Expr.children])
    · exact reads_mapping h h₃ (by simp) (by simp) (by grind)
  refine looks_atClause.bind fun _ => .ite (fun _ => ?_) fun _ => ?_
  · split
    next => exact .reject
    next =>
      refine h₂.reads (reads_clauses h) fun cs c₄ h₄ => ?_
      refine h₄.forms (forms_op "\x7d") fun _ c₅ h₅ => ?_
      exact h₅.builds (by simp) (by simp [Expr.span, Expr.children])
  · have hset : ∀ (more : List Expr) d,
        Read c d (more.flatMap ofExpr ++
          [.node (.expr first), .token c.token, .token start]) →
        Ensures (do
          let _ ← op "\x7d"
          return .set (← spanFrom start) (first :: more)) d
          fun e d => Read c d (.token c.token :: ofExpr e) := by
      intro more d hd
      refine hd.forms (forms_op "\x7d") fun _ c₃ h₃ => ?_
      exact h₃.builds (by simp) (by simp +contextual [Expr.span,
        Expr.children])
    refine .tryOp (fun ht => ?_) (hset [] c₂ (h₂.sub (by grind)))
    refine h₂.step.reads (reads_optional
      (forms_commaList (forms_starNamedExpression h)).reads)
      fun o c₃ h₃ => ?_
    cases o with
    | some r => exact hset r.1 c₃ (h₃.sub (by grind))
    | none => exact hset [] c₃ (h₃.sub (by grind))

theorem forms_atom (h : inner.Sound) : Forms (atom inner) ofExpr := by
  intro c
  unfold atom
  have hconstant : ∀ value, c.token.isText = true →
      Ensures (atom.constant c.token value) c
        fun e d => Read c d (.token c.token :: ofExpr e) := by
    intro value ht
    refine .next (((Read.start c).pass ht).builds (by simp) ?_)
    simp [Expr.span, Expr.children]
  refine .peek ?_
  split
  next spelling id hkind =>
    refine .next (((Read.start c).passName hkind).builds (by simp) ?_)
    simp [Expr.span, Expr.children]
  next word hkind =>
    have ht : c.token.isText = true := by simp [Token.isText, hkind]
    split
    next => exact hconstant _ ht
    next => exact hconstant _ ht
    next => exact hconstant _ ht
    next => exact .reject
  next value hkind => exact hconstant _ (by simp [Token.isText, hkind])
  next => exact .reject
  next hkind => exact reads_strings h hkind
  next symbol hkind =>
    split
    next => exact forms_round h c
    next => exact forms_square h c
    next => exact forms_braces h c
    next => exact hconstant _ (by simp [Token.isText, hkind])
    next => exact .reject
  next => exact .reject

-- =========================================================== operators

theorem forms_primary (h : inner.Sound) : Forms (primary inner) ofExpr := by
  intro c
  unfold primary
  refine .peek ((forms_atom h c).bind fun base c₁ h₁ => ?_)
  refine .loop h₁ fun e d hd => .peek ?_
  split
  next =>
    refine .next (hd.step.forms forms_name fun id d₁ h₂ => ?_)
    exact h₂.turns (by simp) (by simp [Expr.span, Expr.children])
  next =>
    refine hd.forms (forms_callArguments h) fun s d₁ h₂ => ?_
    refine h₂.turns (by simp) ?_
    simp [Expr.span, Expr.children]
    grind
  next =>
    refine .next (hd.step.forms (forms_indices h) fun i d₁ h₂ => ?_)
    refine h₂.forms (forms_op "]") fun _ d₂ h₃ => ?_
    exact h₃.turns (by simp) (by simp [Expr.span, Expr.children])
  next => exact .pure hd

theorem forms_awaitPrimary (h : inner.Sound) :
    Forms (awaitPrimary inner) ofExpr := by
  intro c
  unfold awaitPrimary
  refine .peek (.tryKeyword (fun ht => ?_) (forms_primary h c))
  refine ((Read.start c).pass ht).forms (forms_primary h)
    fun value c₁ h₁ => ?_
  exact h₁.builds (by simp) (by simp [Expr.span, Expr.children])

theorem forms_power (h : inner.Sound) : Forms (power inner) ofExpr := by
  intro c
  unfold power
  refine .peek ((Read.start c).forms (forms_awaitPrimary h)
    fun base c₁ h₁ => ?_)
  refine .tryOp (fun ht => ?_) (.pure (h₁.sub (by simp)))
  refine h₁.step.forms h.factor fun exponent c₂ h₂ => ?_
  exact h₂.builds (by simp) (by simp [Expr.span, Expr.children])

theorem forms_factor (h : inner.Sound) : Forms (factor inner) ofExpr := by
  intro c
  unfold factor
  have hsigned : ∀ sign, c.token.symbol ≠ "" →
      Ensures (factor.signed inner c.token sign) c
        fun e d => Read c d (.token c.token :: ofExpr e) := by
    intro sign hsymbol
    have h₁ := (Read.start c).pass (Token.isText_of_symbol hsymbol)
    refine .next (h₁.forms h.factor fun operand c₂ h₂ => ?_)
    exact h₂.builds (by simp) (by simp [Expr.span, Expr.children])
  refine .peek ?_
  split
  next hsymbol => exact hsigned _ (by simp [hsymbol])
  next hsymbol => exact hsigned _ (by simp [hsymbol])
  next hsymbol => exact hsigned _ (by simp [hsymbol])
  next => exact forms_power h c

theorem forms_leftGrouped (ops : List (String × BinaryOp))
    (hrule : Forms rule ofExpr) : Forms (leftGrouped ops rule) ofExpr := by
  intro c
  unfold leftGrouped
  refine .peek ((hrule c).bind fun first c₁ h₁ => ?_)
  refine .loop h₁ fun left d hd => .peek ?_
  split
  next => exact .pure hd
  next =>
    refine .next (hd.step.forms hrule fun right d₁ h₂ => ?_)
    exact h₂.turns (by simp) (by simp [Expr.span, Expr.children])

theorem forms_bitOr (h : inner.Sound) : Forms (bitOr inner) ofExpr := by
  unfold bitOr bitXor bitAnd shift sum term
  exact forms_leftGrouped _ (forms_leftGrouped _ (forms_leftGrouped _
    (forms_leftGrouped _ (forms_leftGrouped _ (forms_leftGrouped _
      (forms_factor h))))))

theorem reads_compareOp : Reads compareOp fun _ => [] := by
  intro c
  unfold compareOp
  have hfound : ∀ o d, Read c d [] → Ensures (compareOp.found o) d
      fun _ d => Read c d [] := fun _ _ hd => .next (.pure hd.step)
  have h₀ := Read.start c
  refine .peek ?_
  split
  next => exact hfound _ c h₀
  next => exact hfound _ c h₀
  next => exact hfound _ c h₀
  next => exact hfound _ c h₀
  next => exact hfound _ c h₀
  next => exact hfound _ c h₀
  next => exact hfound _ c h₀
  next => exact .next (.tryKeyword (fun _ => .pure h₀.step.step)
    (.pure h₀.step))
  next =>
    refine looks_peekSecond.bind fun _ => .ite (fun _ => ?_) fun _ => .pure h₀
    exact .next (hfound _ _ h₀.step)
  next => exact .pure h₀

theorem forms_comparison (h : inner.Sound) :
    Forms (comparison inner) ofExpr := by
  intro c
  unfold comparison
  refine .peek ((Read.start c).forms (forms_bitOr h) fun left c₁ h₁ => ?_)
  refine (h₁.repeats (fun pairs => pairs.flatMap fun x => ofExpr x.2)
    (by simp) ?_).bind fun pairs c₂ h₂ => ?_
  · intro pairs d ys hd
    refine hd.reads reads_compareOp fun o d₁ h₂ => ?_
    cases o with
    | none => exact .pure h₂
    | some o =>
      refine h₂.forms (forms_bitOr h) fun e d₂ h₃ => ?_
      exact .pure (h₃.sub (by grind))
  · split
    next => exact .pure (h₂.sub (by simp))
    next =>
      refine h₂.builds (by simp) ?_
      simp [Expr.span, Expr.children]
      grind

theorem forms_inversion (h : inner.Sound) :
    Forms (inversion inner) ofExpr := by
  intro c
  unfold inversion
  refine .peek (.tryKeyword (fun ht => ?_) (forms_comparison h c))
  refine ((Read.start c).pass ht).forms h.inversion fun operand c₁ h₁ => ?_
  exact h₁.builds (by simp) (by simp [Expr.span, Expr.children])

theorem forms_connected (word : String) (o : BoolOp)
    (hrule : Forms rule ofExpr) : Forms (connected word o rule) ofExpr := by
  intro c
  unfold connected
  refine .peek ((Read.start c).forms hrule fun first c₁ h₁ => ?_)
  refine (h₁.repeats (fun values => values.flatMap ofExpr) (by simp)
    ?_).bind fun values c₂ h₂ => ?_
  · intro values d ys hd
    refine .tryKeyword (fun _ => ?_) (.pure hd)
    refine hd.step.forms hrule fun e d₁ h₂ => ?_
    exact .pure (h₂.sub (by grind))
  · split
    next => exact .pure (h₂.sub (by simp))
    next =>
      exact h₂.builds (by simp) (by simp +contextual [Expr.span,
        Expr.children])

theorem forms_disjunction (h : inner.Sound) :
    Forms (disjunction inner) ofExpr :=
  forms_connected _ _ (forms_connected _ _ (forms_inversion h))

-- ========================================================= expressions

theorem forms_expression (h : inner.Sound) :
    Forms (expression inner) ofExpr := by
  intro c
  unfold expression
  refine .peek (.ite (fun _ => forms_lambda h c) fun _ => ?_)
  refine (Read.start c).forms (forms_disjunction h) fun e c₁ h₁ => ?_
  refine .tryKeyword (fun _ => ?_) (.pure (h₁.sub (by simp)))
  refine h₁.step.forms (forms_disjunction h) fun test c₂ h₂ => ?_
  refine h₂.forms (forms_keyword "else") fun _ c₃ h₃ => ?_
  refine h₃.forms h.expression fun orelse c₄ h₄ => ?_
  exact h₄.builds (by simp) (by simp [Expr.span, Expr.children])

/-- Nested rules read what they give, at every depth. -/
theorem sound_inner (depth : Nat) : (Grammar.inner depth).Sound := by
  induction depth with
  | zero =>
    exact ⟨fun _ => .reject, fun _ => .reject, fun _ => .reject,
      fun _ => .reject, fun _ => .reject⟩
  | succ depth ih =>
    exact ⟨forms_expression ih, forms_disjunction ih, forms_inversion ih,
      forms_bitOr ih, forms_factor ih⟩

end Purity.Grammar
