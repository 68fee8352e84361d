/-
How compound statements are laid out. The head of a compound statement is
read up to its colon, and each of its blocks is a row behind it: simple
statements on the same line, or lines below it (`Blocks`). So the rules
give rows from the start of a line on, which end at the start of a line
(`Lines`). The nesting of blocks is an induction on the depth
(`lines_nestedStatement`), and a file is one row (`row_file`).

Consumed by the proofs about parsed files.
-/
import Purity.Proofs.Pattern
import Purity.Proofs.SimpleStatement

namespace Purity.Grammar

open Parse

variable {lo : Nat} {b c d : Cursor} {xs : List Part} {inner : Inner}
  {block : Parse (List Stmt)}

-- ================================================== compound statements

/-- A rule for blocks gives a row behind the colon. -/
def Blocks (block : Parse (List Stmt)) : Prop :=
  ∀ ⦃c : Cursor⦄, c.Settled → Ensures block c fun ss d =>
    Stacked (.inLine c.lastLine) (ss.map .stmt) d

theorem Blocks.colonBlock (hblock : Blocks block) (hc : c.Settled) :
    Ensures (colonBlock block) c fun ss d =>
      Stacked (.inLine c.lastLine) (ss.map .stmt) d := by
  unfold Grammar.colonBlock
  refine .bind (forms_op ":" c) fun _ d hd => ?_
  have hhead := hd.head hc List.mem_cons_self
  exact (hblock hhead.settled).mono fun ss e he =>
    he.mono (Spot.inLine_le (Int.ofNat_le.2 hhead.le))

theorem Blocks.optionalBlock (hblock : Blocks block) (word : String)
    (hc : c.Fresh) : Ensures (optionalBlock block word) c fun ss d =>
      Stacked (.newLine (c.lastLine + 1)) (ss.map .stmt) d := by
  unfold Grammar.optionalBlock
  refine .tryKeyword (fun ht => ?_) (.pure (.empty hc))
  obtain ⟨hbehind, hle⟩ := Cursor.From.text hc ht
  exact (hblock.colonBlock hbehind).mono fun ss e he =>
    he.mono (Spot.newLine_le_inLine (Int.ofNat_le.2 hle))

theorem stacked_conditionalChain (h : inner.Sound) (hblock : Blocks block)
    (hb : b.From lo) (hr : Read b c [.token b.token]) :
    Ensures (conditionalChain inner block b.token) c
      fun s d => Stacked (.newLine lo) [.stmt s] d := by
  unfold conditionalChain
  refine hr.forms (forms_namedExpression h.expression) fun test c₁ h₁ => ?_
  have hhead := h₁.head hb (by simp)
  refine (hblock.colonBlock hhead.settled).bind fun body c₂ h₂ => ?_
  -- whatever the alternative of the last branch is, the branches before it
  -- make it an alternative of the first one
  refine Ensures.bind (P := fun branches d => d.Fresh ∧
    ∀ (whole : Span) (orelse : List Stmt) (e : Cursor),
      whole.endLine = e.lastLine →
      Stacked (.newLine (d.lastLine + 1)) (orelse.map .stmt) e →
      Stacked (.newLine (c₂.lastLine + 1)) ((branches.foldl
        (fun orelse b => [b.statement whole orelse]) orelse).map .stmt) e)
    ?_ fun branches d hd => ?_
  · refine .loop ⟨h₂.fresh, fun _ _ _ _ horelse => horelse⟩
      fun branches d hd => .peek ?_
    obtain ⟨hd, hchain⟩ := hd
    refine .tryKeyword (fun ht => ?_) (.pure ⟨hd, hchain⟩)
    refine (Read.token ht).forms (forms_namedExpression h.expression)
      fun test d₁ hd₁ => ?_
    have hbranch := hd₁.head hd (by simp)
    refine (hblock.colonBlock hbranch.settled).bind fun body d₂ hbody =>
      .pure ⟨hbody.fresh, fun whole orelse e hend horelse => ?_⟩
    refine hchain whole _ e hend (hbranch.stacked (hbody.append horelse)
      (.inOrder [.expr test] rfl ?_ (List.forall_mem_nil _)) ?_)
    · simp [Node.isFlat]
    · rintro _ ⟨⟩
      exact ⟨⟨d.token, by simp, rfl⟩, hend⟩
  · obtain ⟨hd, hchain⟩ := hd
    refine (hblock.optionalBlock "else" hd).bind fun orelse e horelse => ?_
    refine .spanFrom fun whole hline hend => .pure ?_
    refine hhead.stacked (h₂.append (hchain whole orelse e hend horelse))
      (.inOrder [.expr test] rfl ?_ (List.forall_mem_nil _)) ?_
    · simp [Node.isFlat]
    · rintro _ ⟨⟩
      exact ⟨⟨b.token, by simp, hline⟩, hend⟩

theorem stacked_whileLoop (h : inner.Sound) (hblock : Blocks block)
    (hb : b.From lo) (hr : Read b c [.token b.token]) :
    Ensures (whileLoop inner block b.token) c
      fun s d => Stacked (.newLine lo) [.stmt s] d := by
  unfold whileLoop
  refine hr.forms (forms_namedExpression h.expression) fun test c₁ h₁ => ?_
  have hhead := h₁.head hb (by simp)
  refine (hblock.colonBlock hhead.settled).bind fun body c₂ h₂ => ?_
  refine (hblock.optionalBlock "else" h₂.fresh).bind fun orelse c₃ h₃ => ?_
  refine hhead.builds (h₂.append h₃) (by simp) fun span => ⟨rfl,
    .inOrder ([.expr test]) rfl ?_ (List.forall_mem_nil _)⟩
  simp [Node.isFlat]

theorem stacked_forLoop (h : inner.Sound) (hblock : Blocks block)
    (hb : b.From lo) (hr : Read b c [.token b.token]) (isAsync : Bool) :
    Ensures (forLoop inner block b.token isAsync) c
      fun s d => Stacked (.newLine lo) [.stmt s] d := by
  unfold forLoop
  refine hr.forms (forms_starTargets h) fun target c₁ h₁ => ?_
  refine h₁.forms (forms_keyword "in") fun _ c₂ h₂ => ?_
  refine h₂.forms (forms_starExpressions h) fun iterable c₃ h₃ => ?_
  have hhead := h₃.head hb (by simp)
  refine (hblock.colonBlock hhead.settled).bind fun body c₄ h₄ => ?_
  refine (hblock.optionalBlock "else" h₄.fresh).bind fun orelse c₅ h₅ => ?_
  refine hhead.builds (h₄.append h₅) (by simp) fun span => ⟨rfl,
    .inOrder ([.expr target, .expr iterable]) rfl ?_ (List.forall_mem_nil _)⟩
  simp [Node.isFlat]

/-- A managed value, as what was read. -/
@[simp, grind =] def ofWithItem (w : WithItem) : List Part :=
  [.node (.withItem w)]

theorem forms_withItem (h : inner.Sound) :
    Forms (withItem inner) ofWithItem := by
  intro c
  have hend : ∀ (value : Expr) (target : Option Expr) d,
      Read c d (.token c.token :: .node (.expr value) ::
        target.toList.flatMap ofExpr) →
      Read c d (.token c.token :: ofWithItem { value, target }) := by
    intro value target d hd
    have hnode : Read c d [.node (.withItem { value, target })] := by
      refine hd.node nofun (by simp) ?_
      simp +contextual [Node.children]
    have hfirst : Read c d [.token c.token] := hd.sub (by simp)
    exact hnode.and hfirst
  unfold withItem
  refine (Read.start c).forms h.expression fun value c₁ h₁ => ?_
  refine .tryKeyword (fun ht => ?_)
    (.pure (hend value none c₁ (h₁.sub (by simp))))
  refine h₁.step.forms (forms_starTarget h) fun target c₂ h₂ => ?_
  refine (looks_isNext _).bind fun _ => .ite (fun _ => .pure ?_)
    fun _ => .reject
  exact hend value (some target) c₂ (h₂.sub (by simp))

theorem forms_withItems (h : inner.Sound) :
    Forms (withItems inner) fun items => items.flatMap ofWithItem := by
  intro c
  unfold withItems
  refine .orElse ?_ ?_
  · refine (Read.start c).forms (forms_op "(") fun _ c₁ h₁ => ?_
    refine h₁.forms (forms_commaList (forms_withItem h)) fun r c₂ h₂ => ?_
    refine h₂.forms (forms_op ")") fun _ c₃ h₃ => ?_
    refine h₃.forms (forms_op ":") fun _ c₄ h₄ => ?_
    exact .pure (h₄.sub (by grind))
  · refine (Read.start c).forms (forms_closedList (forms_withItem h))
      fun items c₁ h₁ => ?_
    refine h₁.forms (forms_op ":") fun _ c₂ h₂ => ?_
    exact .pure (h₂.sub (by grind))

theorem stacked_withBlock (h : inner.Sound) (hblock : Blocks block)
    (hb : b.From lo) (hr : Read b c [.token b.token]) (isAsync : Bool) :
    Ensures (withBlock inner block b.token isAsync) c
      fun s d => Stacked (.newLine lo) [.stmt s] d := by
  unfold withBlock
  refine hr.forms (forms_withItems h) fun items c₁ h₁ => ?_
  have hhead := h₁.head hb (by simp)
  refine (hblock hhead.settled).bind fun body c₂ h₂ => ?_
  refine hhead.builds h₂ (by simp) fun span => ⟨rfl,
    .inOrder (items.map .withItem) rfl ?_ (List.forall_mem_nil _)⟩
  simp [Node.isFlat]

theorem reads_handled (h : inner.Sound) (starred : Bool) :
    Reads (handled inner starred) fun r => r.1.toList.flatMap ofExpr := by
  intro c
  have hnamed : ∀ d, Read c d [] → Ensures (handled.named inner) d
      fun r d => Read c d (r.1.toList.flatMap ofExpr) := by
    intro d hd
    refine hd.forms h.expression fun e c₁ h₁ => ?_
    refine h₁.reads reads_asName fun id c₂ h₂ => ?_
    exact .pure (h₂.sub (by simp))
  unfold handled
  refine .ite (fun _ => ?_) fun _ => .peek (.ite (fun _ => ?_) fun _ => ?_)
  · refine (Read.start c).forms (forms_op "*") fun _ c₁ h₁ => ?_
    exact hnamed c₁ (h₁.sub (by simp))
  · exact .pure (Read.start c)
  · exact hnamed c (Read.start c)

theorem stacked_handler (h : inner.Sound) (hblock : Blocks block)
    (hc : c.From lo) (starred : Bool) :
    Ensures (handler inner block starred) c
      fun x d => Stacked (.newLine lo) [.handler x] d := by
  unfold handler
  refine (Read.start c).forms (forms_keyword "except") fun start c₁ h₁ => ?_
  refine h₁.reads (reads_handled h starred) fun r c₂ h₂ => ?_
  have hhead := h₂.head hc (by simp)
  refine (hblock.colonBlock hhead.settled).bind fun body c₃ h₃ => ?_
  refine hhead.builds h₃ (by simp) fun span => ⟨rfl,
    .inOrder (r.1.toList.map .expr) rfl ?_ (List.forall_mem_nil _)⟩
  simp +contextual [Node.isFlat]

theorem stacked_handlers (h : inner.Sound) (hblock : Blocks block)
    (hc : c.Fresh) (starred : Bool) :
    Ensures (handlers inner block starred) c fun found d =>
      Stacked (.newLine (c.lastLine + 1)) (found.map .handler) d := by
  unfold handlers
  refine Ensures.bind (P := fun found d => Stacked
    (.newLine (c.lastLine + 1)) (found.reverse.map .handler) d) ?_
    fun found d hd => .pure hd
  refine .loop (.empty hc) fun found d hd => .peek ?_
  refine .ite (fun _ => ?_) fun _ => .pure hd
  refine (stacked_handler h hblock hd.fresh starred).bind
    fun x e he => .pure ?_
  simpa using hd.append he

theorem looks_atStarredHandler : Looks atStarredHandler := by
  intro c
  unfold atStarredHandler
  refine .peek (.ite (fun _ => ?_) fun _ => .pure rfl)
  exact looks_peekSecond.bind fun _ => .pure rfl

theorem stacked_tryBlock (h : inner.Sound) (hblock : Blocks block)
    (hb : b.From lo) (hr : Read b c [.token b.token]) :
    Ensures (tryBlock inner block b.token) c
      fun s d => Stacked (.newLine lo) [.stmt s] d := by
  have hhead := hr.head hb (by simp)
  unfold tryBlock
  refine (hblock.colonBlock hhead.settled).bind fun body c₁ h₁ => ?_
  refine looks_atStarredHandler.bind fun starred => ?_
  refine (stacked_handlers h hblock h₁.fresh starred).bind
    fun found c₂ h₂ => ?_
  have h₁₂ := h₁.append h₂
  refine .ite (fun hnone => ?_) fun _ => ?_
  · refine (forms_keyword "finally" c₂).bind fun _ c₃ h₃ => ?_
    have hfinally := h₃.head h₂.fresh (by simp)
    refine (hblock.colonBlock hfinally.settled).bind fun cleanup c₄ h₄ => ?_
    have hcleanup := h₄.mono
      (Spot.newLine_le_inLine (Int.ofNat_le.2 hfinally.le))
    obtain rfl := List.isEmpty_iff.1 hnone
    refine hhead.builds (h₁₂.append hcleanup) (by simp) fun span => ⟨rfl,
      .inOrder [] ?_ (List.forall_mem_nil _) (List.forall_mem_nil _)⟩
    simp [Node.children, Stmt.children]
  · refine (hblock.optionalBlock "else" h₂.fresh).bind fun orelse c₃ h₃ => ?_
    refine (hblock.optionalBlock "finally" h₃.fresh).bind
      fun cleanup c₄ h₄ => ?_
    exact hhead.builds ((h₁₂.append h₃).append h₄) (by simp) fun span => ⟨rfl,
      .inOrder [] rfl (List.forall_mem_nil _) (List.forall_mem_nil _)⟩

/-- The decorators and the return annotation are read before the body, but
come behind it in the tree. -/
theorem headed_functionDef {ps : Params Expr} {id : String}
    {decorators : List Expr} {returns : Option Expr} {body : List Stmt}
    {span : Span} {isAsync : Bool} (hps : .node (.params ps) ∈ xs)
    (hid : .word id ∈ xs)
    (hdecorators : ∀ e ∈ decorators, .node (.expr e) ∈ xs)
    (hreturns : ∀ e ∈ returns, .node (.expr e) ∈ xs) :
    Headed xs (.params ps :: decorators.map .expr ++
      returns.toList.map .expr) (body.map .stmt) (.stmt (.functionDef span
        isAsync id ps body decorators returns)) := by
  refine ⟨?_, ?_, by simpa using hid⟩
  · simp only [Node.children, Stmt.children, List.cons_append,
      List.append_assoc]
    refine .cons _ (List.perm_append_comm.trans ?_)
    rw [List.append_assoc]
  · grind [Node.isFlat]

/-- The decorators are read before the body, but come behind it in the
tree. -/
theorem headed_classDef {args : List Expr} {keywords : List (Keyword Expr)}
    {id : String} {decorators : List Expr} {body : List Stmt} {span : Span}
    (hargs : ∀ e ∈ args, .node (.expr e) ∈ xs)
    (hkeywords : ∀ k ∈ keywords, .node (.keyword k) ∈ xs)
    (hid : .word id ∈ xs)
    (hdecorators : ∀ e ∈ decorators, .node (.expr e) ∈ xs) :
    Headed xs (args.map .expr ++ keywords.map .keyword ++
      decorators.map .expr) (body.map .stmt) (.stmt (.classDef span id args
        keywords body decorators)) := by
  refine ⟨?_, ?_, by simpa using hid⟩
  · simp only [Node.children, Stmt.children, List.append_assoc]
    exact .append_left _ (.append_left _ List.perm_append_comm)
  · grind [Node.isFlat]

theorem stacked_functionDef (h : inner.Sound) (hblock : Blocks block)
    {start : Token} {decorators : List Expr} (hb : b.From lo)
    (hr : Read b c xs) (hstart : .token start ∈ xs)
    (hdecorators : ∀ e ∈ decorators, .node (.expr e) ∈ xs)
    (isAsync : Bool) :
    Ensures (functionDef inner block start isAsync decorators) c
      fun s d => Stacked (.newLine lo) [.stmt s] d := by
  unfold functionDef
  refine hr.forms forms_name fun id c₁ h₁ => ?_
  refine h₁.forms (forms_op "(") fun _ c₂ h₂ => ?_
  refine h₂.reads (reads_params h true ")") fun ps c₃ h₃ => ?_
  refine h₃.forms (forms_op ")") fun _ c₄ h₄ => ?_
  have hend : ∀ (returns : Option Expr) d,
      Read b d (returns.toList.flatMap ofExpr ++
        .node (.params ps) :: .word id :: xs) → Ensures (do
        let body ← colonBlock block
        return .functionDef (← spanFrom start) isAsync id ps body decorators
          returns) d
        fun s d => Stacked (.newLine lo) [.stmt s] d := by
    intro returns d hd
    have hhead := hd.headAt (t := start) hb (by simp [hstart])
    refine (hblock.colonBlock hhead.settled).bind fun body c₅ h₅ => ?_
    refine hhead.builds h₅ (by simp [hstart]) fun span => ⟨rfl,
      headed_functionDef (by simp) (by simp) (fun e he => ?_) fun e he => ?_⟩
    · simp [hdecorators e he]
    · simp [Option.mem_def.1 he]
  refine .tryOp (fun ht => ?_) (hend none c₄ (h₄.sub (by simp; grind)))
  refine h₄.step.forms h.expression fun returns c₅ h₅ => ?_
  exact hend (some returns) c₅ (h₅.sub (by simp; grind))

theorem stacked_classDef (h : inner.Sound) (hblock : Blocks block)
    {start : Token} {decorators : List Expr} (hb : b.From lo)
    (hr : Read b c xs) (hstart : .token start ∈ xs)
    (hdecorators : ∀ e ∈ decorators, .node (.expr e) ∈ xs) :
    Ensures (classDef inner block start decorators) c
      fun s d => Stacked (.newLine lo) [.stmt s] d := by
  unfold classDef
  refine hr.forms forms_name fun id c₁ h₁ => ?_
  have hend : ∀ (bases : Arguments) d,
      Read b d (bases.parts ++ .word id :: xs) → Ensures (do
        let body ← colonBlock block
        return .classDef (← spanFrom start) id bases.args bases.keywords body
          decorators) d
        fun s d => Stacked (.newLine lo) [.stmt s] d := by
    intro bases d hd
    have hhead := hd.headAt (t := start) hb (by simp [hstart])
    refine (hblock.colonBlock hhead.settled).bind fun body c₅ h₅ => ?_
    refine hhead.builds h₅ (by simp [hstart]) fun span => ⟨rfl,
      headed_classDef ?_ ?_ (by simp) fun e he => ?_⟩
    · grind [Arguments.parts]
    · grind [Arguments.parts]
    · simp [hdecorators e he]
  refine .tryOp (fun ht => ?_) (hend {} c₁ (h₁.sub (by
    grind [Arguments.parts])))
  refine h₁.step.reads (reads_arguments h) fun bases c₂ h₂ => ?_
  refine h₂.forms (forms_op ")") fun _ c₃ h₃ => ?_
  refine .ite (fun _ => .reject) fun _ => ?_
  exact hend bases c₃ (h₃.sub (by simp; grind))

theorem reads_decorators (h : inner.Sound) :
    Reads (decorators inner) fun es => es.flatMap ofExpr := by
  intro c
  unfold decorators
  refine Ensures.bind (P := fun es d => Read c d (es.flatMap ofExpr)) ?_
    fun es d hd => .pure (hd.sub (by simp))
  refine .loop (Read.start c) fun es d hd => .tryOp (fun ht => ?_) (.pure hd)
  refine hd.step.forms (forms_namedExpression h.expression) fun e d₁ h₁ => ?_
  refine ensures_newline.bind fun _ d₂ h₂ => .pure ?_
  obtain ⟨-, rfl⟩ := h₂
  exact h₁.step.sub (by grind)

theorem stacked_decorated (h : inner.Sound) (hblock : Blocks block)
    (hc : c.From lo) : Ensures (decorated inner block) c
      fun s d => Stacked (.newLine lo) [.stmt s] d := by
  unfold decorated
  refine (Read.start c).reads (reads_decorators h) fun ds c₁ h₁ => .peek ?_
  have hpass : c₁.token.symbol ≠ "" →
      Read c c₁.behind (.token c₁.token :: ds.flatMap ofExpr) := fun ht =>
    (h₁.pass (Token.isText_of_symbol ht)).sub (by simp)
  split
  next hsymbol =>
    exact .next (stacked_functionDef h hblock hc (hpass (by simp [hsymbol]))
      (by simp) (by simp) false)
  next hsymbol =>
    refine .next ((hpass (by simp [hsymbol])).forms (forms_keyword "def")
      fun _ c₂ h₂ => ?_)
    exact stacked_functionDef h hblock hc h₂ (by simp) (by simp) true
  next hsymbol =>
    exact .next (stacked_classDef h hblock hc (hpass (by simp [hsymbol]))
      (by simp) (by simp))
  next => exact .reject

variable {pattern : Parse Pattern}

theorem stacked_matchCase (h : inner.Sound)
    (hpattern : Forms pattern ofPattern) (hblock : Blocks block)
    (hc : c.From lo) :
    Ensures (matchCase inner pattern block) c
      fun x d => Stacked (.newLine lo) [.matchCase x] d := by
  unfold matchCase
  refine .peek (.ite (fun _ => .reject) fun hcase => .next ?_)
  have ht : c.token.isText = true :=
    Token.isText_of_isSpelled (by simpa using hcase)
  refine (Read.token ht).forms (forms_openSequence hpattern)
    fun p c₁ h₁ => ?_
  have hend : ∀ (guard : Option Expr) d,
      Read c d (guard.toList.flatMap ofExpr ++
        [.node (.pattern p), .token c.token]) → Ensures (do
        let body ← colonBlock block
        return ({ pattern := p, guard, body } : MatchCase Stmt)) d
        fun x d => Stacked (.newLine lo) [.matchCase x] d := by
    intro guard d hd
    have hhead := hd.head hc (by simp)
    refine (hblock.colonBlock hhead.settled).bind fun body c₂ h₂ => .pure ?_
    refine hhead.stacked h₂ (.inOrder (.pattern p :: guard.toList.map .expr)
      rfl ?_ (List.forall_mem_nil _)) nofun
    simp +contextual [Node.isFlat]
  refine .tryKeyword (fun ht => ?_) (hend none c₁ (h₁.sub (by simp)))
  refine h₁.step.forms (forms_namedExpression h.expression)
    fun guard c₂ h₂ => ?_
  exact hend (some guard) c₂ (h₂.sub (by simp))

theorem forms_matchSubject (h : inner.Sound) :
    Forms (matchSubject inner) ofExpr := by
  intro c
  unfold matchSubject
  refine .peek ((Read.start c).forms
    (forms_commaList (forms_starNamedExpression h)) fun r c₁ h₁ => ?_)
  obtain ⟨items, trailing⟩ := r
  dsimp only
  split
  next => exact .reject
  next e => exact .pure (h₁.sub (by simp))
  next => exact h₁.builds (by simp) (by simp [Expr.span, Expr.children])

theorem stacked_matchBlock (h : inner.Sound)
    (hpattern : Forms pattern ofPattern) (hblock : Blocks block)
    (hc : c.From lo) (ht : c.token.isText = true) :
    Ensures (matchBlock inner pattern block) c
      fun s d => Stacked (.newLine lo) [.stmt s] d := by
  unfold matchBlock
  refine .next ((Read.token ht).forms (forms_matchSubject h)
    fun subject c₁ h₁ => ?_)
  refine h₁.forms (forms_op ":") fun _ c₂ h₂ => ?_
  have hhead := h₂.head hc (by simp)
  refine ensures_indented hhead.settled fun c₃ hfresh hlast => ?_
  refine (stacked_matchCase h hpattern hblock hfresh).bind
    fun first c₄ h₄ => ?_
  refine Ensures.bind (P := fun found e => Stacked
    (.newLine (c₃.lastLine + 1)) (found.reverse.map .matchCase) e) ?_
    fun found c₅ h₅ => ?_
  · refine .loop h₄ fun found e he => .peek ?_
    refine .ite (fun _ => ?_) fun _ => .pure he
    refine (stacked_matchCase h hpattern hblock he.fresh).bind
      fun x f hf => .pure ?_
    simpa using he.append hf
  · refine ensures_dedent.bind fun _ c₆ h₆ => ?_
    obtain ⟨hdedent, rfl⟩ := h₆
    rw [hlast] at h₅
    refine hhead.builds ((h₅.dedent hdedent).mono
      (Spot.inLine_le_newLine _)) (by simp) fun span => ⟨rfl,
        .inOrder [.expr subject] rfl ?_ (List.forall_mem_nil _)⟩
    simp [Node.isFlat]

theorem stacked_statement (h : inner.Sound)
    (hpattern : Forms pattern ofPattern) (hblock : Blocks block)
    (hc : c.From lo) : Ensures (statement inner pattern block) c fun ss d =>
      Stacked (.newLine lo) (ss.map .stmt) d := by
  have hone : ∀ {p : Parse Stmt} {d}, Ensures p d (fun s e =>
      Stacked (.newLine lo) [.stmt s] e) → Ensures (do return [← p]) d
        fun ss e => Stacked (.newLine lo) (ss.map .stmt) e := fun hp =>
    hp.bind fun s e he => .pure he
  have hsimple : Ensures (simpleStatements inner) c fun ss d =>
      Stacked (.newLine lo) (ss.map .stmt) d :=
    (stacked_simpleStatements h hc).mono fun ss d hd =>
      hd.mono (Spot.newLine_le_inLine (Int.le_refl _))
  have hread : c.token.symbol ≠ "" → Read c c.behind [.token c.token] :=
    fun ht => Read.token (Token.isText_of_symbol ht)
  have hdecorated := hone (stacked_decorated h hblock hc)
  unfold statement
  refine .peek (.ite (fun _ => hdecorated) fun _ => .ite (fun hmatch => ?_)
    fun _ => ?_)
  · exact .orElse (hone (stacked_matchBlock h hpattern hblock hc
      (Token.isText_of_isSpelled hmatch))) hsimple
  split
  next => exact hdecorated
  next => exact hdecorated
  next hsymbol =>
    exact .next (hone (stacked_conditionalChain h hblock hc
      (hread (by simp [hsymbol]))))
  next hsymbol =>
    exact .next (hone (stacked_forLoop h hblock hc
      (hread (by simp [hsymbol])) false))
  next hsymbol =>
    exact .next (hone (stacked_whileLoop h hblock hc
      (hread (by simp [hsymbol]))))
  next hsymbol =>
    exact .next (hone (stacked_withBlock h hblock hc
      (hread (by simp [hsymbol])) false))
  next hsymbol =>
    exact .next (hone (stacked_tryBlock h hblock hc
      (hread (by simp [hsymbol]))))
  next hsymbol =>
    have hasync := (hread (by simp [hsymbol])).step
    refine looks_peekSecond.bind fun t => ?_
    split
    next => exact hdecorated
    next =>
      exact .next (.next (hone (stacked_forLoop h hblock hc hasync true)))
    next =>
      exact .next (.next (hone (stacked_withBlock h hblock hc hasync true)))
    next => exact .reject
  next => exact hsimple

-- ============================================================== blocks

/-- A rule for statements gives a row from the start of a line on. -/
def Lines (one : Parse (List Stmt)) : Prop :=
  ∀ ⦃c : Cursor⦄, c.Fresh → Ensures one c fun ss d =>
    Stacked (.newLine (c.lastLine + 1)) (ss.map .stmt) d

theorem Lines.statementList {one : Parse (List Stmt)} (h : Lines one) :
    Lines (statementList one) := by
  intro c hc
  unfold Grammar.statementList
  refine Ensures.bind (P := fun found d => Stacked
    (.newLine (c.lastLine + 1)) (found.reverse.map .stmt) d) ?_
    fun found d hd => .pure hd
  refine .loop (.empty hc) fun found d hd => .peek ?_
  split
  next => exact .pure hd
  next => exact .pure hd
  next =>
    refine (h hd.fresh).bind fun ss e he => .pure ?_
    simpa using hd.append he

theorem Lines.blockOf {one : Parse (List Stmt)} (h : inner.Sound)
    (hone : Lines one) : Blocks (blockOf inner one) := by
  intro c hc
  unfold Grammar.blockOf
  refine .peek ?_
  split
  next =>
    refine ensures_indented hc fun d hd hlast => ?_
    refine (hone.statementList hd).bind fun ss e he => ?_
    refine ensures_dedent.bind fun _ e' he' => .pure ?_
    obtain ⟨hdedent, rfl⟩ := he'
    rw [hlast] at he
    exact (he.dedent hdedent).mono (Spot.inLine_le_newLine _)
  next => exact stacked_simpleStatements h hc

/-- The statements of a file, however deep they nest. -/
theorem lines_nestedStatement (h : inner.Sound)
    (hpattern : Forms pattern ofPattern) (depth : Nat) :
    Lines (nestedStatement inner pattern depth) := by
  induction depth with
  | zero => exact fun _ _ => .reject
  | succ depth ih =>
    exact fun _ hc => stacked_statement h hpattern (ih.blockOf h) hc

/-- A file is a row of statements. -/
theorem row_file (depth : Nat) (hc : c.Fresh) :
    Ensures (file depth) c fun m _ => ∃ b,
      Node.Row (.newLine (c.lastLine + 1)) m.node.children b := by
  unfold file
  have hlines := (lines_nestedStatement (sound_inner depth)
    (forms_pattern (sound_inner depth) depth) depth).statementList
  refine (hlines hc).bind fun body d hd => .peek ?_
  split
  next => exact .pure ⟨_, hd.row⟩
  next => exact .reject

end Purity.Grammar
