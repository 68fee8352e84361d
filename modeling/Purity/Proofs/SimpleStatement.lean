/-
How simple statements are laid out, and what is common to all statements.
The lines of tokens never go back (`From`), so what is read behind a cursor
starts on a line of the tokens passed. A statement has a head, which is
read in one go (`Head`), and its blocks, which are rows of statements that
end at the start of a line (`Stacked`). The statement is laid out with them
(`Head.stacked`).

Simple statements have a head only. They stand on a line one behind the
other, up to its end (`stacked_simpleStatements`). Consumed by the proofs
about compound statements.
-/
import Purity.Proofs.Expression
import Purity.Proofs.RelativeName
import Purity.Proofs.Tidy
import Purity.Syntax.Grammar.Statement

namespace Purity.Grammar

open Parse

-- ====================================================== lines of cursors

namespace Cursor

/-- The tokens from here on are in the order of a text, from a line on. -/
structure From (lo : Nat) (c : Cursor) : Prop where
  pos : 1 ≤ lo
  lastLine_le : c.lastLine ≤ lo
  ascends : ∃ bound, Lexer.Ascends bound lo (c.token :: c.rest)

/-- The cursor stands behind something on a line. -/
def Settled (c : Cursor) : Prop := c.From c.lastLine

/-- The cursor stands at the start of a line. -/
def Fresh (c : Cursor) : Prop := c.From (c.lastLine + 1)

variable {lo : Nat} {c d : Cursor}

theorem From.anti {lo' : Nat} (h : c.From lo) (hpos : 1 ≤ lo')
    (hlast : c.lastLine ≤ lo') (hle : lo' ≤ lo) : c.From lo' := by
  obtain ⟨bound, hasc⟩ := h.ascends
  exact ⟨hpos, hlast, bound, hasc.anti hle⟩

theorem From.plain (h : c.From lo) : c.Plain := by
  obtain ⟨bound, hasc⟩ := h.ascends
  exact hasc.plain

/-- The place behind a token that is not the last one. -/
theorem behind_eq (h : c.rest ≠ []) :
    c.behind.token :: c.behind.rest = c.rest ∧
      c.behind.lastLine =
        if c.token.isLayout then c.lastLine else c.token.endLine := by
  unfold Cursor.behind
  split
  next hnil => exact absurd hnil h
  next t rest hrest => exact ⟨hrest.symm, rfl⟩

/-- What passing a token does to the lines: nothing at the end of the text;
behind the end of a line they go on below it; the start or the end of a
block changes nothing; and behind a token of the text they go on from its
last line. -/
inductive Passes (lo : Nat) (c : Cursor) : Prop
  | final (ht : c.token.isFinal = true) (h : c.behind = c)
  | newline (ht : c.token.kind = .newline) (h : c.behind.From (lo + 1))
      (hlast : c.behind.lastLine = c.lastLine)
  | block (ht : c.token.kind = .indent ∨ c.token.kind = .dedent)
      (h : c.behind.From lo) (hlast : c.behind.lastLine = c.lastLine)
  | text (ht : c.token.isText = true) (h : c.behind.Settled)
      (hline : lo ≤ c.token.line)
      (hlast : c.behind.lastLine = c.token.line + c.token.lineEnds)

theorem From.passes (h : c.From lo) : Passes lo c := by
  obtain ⟨bound, hasc⟩ := h.ascends
  have hpos := h.pos
  have hle := h.lastLine_le
  generalize hrest : c.rest = rest at hasc
  cases hasc with
  | final ht =>
    refine .final ht ?_
    unfold Cursor.behind
    rw [hrest]
  | newline ht hasc =>
    obtain ⟨htokens, hlast⟩ := behind_eq (hrest ▸ hasc.ne_nil)
    rw [hrest] at htokens
    rw [if_pos (by simp [Token.isLayout, ht])] at hlast
    exact .newline ht ⟨by omega, by omega, bound, htokens ▸ hasc⟩ hlast
  | block ht hasc =>
    obtain ⟨htokens, hlast⟩ := behind_eq (hrest ▸ hasc.ne_nil)
    rw [hrest] at htokens
    have hlayout : c.token.isLayout = true := by
      rcases ht with ht | ht
      · simp [Token.isLayout, ht]
      · simp [Token.isLayout, ht]
    rw [if_pos hlayout] at hlast
    exact .block ht ⟨hpos, by omega, bound, htokens ▸ hasc⟩ hlast
  | text ht _ hline hend _ hasc =>
    obtain ⟨htokens, hlast⟩ := behind_eq (hrest ▸ hasc.ne_nil)
    rw [hrest] at htokens
    rw [if_neg (by simp [Token.isLayout_eq_false_of_isText ht])] at hlast
    refine .text ht ⟨by omega, Nat.le_refl _, bound, ?_⟩ hline
      (hlast.trans hend)
    rw [hlast, htokens]
    exact hasc

theorem From.text (h : c.From lo) (ht : c.token.isText = true) :
    c.behind.Settled ∧ lo ≤ c.behind.lastLine := by
  cases h.passes with
  | final hfinal => simp [Token.isText_eq_false_of_isFinal hfinal] at ht
  | newline hkind => simp [Token.isText, hkind] at ht
  | block hkind => rcases hkind with hk | hk <;> simp [Token.isText, hk] at ht
  | text _ hbehind hline hlast => exact ⟨hbehind, by omega⟩

theorem Settled.newline (h : c.Settled) (hkind : c.token.kind = .newline) :
    c.behind.Fresh ∧ c.behind.lastLine = c.lastLine := by
  cases From.passes h with
  | final hfinal => simp [Token.isFinal, hkind] at hfinal
  | newline _ hbehind hlast =>
    refine ⟨?_, hlast⟩
    unfold Fresh
    rw [hlast]
    exact hbehind
  | block hk => rcases hk with hk | hk <;> cases hkind.symm.trans hk
  | text ht => simp [Token.isText, hkind] at ht

theorem Fresh.block (h : c.Fresh)
    (hkind : c.token.kind = .indent ∨ c.token.kind = .dedent) :
    c.behind.Fresh ∧ c.behind.lastLine = c.lastLine := by
  cases From.passes h with
  | final hfinal =>
    rcases hkind with hk | hk <;> simp [Token.isFinal, hk] at hfinal
  | newline hk => rcases hkind with hk' | hk' <;> cases hk.symm.trans hk'
  | block _ hbehind hlast =>
    refine ⟨?_, hlast⟩
    unfold Fresh
    rw [hlast]
    exact hbehind
  | text ht => rcases hkind with hk | hk <;> simp [Token.isText, hk] at ht

/-- The tokens of the text that are passed stand on lines from here on, and
not below the last line. -/
theorem From.reaches (h : c.From lo) (hcd : c.Reaches d) :
    ∃ lo', lo ≤ lo' ∧ d.From lo' ∧ c.lastLine ≤ d.lastLine := by
  induction hcd generalizing lo with
  | refl c => exact ⟨lo, Nat.le_refl lo, h, Nat.le_refl _⟩
  | step _ ih =>
    have hle := h.lastLine_le
    cases h.passes with
    | final _ hsame =>
      rw [hsame] at ih
      exact ih h
    | newline _ hbehind hlast =>
      obtain ⟨lo', hlo, hd, hlast'⟩ := ih hbehind
      exact ⟨lo', by omega, hd, by omega⟩
    | block _ hbehind hlast =>
      obtain ⟨lo', hlo, hd, hlast'⟩ := ih hbehind
      exact ⟨lo', hlo, hd, by omega⟩
    | text _ hbehind hline hlast =>
      obtain ⟨lo', hlo, hd, hlast'⟩ := ih hbehind
      exact ⟨lo', by omega, hd, by omega⟩

theorem From.covers (h : c.From lo) {line : Int} (hline : c.Covers d line) :
    lo ≤ line ∧ line ≤ d.lastLine := by
  obtain ⟨b, hb, htext, ⟨hfirst, hlast⟩, hbd⟩ := hline
  obtain ⟨lo', hlo, hfrom, -⟩ := h.reaches hb
  cases hfrom.passes with
  | final ht => simp [Token.isText_eq_false_of_isFinal ht] at htext
  | newline ht => simp [Token.isText, ht] at htext
  | block ht => rcases ht with ht | ht <;> simp [Token.isText, ht] at htext
  | text _ hbehind _ hend =>
    obtain ⟨-, -, -, hle⟩ := hbehind.reaches hbd
    omega

end Cursor

-- ======================================================= heads and rows

/-- A part stands on these lines. -/
def Part.On (lo hi : Nat) : Part → Prop
  | .node n => n.Marked (fun line => lo ≤ line ∧ line ≤ hi) Name.Plain
  | .word w => Name.Plain w
  | .token t => lo ≤ t.line ∧ t.line ≤ hi

/-- What was read of a statement from a line on, up to here. -/
structure Head (lo : Nat) (c : Cursor) (xs : List Part) : Prop where
  pos : 1 ≤ lo
  le : lo ≤ c.lastLine
  settled : c.Settled
  on : ∀ x ∈ xs, x.On lo c.lastLine

variable {lo : Nat} {b c d : Cursor} {xs : List Part}

/-- Some token was passed, so the lines that were read are those up to the
last one. -/
theorem Read.headAt {t : Token} (h : Read b c xs) (hb : b.From lo)
    (htoken : .token t ∈ xs) : Head lo c xs := by
  have hcovers : ∀ {line : Int}, b.Covers c line →
      lo ≤ line ∧ line ≤ c.lastLine := hb.covers
  have hon : ∀ x ∈ xs, x.On lo c.lastLine := by
    intro x hx
    have hlies := h.lies x hx
    cases x with
    | node n =>
      exact Node.Marked.mono hlies (fun _ hl => hcovers hl)
        fun _ hw => hw hb.plain
    | word w => exact hlies hb.plain
    | token t =>
      have := hcovers (hlies t.line (.first rfl))
      exact ⟨by omega, by omega⟩
  have hle : lo ≤ c.lastLine := Nat.le_trans (hon _ htoken).1 (hon _ htoken).2
  obtain ⟨lo', hlo, hfrom, -⟩ := hb.reaches h.reaches
  exact ⟨hb.pos, hle, hfrom.anti (Nat.le_trans hb.pos hle) (Nat.le_refl _)
    hfrom.lastLine_le, hon⟩

theorem Read.head (h : Read b c xs) (hb : b.From lo)
    (htoken : .token b.token ∈ xs) : Head lo c xs := h.headAt hb htoken

/-- Nodes in a row from a spot on, up to the start of the line where the
cursor stands. -/
structure Stacked (a : Spot) (ns : List Node) (c : Cursor) : Prop where
  fresh : c.Fresh
  row : Node.Row a ns (.newLine (c.lastLine + 1))

namespace Stacked

variable {a a' : Spot} {ns ms : List Node}

theorem mono (h : Stacked a ns c) (ha : a' ≤ a) : Stacked a' ns c :=
  ⟨h.fresh, h.row.mono_left ha⟩

theorem append (h : Stacked a ns c)
    (h' : Stacked (.newLine (c.lastLine + 1)) ms d) :
    Stacked a (ns ++ ms) d := ⟨h'.fresh, h.row.append h'.row⟩

theorem dedent (h : Stacked a ns c) (hkind : c.token.kind = .dedent) :
    Stacked a ns c.behind := by
  obtain ⟨hfresh, hlast⟩ := h.fresh.block (Or.inr hkind)
  refine ⟨hfresh, ?_⟩
  rw [hlast]
  exact h.row

theorem empty (h : c.Fresh) : Stacked (.newLine (c.lastLine + 1)) [] c :=
  ⟨h, .nil (Spot.le_refl _)⟩

end Stacked

/-- A node is made of what is in its head and in its blocks. -/
structure Headed (xs : List Part) (header blocks : List Node) (n : Node) :
    Prop where
  parts : n.children.Perm (header ++ blocks)
  header : ∀ k ∈ header, k.isFlat = true ∧ .node k ∈ xs
  words : ∀ w ∈ n.words, .word w ∈ xs

/-- The parts of the head come before the blocks. -/
theorem Headed.inOrder {blocks : List Node} {n : Node} (header : List Node)
    (hparts : n.children = header ++ blocks)
    (hheader : ∀ k ∈ header, k.isFlat = true ∧ .node k ∈ xs)
    (hwords : ∀ w ∈ n.words, .word w ∈ xs) : Headed xs header blocks n :=
  ⟨hparts ▸ List.Perm.refl _, hheader, hwords⟩

/-- A node with a head and rows of statements is laid out with them. -/
theorem Head.stacked {n : Node} {header blocks : List Node}
    (h : Head lo c xs) (hblocks : Stacked (.inLine c.lastLine) blocks d)
    (hn : Headed xs header blocks n)
    (hspan : ∀ span ∈ n.span?,
      (∃ t : Token, .token t ∈ xs ∧ span.line = t.line) ∧
        span.endLine = d.lastLine) : Stacked (.newLine lo) [n] d := by
  have hpos := h.pos
  have hle := h.le
  refine ⟨hblocks.fresh, .single ?_⟩
  refine Node.laid_of_parts lo c.lastLine d.lastLine hn.parts ?_ hblocks.row
    rfl ?_ ?_ (by omega) (Int.le_refl _) (by omega) ?_ ?_
  · intro k hk
    obtain ⟨hflat, hmem⟩ := hn.header k hk
    exact ⟨hflat, h.on _ hmem⟩
  · intro span hs
    obtain ⟨⟨t, ht, hline⟩, hend⟩ := hspan span hs
    obtain ⟨hfirst, hlast⟩ := h.on _ ht
    exact ⟨by omega, by omega, hend⟩
  · exact fun w hw => h.on _ (hn.words w hw)
  · show (lo : Int) ≤ c.lastLine + 1
    omega
  · exact fun _ _ _ => ⟨Int.le_refl _, Int.lt_succ _⟩

/-- The end of a rule that makes a node of its head and its blocks. -/
theorem Head.builds {α : Type} {start : Token} {make : Span → α}
    {node : α → Node} {header blocks : List Node} (h : Head lo c xs)
    (hblocks : Stacked (.inLine c.lastLine) blocks d)
    (hstart : .token start ∈ xs)
    (hmake : ∀ span, (node (make span)).span? = some span ∧
      Headed xs header blocks (node (make span))) :
    Ensures (spanFrom start >>= fun span => pure (make span)) d
      fun x e => Stacked (.newLine lo) [node x] e := by
  refine .spanFrom fun span hline hend => .pure ?_
  obtain ⟨hspan, hn⟩ := hmake span
  refine h.stacked hblocks hn fun s hs => ?_
  rw [hspan] at hs
  cases hs
  exact ⟨⟨start, hstart, hline⟩, hend⟩

-- ==================================================== simple statements

/-- What a rule for simple statements gives: a statement that was read, and
ends where the cursor is. -/
structure Simple (b c : Cursor) (s : Stmt) : Prop where
  read : Read b c [.token b.token, .node (.stmt s)]
  simple : s.isSimple = true
  endLine : s.span.endLine = c.lastLine

/-- The end of a rule that makes a simple statement of what it read. -/
theorem Read.simple {start : Token} {make : Span → Stmt} (h : Read b c xs)
    (hb : .token b.token ∈ xs)
    (hmake : Built xs start fun span => .stmt (make span))
    (hsimple : ∀ span, (make span).isSimple = true) :
    Ensures (spanFrom start >>= fun span => pure (make span)) c
      fun s d => Simple b d s := by
  refine .spanFrom fun span hline hend => .pure ⟨?_, hsimple span, ?_⟩
  · exact h.built _ hb hmake hline
  · rw [Option.some.inj (hmake.2 span).1]
    exact hend

/-- A simple statement is laid out on the lines that it was read from. -/
theorem Simple.laid {s : Stmt} (h : Simple b c s) (hb : b.From lo) :
    c.Settled ∧ (Node.stmt s).Laid (.inLine lo) (.inLine c.lastLine) := by
  have hhead := h.read.head hb List.mem_cons_self
  have hmarked : (Node.stmt s).Marked
      (fun line => lo ≤ line ∧ line ≤ c.lastLine) Name.Plain :=
    hhead.on _ (List.mem_cons_of_mem _ List.mem_cons_self)
  obtain ⟨⟨hspan, hwords⟩, hchildren⟩ := Node.marked_iff.1 hmarked
  have hpos := hhead.pos
  have hle := hhead.le
  have hparts : (Node.stmt s).children.Perm ((Node.stmt s).children ++ []) :=
    List.append_nil _ ▸ List.Perm.refl _
  refine ⟨hhead.settled, Node.laid_of_parts lo c.lastLine c.lastLine hparts
    (fun k hk => ⟨Stmt.isFlat_of_mem_children h.simple hk, hchildren k hk⟩)
    (.nil (Spot.le_refl _)) rfl ?_ hwords (by omega) (Int.le_refl _)
    (by omega) ?_ ?_⟩
  · intro span hs
    obtain ⟨hfirst, hlast⟩ := hspan span hs
    cases hs
    exact ⟨hfirst, hlast, h.endLine⟩
  · show (lo : Int) + 1 ≤ c.lastLine + 1
    omega
  · rintro s ⟨⟩ hdef
    rw [Stmt.isDefinition_eq_false_of_isSimple h.simple] at hdef
    cases hdef

variable {inner : Inner}

/-- An imported module, as what was read. -/
@[simp, grind =] def ofModule (i : ImportName) : List Part :=
  [.node (.importName i), .word i.moduleAlias.short]

/-- An imported member, as what was read. -/
@[simp, grind =] def ofMember (i : ImportName) : List Part :=
  [.node (.importName i), .word (i.asName.getD i.name)]

theorem forms_assigned (h : inner.Sound) : Forms (assigned inner) ofExpr :=
  fun c => .peek (.ite (fun _ => forms_yieldExpression h c)
    fun _ => forms_starExpressions h c)

theorem simple_expressionStatement (h : inner.Sound) :
    Ensures (expressionStatement inner) c (fun s d => Simple c d s) := by
  unfold expressionStatement
  refine .peek ((Read.start c).forms (forms_assigned h)
    fun first c₁ h₁ => .peek ?_)
  refine .ite (fun hcolon => ?_) fun _ => .ite (fun _ => ?_) fun _ => ?_
  · refine .ite (fun _ => .next ?_) fun _ => .reject
    refine h₁.step.forms h.expression fun annotation c₂ h₂ => ?_
    have hend : ∀ (value : Option Expr) d, Read c d
        (value.toList.flatMap ofExpr ++ [.node (.expr first),
          .node (.expr annotation), .token c.token]) →
        Ensures (do
          return .annotated (← spanFrom c.token) first annotation value) d
          fun s d => Simple c d s := fun value d hd =>
      hd.simple (by simp) (by simp +contextual [Stmt.span, Stmt.children])
        fun _ => rfl
    refine .tryOp (fun ht => ?_) (hend none c₂ (h₂.sub (by simp)))
    refine h₂.step.forms (forms_assigned h) fun value c₃ h₃ => ?_
    exact hend (some value) c₃ (h₃.sub (by simp))
  · refine Ensures.bind (P := fun r d => Read c d
      (.token c.token :: r.1.flatMap ofExpr ++ ofExpr r.2)) ?_ fun r d hd =>
        hd.simple (by simp) (by
          simp [Stmt.span, Stmt.children]
          grind) fun _ => rfl
    refine .loop (h₁.sub (by simp)) fun r d hd => .peek ?_
    refine .ite (fun _ => ?_) fun _ => .pure hd
    refine .ite (fun _ => .next ?_) fun _ => .reject
    refine hd.step.forms (forms_assigned h) fun value e he => ?_
    exact .pure (he.sub (by grind))
  · split
    next o =>
      refine .ite (fun _ => .next ?_) fun _ => .reject
      refine h₁.step.forms (forms_assigned h) fun value c₂ h₂ => ?_
      exact h₂.simple (by simp) (by simp [Stmt.span, Stmt.children])
        fun _ => rfl
    next =>
      exact h₁.simple (by simp) (by simp [Stmt.span, Stmt.children])
        fun _ => rfl

/-- The first segment of a name that is made of plain segments. -/
theorem plain_head_intercalate {parts : List String} (hne : parts ≠ [])
    (hparts : ∀ s ∈ parts, Name.Plain s) :
    Name.Plain ((Name.segments (".".intercalate parts)).headD "") := by
  have hall : parts.filter (· ≠ "") = parts :=
    List.filter_eq_self.2 fun s hs => by simpa using (hparts s hs).1.1
  have hjoin := Name.join_eq_intercalate parts
  rw [hall] at hjoin
  rw [← hjoin, Name.segments_join fun s hs => (hparts s hs).1]
  obtain ⟨first, rest, rfl⟩ := List.exists_cons_of_ne_nil hne
  exact hparts first List.mem_cons_self

theorem forms_moduleName : Forms moduleName
    fun id => [.word ((Name.segments id).headD "")] := by
  intro c
  unfold moduleName
  refine (Read.start c).forms forms_name fun first c₁ h₁ => ?_
  refine Ensures.bind (P := fun parts d => parts ≠ [] ∧
    Read c d (.token c.token :: parts.map .word)) ?_ fun parts d hd => .pure ?_
  · refine .loop ⟨List.cons_ne_nil _ _, h₁.sub (by simp)⟩ fun parts d hd => ?_
    obtain ⟨hne, hd⟩ := hd
    refine .tryOp (fun ht => ?_) (.pure ⟨hne, hd⟩)
    refine hd.step.forms forms_name fun id e he => ?_
    exact .pure ⟨List.cons_ne_nil _ _, he.sub (by grind)⟩
  · obtain ⟨hne, hd⟩ := hd
    refine ⟨hd.reaches, List.forall_mem_cons.2 ⟨hd.lies _ List.mem_cons_self,
      List.forall_mem_singleton.2 fun hplain => ?_⟩⟩
    refine plain_head_intercalate (by simpa using hne) fun s hs => ?_
    exact hd.lies (.word s) (by simpa using hs) hplain

theorem reads_asName :
    Reads asName fun o => o.toList.map .word := by
  intro c
  unfold asName
  refine .tryKeyword (fun ht => ?_) (.pure (Read.start c))
  refine (Read.start c).step.forms forms_name fun id d hd => ?_
  exact .pure (hd.sub (by simp))

/-- One item of an import, whichever rule reads its name. -/
theorem forms_imported {p : Parse String} (word : String → String)
    (hp : Forms p fun id => [.word (word id)]) :
    Forms (do
      let start ← peek
      let id ← p
      let asName ← asName
      return { span := ← spanFrom start, name := id, asName : ImportName })
      fun i => .node (.importName i) :: .word (word i.name) ::
        i.asName.toList.map .word := by
  intro c
  refine .peek ((Read.start c).forms hp fun id c₁ h₁ => ?_)
  refine h₁.reads reads_asName fun o c₂ h₂ => ?_
  refine .spanFrom fun span hline _ => .pure ?_
  have hnode := h₂.built (fun span => .importName ⟨span, id, o⟩) (by simp)
    (built_importName.2 (by simp)) hline
  exact (h₂.and hnode).sub (by simp +contextual)

theorem forms_importedModule : Forms importedModule ofModule := by
  intro c
  refine (forms_imported _ forms_moduleName c).mono fun i d h => h.sub ?_
  cases ho : i.asName <;> simp [ho, ImportName.moduleAlias]

theorem forms_importedMember : Forms importedMember ofMember := by
  intro c
  refine (forms_imported id forms_name c).mono fun i d h => h.sub ?_
  cases ho : i.asName <;> simp [ho]

theorem forms_closedList {α : Type} {p : Parse α} {parts : α → List Part}
    (hp : Forms p parts) :
    Forms (closedList p) fun items => items.flatMap parts := by
  intro c
  unfold closedList
  refine (forms_commaList hp c).bind fun r d hd => ?_
  exact .ite (fun _ => .reject) fun _ => .pure hd

theorem reads_importLevel : Reads importLevel fun _ => [] := by
  intro c
  unfold importLevel
  refine .loop (Read.start c) fun level d hd => ?_
  exact .tryOp (fun _ => .pure hd.step)
    (.tryOp (fun _ => .pure hd.step) (.pure hd))

theorem forms_importedMembers :
    Forms importedMembers fun items => items.flatMap ofMember := by
  intro c
  unfold importedMembers
  refine .peek (.tryOp (fun ht => ?_) (.tryOp (fun ht => ?_) ?_))
  · refine .spanFrom fun span hline _ => .pure ?_
    have hnode := (Read.token ht).built
      (fun span => .importName ⟨span, "*", none⟩) (by simp)
      (built_importName.2 (by simp)) hline
    have hstar : Read c c.behind [.word "*"] :=
      ⟨hnode.reaches, List.forall_mem_singleton.2 fun _ => by decide⟩
    exact (hstar.and hnode).sub (by simp)
  · refine ((Read.start c).pass ht).forms
      (forms_commaList forms_importedMember) fun r c₁ h₁ => ?_
    refine h₁.forms (forms_op ")") fun _ c₂ h₂ => ?_
    exact .pure (h₂.sub (by grind))
  · exact forms_closedList forms_importedMember c

theorem simple_importFrom :
    Ensures importFrom c (fun s d => Simple c d s) := by
  unfold importFrom
  refine (Read.start c).forms (forms_keyword "from") fun start c₁ h₁ => ?_
  refine h₁.reads reads_importLevel fun level c₂ h₂ => ?_
  have hend : ∀ (module : Option String) d,
      Read c d [.token c.token, .token start] → Ensures (do
        let _ ← keyword "import"
        let names ← importedMembers
        return .importFrom (← spanFrom start) module names level) d
        fun s d => Simple c d s := by
    intro module d hd
    refine hd.forms (forms_keyword "import") fun _ c₃ h₃ => ?_
    refine h₃.forms forms_importedMembers fun names c₄ h₄ => ?_
    refine h₄.simple (by simp) ?_ fun _ => rfl
    simp +contextual [Stmt.span, Stmt.children]
    exact fun _ i hi => ⟨i, hi, rfl⟩
  refine .peek (.ite (fun _ => hend none c₂ (h₂.sub (by simp))) fun _ => ?_)
  exact h₂.forms forms_moduleName fun module c₃ h₃ =>
    hend (some module) c₃ (h₃.sub (by simp))

theorem simple_simpleStatement (h : inner.Sound) :
    Ensures (simpleStatement inner) c (fun s d => Simple c d s) := by
  have hword : ∀ make : Span → Stmt, c.token.symbol ≠ "" →
      (∀ span, (make span).span = span ∧ (make span).children = [] ∧
        (Node.stmt (make span)).words = [] ∧ (make span).isSimple = true) →
      Ensures (simpleStatement.word make) c fun s d => Simple c d s := by
    intro make ht hmake
    refine .next (((Read.start c).pass (Token.isText_of_symbol ht)).simple
      (by simp) (built_stmt.2 ⟨by simp, fun span => ?_⟩)
      fun span => (hmake span).2.2.2)
    obtain ⟨hspan, hchildren, hwords, -⟩ := hmake span
    rw [hchildren, hwords]
    exact ⟨hspan, List.forall_mem_nil _, List.forall_mem_nil _⟩
  unfold simpleStatement
  refine .peek ?_
  have hread : c.token.symbol ≠ "" → Read c c.behind [.token c.token] :=
    fun ht => Read.token (Token.isText_of_symbol ht)
  split
  next hsymbol =>
    exact hword _ (by simp [hsymbol]) fun _ => ⟨rfl, rfl, rfl, rfl⟩
  next hsymbol =>
    exact hword _ (by simp [hsymbol]) fun _ => ⟨rfl, rfl, rfl, rfl⟩
  next hsymbol =>
    exact hword _ (by simp [hsymbol]) fun _ => ⟨rfl, rfl, rfl, rfl⟩
  next hsymbol =>
    have h₁ := hread (by simp [hsymbol])
    refine .next (h₁.reads (reads_optional (forms_starExpressions h).reads)
      fun value c₂ h₂ => ?_)
    exact h₂.simple (by simp) (by simp +contextual [Stmt.span, Stmt.children])
      fun _ => rfl
  next hsymbol =>
    have h₁ := hread (by simp [hsymbol])
    have hend : ∀ (exception cause : Option Expr) d, Read c d
        (.token c.token :: exception.toList.flatMap ofExpr ++
          cause.toList.flatMap ofExpr) → Ensures (do
            return .raise (← spanFrom c.token) exception cause) d
          fun s d => Simple c d s := fun exception cause d hd =>
      hd.simple (by simp) (by
        simp [Stmt.span, Stmt.children]
        grind) fun _ => rfl
    refine .next (h₁.reads (reads_optional h.expression.reads)
      fun exception c₂ h₂ => ?_)
    cases exception with
    | none => exact hend none none c₂ (h₂.sub (by simp))
    | some e =>
      refine .tryKeyword (fun ht => ?_)
        (hend (some e) none c₂ (h₂.sub (by simp)))
      refine h₂.step.forms h.expression fun cause c₃ h₃ => ?_
      exact hend (some e) (some cause) c₃ (h₃.sub (by grind))
  next hsymbol =>
    have h₁ := hread (by simp [hsymbol])
    refine .next (h₁.forms (forms_closedList forms_name) fun names c₂ h₂ => ?_)
    exact h₂.simple (by simp) (by simp [Stmt.span, Stmt.children])
      fun _ => rfl
  next hsymbol =>
    have h₁ := hread (by simp [hsymbol])
    refine .next (h₁.forms (forms_closedList forms_name) fun names c₂ h₂ => ?_)
    exact h₂.simple (by simp) (by simp [Stmt.span, Stmt.children])
      fun _ => rfl
  next hsymbol =>
    have h₁ := hread (by simp [hsymbol])
    refine .next (h₁.forms (forms_commaList h.bitOr) fun r c₂ h₂ => ?_)
    refine .ite (fun _ => ?_) fun _ => .reject
    exact h₂.simple (by simp) (by simp +contextual [Stmt.span, Stmt.children])
      fun _ => rfl
  next hsymbol =>
    have h₁ := hread (by simp [hsymbol])
    refine .next (h₁.forms h.expression fun test c₂ h₂ => ?_)
    have hend : ∀ (message : Option Expr) d, Read c d
        (.token c.token :: .node (.expr test) ::
          message.toList.flatMap ofExpr) → Ensures (do
            return .assertion (← spanFrom c.token) test message) d
          fun s d => Simple c d s := fun message d hd =>
      hd.simple (by simp) (by
        simp [Stmt.span, Stmt.children]
        grind) fun _ => rfl
    refine .tryOp (fun ht => ?_) (hend none c₂ (h₂.sub (by simp)))
    refine h₂.step.forms h.expression fun message c₃ h₃ => ?_
    exact hend (some message) c₃ (h₃.sub (by simp))
  next hsymbol =>
    have h₁ := hread (by simp [hsymbol])
    refine .next (h₁.forms (forms_closedList forms_importedModule)
      fun names c₂ h₂ => ?_)
    refine h₂.simple (by simp) ?_ fun _ => rfl
    simp +contextual [Stmt.span, Stmt.children]
    exact fun _ i hi => ⟨i, hi, rfl⟩
  next => exact simple_importFrom
  next => exact simple_expressionStatement h

theorem ensures_newline : Ensures newline c fun _ d =>
    c.token.kind = .newline ∧ d = c.behind := by
  unfold newline
  refine .peek ?_
  split
  next hkind => exact .next (.pure ⟨hkind, rfl⟩)
  next => exact .reject

theorem ensures_indent : Ensures indent c fun _ d =>
    c.token.kind = .indent ∧ d = c.behind := by
  unfold indent
  refine .peek ?_
  split
  next hkind => exact .next (.pure ⟨hkind, rfl⟩)
  next => exact .reject

/-- The lines below a line, from the start of a block on. -/
theorem ensures_indented {α : Type} {p : Parse α}
    {Q : α → Cursor → Prop} (h : c.Settled)
    (hp : ∀ d : Cursor, d.Fresh → d.lastLine = c.lastLine → Ensures p d Q) :
    Ensures (newline >>= fun _ => indent >>= fun _ => p) c Q := by
  refine ensures_newline.bind fun _ d hd => ?_
  obtain ⟨hnewline, rfl⟩ := hd
  obtain ⟨hfresh, hlast⟩ := h.newline hnewline
  refine ensures_indent.bind fun _ d hd => ?_
  obtain ⟨hindent, rfl⟩ := hd
  obtain ⟨hfresh', hlast'⟩ := hfresh.block (Or.inl hindent)
  exact hp _ hfresh' (hlast'.trans hlast)

theorem ensures_dedent : Ensures dedent c fun _ d =>
    c.token.kind = .dedent ∧ d = c.behind := by
  unfold dedent
  refine .peek ?_
  split
  next hkind => exact .next (.pure ⟨hkind, rfl⟩)
  next => exact .reject

theorem stacked_simpleStatements (h : inner.Sound) (hc : c.From lo) :
    Ensures (simpleStatements inner) c fun ss d =>
      Stacked (.inLine lo) (ss.map .stmt) d := by
  unfold simpleStatements
  refine simple_simpleStatement h |>.bind fun first c₁ h₁ => ?_
  obtain ⟨hsettled, hfirst⟩ := h₁.laid hc
  refine Ensures.bind (P := fun found d => d.Settled ∧
    Node.Row (.inLine lo) (found.reverse.map .stmt) (.inLine d.lastLine))
    ?_ fun found d hd => ?_
  · refine .loop ⟨hsettled, .single hfirst⟩ fun found d hd => ?_
    obtain ⟨hd, hrow⟩ := hd
    refine .tryOp (fun ht => .peek ?_) (.pure ⟨hd, hrow⟩)
    obtain ⟨hbehind, hle⟩ := Cursor.From.text hd ht
    have hrow' := hrow.mono_right (Spot.inLine_le (Int.ofNat_le.2 hle))
    split
    next => exact .pure ⟨hbehind, hrow'⟩
    next =>
      refine (simple_simpleStatement h).bind fun s e hs => .pure ?_
      obtain ⟨he, hlaid⟩ := hs.laid hbehind
      refine ⟨he, ?_⟩
      simpa using hrow'.append (.single hlaid)
  · obtain ⟨hd, hrow⟩ := hd
    refine ensures_newline.bind fun _ e he => .pure ?_
    obtain ⟨hkind, rfl⟩ := he
    obtain ⟨hfresh, hlast⟩ := hd.newline hkind
    refine ⟨hfresh, hrow.mono_right ?_⟩
    rw [hlast]
    exact Spot.inLine_le_newLine _

end Purity.Grammar
