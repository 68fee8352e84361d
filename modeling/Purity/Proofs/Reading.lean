/-
What a grammar rule has read. A rule that applies passes tokens, so its
cursor moves forward (`Reaches`), and everything in the tree that it
builds starts on a line of a token that it passed (`Covers`) and is named
by words of the text.

`Ensures` says what holds whenever a rule applies, and has one lemma for
each way to build a rule. The rules are followed step by step with a list
of everything read since the rule began (`Read`): each step adds to the
list, the cursor moves on, and nothing on the list is lost, so at the end
a node is seen to be made of parts that are on it. Consumed by the proofs
about the rules for expressions, patterns and statements.
-/
import Purity.Alias
import Purity.Proofs.Place
import Purity.Proofs.TokenLines
import Purity.Syntax.Grammar.Basic

namespace Purity

-- ============================================================== cursors

namespace Grammar

namespace Cursor

/-- A cursor that is passed on to another, token by token. -/
inductive Reaches : Cursor → Cursor → Prop
  | refl (c : Cursor) : Reaches c c
  | step {c d : Cursor} : Reaches c.behind d → Reaches c d

theorem Reaches.trans {a b c : Cursor} (hab : a.Reaches b)
    (hbc : b.Reaches c) : a.Reaches c := by
  induction hab with
  | refl => exact hbc
  | step _ ih => exact .step (ih hbc)

theorem reaches_behind (c : Cursor) : c.Reaches c.behind := .step (.refl _)

theorem start_eq_some {lastLine : Nat} {tokens : List Token} {c : Cursor}
    (h : Cursor.start lastLine tokens = some c) :
    tokens = c.token :: c.rest ∧ c.lastLine = lastLine := by
  unfold Cursor.start at h
  split at h
  next => cases h
  next =>
    cases h
    exact ⟨rfl, rfl⟩

theorem Reaches.token_mem {c d : Cursor} (h : c.Reaches d) :
    d.token ∈ c.token :: c.rest := by
  induction h with
  | refl => exact List.mem_cons_self
  | @step c d _ ih =>
    unfold Cursor.behind at ih
    split at ih
    next => exact ih
    next t rest hrest =>
      rw [hrest]
      exact List.mem_cons_of_mem _ ih

/-- All names from here on are plain. -/
def Plain (c : Cursor) : Prop := ∀ t ∈ c.token :: c.rest, t.Plain

theorem Plain.behind {c : Cursor} (h : c.Plain) : c.behind.Plain := by
  unfold Cursor.behind
  split
  next => exact h
  next t rest hrest =>
    intro t' ht'
    refine h t' (List.mem_cons_of_mem _ ?_)
    rw [hrest]
    exact ht'

theorem Plain.of_reaches {c d : Cursor} (h : c.Plain) (hcd : c.Reaches d) :
    d.Plain := by
  induction hcd with
  | refl => exact h
  | step _ ih => exact ih h.behind

/-- A line of a token of the text that is passed between two cursors. -/
def Covers (c d : Cursor) (line : Int) : Prop :=
  ∃ b, c.Reaches b ∧ b.token.isText = true ∧ b.token.HasLine line ∧
    b.behind.Reaches d

theorem Covers.mono {a b c d : Cursor} {line : Int} (h : b.Covers c line)
    (hab : a.Reaches b) (hcd : c.Reaches d) : a.Covers d line := by
  obtain ⟨k, hk, htext, hline, hbehind⟩ := h
  exact ⟨k, hab.trans hk, htext, hline, hbehind.trans hcd⟩

theorem covers_behind {c : Cursor} {line : Int} (ht : c.token.isText = true)
    (hline : c.token.HasLine line) : c.Covers c.behind line :=
  ⟨c, .refl c, ht, hline, .refl _⟩

end Cursor

end Grammar

-- ================================================================ nodes

namespace Node

/-- The words that a node itself is spelled with. Of an import these are the
names that it binds. -/
@[simp] def words : Node → List String
  | .expr (.name _ id) => [id]
  | .expr (.member _ _ attr) => [attr]
  | .stmt (.functionDef _ _ name ..) | .stmt (.classDef _ name ..) => [name]
  | .stmt (.importModules _ names) => names.map fun i => i.moduleAlias.short
  | .stmt (.importFrom _ _ names _) =>
      names.map fun i => i.asName.getD i.name
  | _ => []

/-- Everything in a node starts on one of these lines, and is spelled with
these words. -/
def Marked (onLine : Int → Prop) (word : String → Prop) (n : Node) : Prop :=
  ∀ k : Node, k.Within n →
    (∀ span ∈ k.span?, onLine span.line) ∧ ∀ w ∈ k.words, word w

variable {onLine onLine' : Int → Prop} {word word' : String → Prop} {n : Node}

theorem Marked.mono (h : n.Marked onLine word)
    (hline : ∀ l, onLine l → onLine' l) (hword : ∀ w, word w → word' w) :
    n.Marked onLine' word' := by
  intro k hk
  obtain ⟨hspan, hwords⟩ := h k hk
  exact ⟨fun span hs => hline _ (hspan span hs),
    fun w hw => hword w (hwords w hw)⟩

theorem marked_iff : n.Marked onLine word ↔
    ((∀ span ∈ n.span?, onLine span.line) ∧ ∀ w ∈ n.words, word w) ∧
      ∀ c ∈ n.children, c.Marked onLine word := by
  constructor
  · intro h
    exact ⟨h n (.refl n), fun c hc k hk => h k (hk.of_child hc)⟩
  · rintro ⟨hself, hchildren⟩ k hk
    rcases within_iff.1 hk with rfl | ⟨c, hc, hin⟩
    · exact hself
    · exact hchildren c hc k hin

end Node

namespace Grammar

open Parse

-- =============================================================== parts

/-- What a rule reads and hands on. -/
inductive Part where
  | node (n : Node)
  | word (w : String)
  | token (t : Token)

/-- A part was read between two cursors. -/
def Part.Lies (c d : Cursor) : Part → Prop
  | .node n => n.Marked (c.Covers d) fun w => c.Plain → Name.Plain w
  | .word w => c.Plain → Name.Plain w
  | .token t => ∀ line, t.HasLine line → c.Covers d line

theorem Part.Lies.mono {a b c d : Cursor} {x : Part} (h : x.Lies b c)
    (hab : a.Reaches b) (hcd : c.Reaches d) : x.Lies a d := by
  cases x with
  | node n =>
      exact Node.Marked.mono h (fun _ hl => hl.mono hab hcd)
        fun _ hw hplain => hw (hplain.of_reaches hab)
  | word w => exact fun hplain => h (hplain.of_reaches hab)
  | token t => exact fun line hl => (h line hl).mono hab hcd

/-- The parts on a list were read on the way from one cursor to another. -/
structure Read (c d : Cursor) (parts : List Part) : Prop where
  reaches : c.Reaches d
  lies : ∀ x ∈ parts, x.Lies c d

namespace Read

variable {a b c d : Cursor} {xs ys : List Part}

theorem start (c : Cursor) : Read c c [] :=
  ⟨.refl c, fun _ hx => by cases hx⟩

theorem sub (h : Read c d xs) (hsub : ∀ x ∈ ys, x ∈ xs) : Read c d ys :=
  ⟨h.reaches, fun x hx => h.lies x (hsub x hx)⟩

theorem append (h : Read a b xs) (h' : Read b c ys) :
    Read a c (ys ++ xs) := by
  refine ⟨h.reaches.trans h'.reaches, fun x hx => ?_⟩
  rcases List.mem_append.1 hx with hy | hx
  · exact (h'.lies x hy).mono h.reaches (.refl c)
  · exact (h.lies x hx).mono (.refl a) h'.reaches

/-- A token of the text that is passed. -/
theorem token (ht : c.token.isText = true) :
    Read c c.behind [.token c.token] := by
  refine ⟨c.reaches_behind, fun x hx => ?_⟩
  obtain rfl := List.mem_singleton.1 hx
  exact fun line hline => Cursor.covers_behind ht hline

/-- A node that is made of what was read, and starts at one of the tokens
read. -/
theorem node {n : Node} (h : Read c d xs)
    (hstart : ∀ span ∈ n.span?, ∃ t : Token,
      .token t ∈ xs ∧ span.line = t.line)
    (hwords : ∀ w ∈ n.words, .word w ∈ xs)
    (hchildren : ∀ k ∈ n.children, .node k ∈ xs) : Read c d [.node n] := by
  refine ⟨h.reaches, fun x hx => ?_⟩
  obtain rfl := List.mem_singleton.1 hx
  refine Node.marked_iff.2 ⟨⟨fun span hspan => ?_, ?_⟩, ?_⟩
  · obtain ⟨t, ht, hline⟩ := hstart span hspan
    exact h.lies _ ht span.line (.first hline)
  · exact fun w hw => h.lies _ (hwords w hw)
  · exact fun k hk => h.lies _ (hchildren k hk)

/-- A node that is made of what was read, and has the span of something
read. -/
theorem nodeOf {n k : Node} (h : Read c d xs) (hk : .node k ∈ xs)
    (hspan : n.span? = k.span?) (hwords : ∀ w ∈ n.words, .word w ∈ xs)
    (hchildren : ∀ k ∈ n.children, .node k ∈ xs) : Read c d [.node n] := by
  refine ⟨h.reaches, fun x hx => ?_⟩
  obtain rfl := List.mem_singleton.1 hx
  refine Node.marked_iff.2 ⟨⟨?_, ?_⟩, ?_⟩
  · rw [hspan]
    exact (Node.marked_iff.1 (h.lies _ hk)).1.1
  · exact fun w hw => h.lies _ (hwords w hw)
  · exact fun k hk => h.lies _ (hchildren k hk)

/-- What was read by two accounts of one way. -/
theorem and (h : Read c d xs) (h' : Read c d ys) : Read c d (ys ++ xs) :=
  ⟨h.reaches, fun x hx =>
    (List.mem_append.1 hx).elim (h'.lies x) (h.lies x)⟩

end Read

-- =============================================================== rules

namespace Parse

variable {α β : Type} {p q : Parse α} {f : α → Parse β} {c : Cursor}
  {P Q : α → Cursor → Prop} {R : β → Cursor → Prop}

/-- What holds of the value and the cursor that a rule gives, if it
applies. -/
def Ensures (p : Parse α) (c : Cursor) (Q : α → Cursor → Prop) : Prop :=
  ∀ a d, p c = some (a, d) → Q a d

theorem Ensures.mono (h : Ensures p c P) (hPQ : ∀ a d, P a d → Q a d) :
    Ensures p c Q := fun a d hp => hPQ a d (h a d hp)

theorem Ensures.pure {a : α} (h : Q a c) : Ensures (Pure.pure a) c Q := by
  intro b d hb
  cases hb
  exact h

theorem Ensures.reject : Ensures reject c Q := fun _ _ h => by cases h

theorem Ensures.bind (hp : Ensures p c P)
    (hf : ∀ a d, P a d → Ensures (f a) d R) : Ensures (p >>= f) c R := by
  intro b e hb
  obtain ⟨⟨a, d⟩, ha, hf'⟩ := Option.bind_eq_some_iff.1 hb
  exact hf a d (hp a d ha) b e hf'

theorem Ensures.ite {b : Prop} [Decidable b] (hp : b → Ensures p c Q)
    (hq : ¬ b → Ensures q c Q) : Ensures (if b then p else q) c Q := by
  split
  next h => exact hp h
  next h => exact hq h

theorem Ensures.orElse (hp : Ensures p c Q) (hq : Ensures q c Q) :
    Ensures (p <|> q) c Q := by
  intro a d h
  change (p c <|> q c) = some (a, d) at h
  cases hpc : p c with
  | none =>
      rw [hpc] at h
      exact hq a d h
  | some r =>
      rw [hpc] at h
      cases h
      exact hp a d hpc

/-- What a turn hands on. -/
@[simp, grind =] def Turn.value : Turn α → α
  | .more a | .done a => a

theorem Ensures.iterate {step : α → Parse (Turn α)} {I : α → Cursor → Prop}
    (hstep : ∀ a c, I a c → Ensures (step a) c fun turn d =>
      match turn with
      | .more a => I a d
      | .done a => Q a d) (turns : Nat) :
    ∀ {a c}, I a c → Ensures (Parse.iterate step turns a) c Q := by
  induction turns with
  | zero => exact fun _ => .reject
  | succ turns ih =>
      intro a c h
      refine (hstep a c h).bind fun turn d hturn => ?_
      cases turn with
      | more a => exact ih hturn
      | done a => exact .pure hturn

/-- A repetition keeps what each of its turns keeps. -/
theorem Ensures.repeating {step : α → Parse (Turn α)} {a : α}
    (I : α → Cursor → Prop) (h : I a c)
    (hstep : ∀ a c, I a c → Ensures (step a) c fun turn d =>
      match turn with
      | .more a => I a d
      | .done a => Q a d) :
    Ensures (repeating step a) c Q :=
  Ensures.iterate hstep _ h

/-- The same where the last turn keeps what the others keep. -/
theorem Ensures.loop {step : α → Parse (Turn α)} {a : α}
    {I : α → Cursor → Prop} (h : I a c)
    (hstep : ∀ a c, I a c → Ensures (step a) c fun turn d =>
      I turn.value d) : Ensures (Parse.repeating step a) c I := by
  refine .repeating I h fun a d hd => (hstep a d hd).mono ?_
  rintro (a | a) e he
  · exact he
  · exact he

-- ========================================================= single tokens

theorem ensures_peek : Ensures peek c fun t d => t = c.token ∧ d = c := by
  intro t d h
  unfold peek at h
  split at h
  next => cases h
  next =>
    cases h
    exact ⟨rfl, rfl⟩

theorem Ensures.peek {f : Token → Parse β} (h : Ensures (f c.token) c R) :
    Ensures (Parse.peek >>= f) c R :=
  ensures_peek.bind fun _ _ ⟨ht, hd⟩ => ht ▸ hd ▸ h

theorem ensures_next :
    Ensures next c fun t d => t = c.token ∧ d = c.behind := by
  unfold Parse.next
  refine .peek ?_
  intro t d h
  cases h
  exact ⟨rfl, rfl⟩

theorem Ensures.next {f : Token → Parse β}
    (h : Ensures (f c.token) c.behind R) : Ensures (Parse.next >>= f) c R :=
  ensures_next.bind fun _ _ ⟨ht, hd⟩ => ht ▸ hd ▸ h

theorem Ensures.lift {o : Option α} {f : α → Parse β}
    (h : ∀ a, o = some a → Ensures (f a) c R) :
    Ensures ((liftM o : Parse α) >>= f) c R := by
  cases o with
  | none =>
    intro b d hb
    cases hb
  | some a => exact h a rfl

/-- A rule for each item of a list, none of which moves the cursor. -/
theorem Ensures.mapM {f : α → Parse β} {P : β → Prop} {as : List α}
    (h : ∀ a ∈ as, Ensures (f a) c fun b d => d = c ∧ P b) :
    Ensures (as.mapM f) c fun bs d => d = c ∧ ∀ b ∈ bs, P b := by
  induction as with
  | nil => exact .pure ⟨rfl, List.forall_mem_nil _⟩
  | cons a as ih =>
    obtain ⟨ha, has⟩ := List.forall_mem_cons.1 h
    rw [List.mapM_cons]
    refine ha.bind fun b d hb => ?_
    obtain ⟨rfl, hb⟩ := hb
    refine (ih has).bind fun bs d hbs => ?_
    obtain ⟨rfl, hbs⟩ := hbs
    exact .pure ⟨rfl, List.forall_mem_cons.2 ⟨hb, hbs⟩⟩

theorem Ensures.spanFrom {f : Span → Parse β} {t : Token}
    (h : ∀ span : Span, span.line = t.line → span.endLine = c.lastLine →
      Ensures (f span) c R) : Ensures (Parse.spanFrom t >>= f) c R := by
  intro b d hb
  exact h _ rfl rfl b d hb

/-- A rule that only looks ahead. -/
def Looks (p : Parse α) : Prop := ∀ c, Ensures p c fun _ d => d = c

theorem Looks.bind (hp : Looks p) (hf : ∀ a, Ensures (f a) c R) :
    Ensures (p >>= f) c R :=
  (hp c).bind fun a _ hd => hd ▸ hf a

theorem looks_lookahead (p : Parse α) : Looks (lookahead p) := by
  intro c a d h
  change ((p c).bind fun r => some (r.1, c)) = some (a, d) at h
  obtain ⟨r, -, hr⟩ := Option.bind_eq_some_iff.1 h
  cases hr
  rfl

theorem looks_peekSecond : Looks peekSecond := looks_lookahead _

theorem looks_isNext (symbols : List String) : Looks (isNext symbols) :=
  fun _ => .peek (.pure rfl)

/-- The next token was passed, or it was not. -/
def Tried (c : Cursor) (passed : Bool) (d : Cursor) : Prop :=
  passed = true ∧ c.token.isText = true ∧ d = c.behind ∨
    passed = false ∧ d = c

theorem ensures_tryOp (symbol : String) :
    Ensures (tryOp symbol) c (Tried c) := by
  refine .peek (.ite (fun h => .next (.pure ?_)) fun _ => .pure ?_)
  · exact Or.inl ⟨rfl, Token.isText_of_isOp h, rfl⟩
  · exact Or.inr ⟨rfl, rfl⟩

theorem ensures_tryKeyword (word : String) :
    Ensures (tryKeyword word) c (Tried c) := by
  refine .peek (.ite (fun h => .next (.pure ?_)) fun _ => .pure ?_)
  · exact Or.inl ⟨rfl, Token.isText_of_isKeyword h, rfl⟩
  · exact Or.inr ⟨rfl, rfl⟩

theorem Ensures.tried {attempt : Parse Bool} {p q : Parse β}
    (h : Ensures attempt c (Tried c))
    (hp : c.token.isText = true → Ensures p c.behind R)
    (hq : Ensures q c R) :
    Ensures (attempt >>= fun passed => if passed = true then p else q) c
      R := by
  refine h.bind fun passed d hd => ?_
  rcases hd with ⟨rfl, ht, rfl⟩ | ⟨rfl, rfl⟩
  · exact hp ht
  · exact hq

/-- Punctuation that may be passed, and what follows in each case. -/
theorem Ensures.tryOp {p q : Parse β} {symbol : String}
    (hp : c.token.isText = true → Ensures p c.behind R)
    (hq : Ensures q c R) :
    Ensures (Parse.tryOp symbol >>= fun passed =>
      if passed = true then p else q) c R :=
  (ensures_tryOp symbol).tried hp hq

/-- A reserved word that may be passed, and what follows in each case. -/
theorem Ensures.tryKeyword {p q : Parse β} {word : String}
    (hp : c.token.isText = true → Ensures p c.behind R)
    (hq : Ensures q c R) :
    Ensures (Parse.tryKeyword word >>= fun passed =>
      if passed = true then p else q) c R :=
  (ensures_tryKeyword word).tried hp hq

end Parse

-- ========================================================== made of parts

open Parse

/-- An expression, as what was read. -/
@[simp, grind =] def ofExpr (e : Expr) : List Part := [.node (.expr e)]

variable {α β : Type} {p : Parse α} {f : α → Parse β} {parts : α → List Part}
  {R : β → Cursor → Prop}

/-- Whatever a rule gives consists of parts that it read. -/
def Reads (p : Parse α) (parts : α → List Part) : Prop :=
  ∀ c, Ensures p c fun a d => Read c d (parts a)

/-- Moreover the rule passes the token that it starts at. -/
def Forms (p : Parse α) (parts : α → List Part) : Prop :=
  ∀ c, Ensures p c fun a d => Read c d (.token c.token :: parts a)

/-- With a span that starts at a token on a list, the node is made of parts
on the list. -/
def Built (xs : List Part) (start : Token) (make : Span → Node) : Prop :=
  .token start ∈ xs ∧ ∀ span, (make span).span? = some span ∧
    (∀ w ∈ (make span).words, .word w ∈ xs) ∧
    ∀ k ∈ (make span).children, .node k ∈ xs

section Built

variable {xs : List Part} {start : Token}

@[simp] theorem built_expr {make : Span → Expr} :
    Built xs start (fun span => .expr (make span)) ↔
      .token start ∈ xs ∧ ∀ span, (make span).span = span ∧
        (∀ w ∈ (Node.expr (make span)).words, .word w ∈ xs) ∧
        ∀ k ∈ (make span).children, .node k ∈ xs := by
  simp [Built, Node.span?, Node.children]

@[simp] theorem built_stmt {make : Span → Stmt} :
    Built xs start (fun span => .stmt (make span)) ↔
      .token start ∈ xs ∧ ∀ span, (make span).span = span ∧
        (∀ w ∈ (Node.stmt (make span)).words, .word w ∈ xs) ∧
        ∀ k ∈ (make span).children, .node k ∈ xs := by
  simp [Built, Node.span?, Node.children]

@[simp] theorem built_importName {name : String} {asName : Option String} :
    Built xs start (fun span => .importName ⟨span, name, asName⟩) ↔
      .token start ∈ xs := by
  simp [Built, Node.span?, Node.children]

@[simp] theorem built_pattern {make : Span → Pattern} :
    Built xs start (fun span => .pattern (make span)) ↔
      .token start ∈ xs ∧ ∀ span, (make span).span = span ∧
        ∀ k ∈ (make span).children, .node k ∈ xs := by
  simp [Built, Node.span?, Node.children]

@[simp] theorem built_keyword {name : Option String} {value : Expr} :
    Built xs start (fun span => .keyword ⟨span, name, value⟩) ↔
      .token start ∈ xs ∧ .node (.expr value) ∈ xs := by
  have : Nonempty Span := ⟨⟨0, 0, 0⟩⟩
  simp [Built, Node.span?, Node.children]

@[simp] theorem built_param {name : String} {hint : Option Expr} :
    Built xs start (fun span => .param ⟨span, name, hint⟩) ↔
      .token start ∈ xs ∧ ∀ e ∈ hint, .node (.expr e) ∈ xs := by
  have : Nonempty Span := ⟨⟨0, 0, 0⟩⟩
  simp [Built, Node.span?, Node.children]

end Built

theorem Forms.reads (h : Forms p parts) : Reads p parts := fun c =>
  (h c).mono fun _ _ hr => hr.sub fun _ hx => List.mem_cons_of_mem _ hx

namespace Read

variable {b c : Cursor} {xs : List Part}

theorem reads (h : Read b c xs) (hp : Reads p parts)
    (hf : ∀ a d, Read b d (parts a ++ xs) → Ensures (f a) d R) :
    Ensures (p >>= f) c R :=
  (hp c).bind fun a d ha => hf a d (h.append ha)

theorem forms (h : Read b c xs) (hp : Forms p parts)
    (hf : ∀ a d, Read b d (.token c.token :: parts a ++ xs) →
      Ensures (f a) d R) : Ensures (p >>= f) c R :=
  (hp c).bind fun a d ha => hf a d (h.append ha)

/-- The next token is passed, which is one of the text. -/
theorem pass (h : Read b c xs) (ht : c.token.isText = true) :
    Read b c.behind (.token c.token :: xs) := h.append (Read.token ht)

/-- The next token is passed, whatever it is. -/
theorem step (h : Read b c xs) : Read b c.behind xs :=
  have hstep : Read c c.behind [] :=
    ⟨c.reaches_behind, fun _ hx => by cases hx⟩
  h.append hstep

/-- The next token is passed, which is a name. -/
theorem passName {spelling id : String} (h : Read b c xs)
    (hkind : c.token.kind = .name spelling id) :
    Read b c.behind (.token c.token :: .word id :: xs) := by
  have ht : c.token.isText = true := by
    unfold Token.isText
    rw [hkind]
  have hword : Read c c.behind [.token c.token, .word id] := by
    refine ⟨c.reaches_behind, fun x hx => ?_⟩
    rcases List.mem_cons.1 hx with rfl | hx
    · exact (Read.token ht).lies _ List.mem_cons_self
    · obtain rfl := List.mem_singleton.1 hx
      exact fun hplain => hplain c.token List.mem_cons_self spelling id hkind
  exact h.append hword

/-- A repetition goes on from what was read before it, and each turn from
what the turns before it gave. -/
theorem repeats {step : α → Parse (Turn α)} {a : α} (h : Read b c xs)
    (parts : α → List Part) (ha : ∀ x ∈ parts a, x ∈ xs)
    (hstep : ∀ a c ys, Read b c (parts a ++ ys) → Ensures (step a) c
      fun turn d => Read b d (parts turn.value ++ ys)) :
    Ensures (repeating step a) c fun a d => Read b d (parts a ++ xs) := by
  refine .loop ?_ fun a d hd => hstep a d xs hd
  exact h.sub fun x hx => (List.mem_append.1 hx).elim (ha x) id

/-- A node that is made of what was read. -/
theorem built {start : Token} {span : Span} (h : Read b c xs)
    (make : Span → Node) (hb : .token b.token ∈ xs)
    (hmake : Built xs start make) (hline : span.line = start.line) :
    Read b c [.token b.token, .node (make span)] := by
  obtain ⟨hstart, hparts⟩ := hmake
  obtain ⟨hspan, hwords, hchildren⟩ := hparts span
  have hnode : Read b c [.node (make span)] := by
    refine h.node (fun s hs => ⟨start, hstart, ?_⟩) hwords hchildren
    rw [hspan] at hs
    cases hs
    exact hline
  have hfirst : Read b c [.token b.token] :=
    h.sub fun x hx => by rwa [List.mem_singleton.1 hx]
  exact hnode.and hfirst

/-- The end of a rule that makes a node of what it read. -/
theorem builds {start : Token} {make : Span → α} {node : α → Node}
    (h : Read b c xs) (hb : .token b.token ∈ xs)
    (hmake : Built xs start fun span => node (make span)) :
    Ensures (spanFrom start >>= fun span => pure (make span)) c
      fun a d => Read b d [.token b.token, .node (node a)] :=
  .spanFrom fun _ hline _ => .pure (h.built _ hb hmake hline)

/-- The end of a turn that makes a node of what was read. -/
theorem turns {start : Token} {make : Span → α} {node : α → Node}
    (h : Read b c xs) (hb : .token b.token ∈ xs)
    (hmake : Built xs start fun span => node (make span)) :
    Ensures (spanFrom start >>= fun span => pure (Turn.more (make span))) c
      fun turn d => Read b d [.token b.token, .node (node turn.value)] :=
  .spanFrom fun _ hline _ => .pure (h.built _ hb hmake hline)

end Read

theorem forms_op (symbol : String) :
    Forms (op symbol) fun t => [.token t] := by
  intro c
  refine .peek (.ite (fun h => ?_) fun _ => .reject)
  refine ensures_next.mono fun t d ⟨ht, hd⟩ => ?_
  rw [ht, hd]
  exact (Read.token (Token.isText_of_isOp h)).sub (by simp)

theorem forms_keyword (word : String) :
    Forms (keyword word) fun t => [.token t] := by
  intro c
  refine .peek (.ite (fun h => ?_) fun _ => .reject)
  refine ensures_next.mono fun t d ⟨ht, hd⟩ => ?_
  rw [ht, hd]
  exact (Read.token (Token.isText_of_isKeyword h)).sub (by simp)

theorem forms_name : Forms name fun id => [.word id] := by
  intro c
  unfold name
  refine .peek ?_
  split
  next spelling id hkind =>
    exact .next (.pure ((Read.start c).passName hkind))
  next => exact .reject

theorem reads_tryKeyword (word : String) :
    Reads (tryKeyword word) fun _ => [] :=
  fun c => .peek (.ite (fun _ => .next (.pure (Read.start c).step))
    fun _ => .pure (Read.start c))

theorem reads_optional (hp : Reads p parts) :
    Reads (optional p) fun o => o.toList.flatMap parts := by
  intro c
  refine .orElse ?_ (.pure ?_)
  · refine (hp c).bind fun a d ha => .pure ?_
    exact ha.sub (by simp)
  · exact (Read.start c).sub (by simp)

theorem forms_commaList (hp : Forms p parts) :
    Forms (commaList p) fun r => r.1.flatMap parts := by
  intro c
  unfold commaList
  refine (Read.start c).forms hp fun first c₁ h₁ => ?_
  refine Ensures.bind (P := fun r d =>
    Read c d (.token c.token :: r.1.flatMap parts)) ?_ fun r d hr =>
      .pure (hr.sub (by simp))
  refine .loop (h₁.sub (by simp)) ?_
  rintro ⟨items, trailing⟩ d hd
  refine .tryOp (fun ht => ?_) (.pure hd)
  refine (hd.pass ht).reads (reads_optional hp.reads) fun o e he => ?_
  cases o with
  | none => exact .pure (he.sub (by grind))
  | some x => exact .pure (he.sub (by grind))

end Grammar

end Purity
