/-
Trees that are laid out line by line. The parts of a text stand one behind
the other: a part goes from one spot of the text to another (`Laid`), the
next one from there on, and a list of parts fills the text between two
spots (`Row`). Several parts may share a line, but a definition has its
lines to itself, as it begins on a new line and ends with one.

So of two parts in a row no line of a definition in the one is a first
line in the other (`Laid.apart`). A node whose parts are so arranged below
its own first line is `Tidy`, and laid out itself (`laid_of_parts`).
Consumed by the proofs about the rules for statements.
-/
import Purity.Proofs.Layout
import Purity.Proofs.Reading

namespace Purity

-- =============================================================== spots

/-- A spot between two parts of a text. -/
structure Spot where
  /-- What follows starts on this line or below it. -/
  line : Int
  /-- What comes before starts above this line, and the definitions that
  follow start on it or below it. -/
  fresh : Int

namespace Spot

/-- A spot behind something on a line. -/
def inLine (line : Int) : Spot := ⟨line, line + 1⟩

/-- A spot at the start of a line. -/
def newLine (line : Int) : Spot := ⟨line, line⟩

instance : LE Spot := ⟨fun a b => a.line ≤ b.line ∧ a.fresh ≤ b.fresh⟩

variable {a b c : Spot}

theorem le_refl (a : Spot) : a ≤ a := ⟨Int.le_refl _, Int.le_refl _⟩

theorem le_trans (hab : a ≤ b) (hbc : b ≤ c) : a ≤ c :=
  ⟨Int.le_trans hab.1 hbc.1, Int.le_trans hab.2 hbc.2⟩

theorem inLine_le {l k : Int} (h : l ≤ k) : inLine l ≤ inLine k :=
  ⟨h, Int.add_le_add_right h 1⟩

theorem inLine_le_newLine (l : Int) : inLine l ≤ newLine (l + 1) :=
  ⟨Int.le_add_one (Int.le_refl l), Int.le_refl _⟩

theorem newLine_le_inLine {l k : Int} (h : l ≤ k) : newLine l ≤ inLine k :=
  ⟨h, Int.le_add_one h⟩

end Spot

namespace Node

-- ========================================================== flat nodes

/-- A node that has no statements. -/
def isFlat : Node → Bool
  | .module _ | .stmt _ | .handler _ | .matchCase _ => false
  | _ => true

theorem isFlat_of_mem_children {n c : Node} (h : n.isFlat = true)
    (hc : c ∈ n.children) : c.isFlat = true := by
  cases n with
  | expr e => cases e <;> grind [children, Expr.children, isFlat]
  | pattern p => cases p <;> grind [children, Pattern.children, isFlat]
  | module _ | stmt _ | handler _ | matchCase _ => cases h
  | params ps =>
    obtain ⟨_, _, _, _, _, _, _⟩ := ps
    grind [children, isFlat]
  | _ => grind [children, isFlat]

theorem isFlat_of_within {n k : Node} (h : n.isFlat = true)
    (hk : k.Within n) : k.isFlat = true := by
  induction n using childrenInduction with
  | step n ih =>
    rcases within_iff.1 hk with rfl | ⟨c, hc, hin⟩
    · exact h
    · exact ih c hc (isFlat_of_mem_children h hc) hin

theorem not_stmt_within_of_isFlat {n : Node} (h : n.isFlat = true) (s : Stmt) :
    ¬ (Node.stmt s).Within n :=
  fun hs => by cases isFlat_of_within h hs

end Node

/-- A statement that has no other statements. -/
def Stmt.isSimple : Stmt → Bool
  | .functionDef .. | .classDef .. | .forLoop .. | .whileLoop ..
  | .conditional .. | .withBlock .. | .matchBlock .. | .tryBlock .. => false
  | _ => true

theorem Stmt.isFlat_of_mem_children {s : Stmt} (h : s.isSimple = true)
    {k : Node} (hk : k ∈ s.children) : k.isFlat = true := by
  cases s <;> grind [Stmt.children, Node.isFlat, Stmt.isSimple]

theorem Stmt.isDefinition_eq_false_of_isSimple {s : Stmt}
    (h : s.isSimple = true) : s.isDefinition = false := by
  cases s with
  | functionDef _ | classDef _ => cases h
  | _ => rfl

namespace Node

-- ========================================================== tidy trees

/-- No line of a definition in the first node is a first line in the
second. -/
def Clear (n k : Node) : Prop :=
  ∀ d : Stmt, (Node.stmt d).Within n → d.isDefinition = true →
    ∀ j : Node, j.Within k → ∀ span ∈ j.span?,
      ¬ d.span.holds span.line = true

/-- No line of a definition in one of the nodes is a first line in the
other. -/
def Apart (n k : Node) : Prop := n.Clear k ∧ k.Clear n

theorem Apart.symm {n k : Node} (h : n.Apart k) : k.Apart n := ⟨h.2, h.1⟩

theorem Apart.of_isFlat {n k : Node} (hn : n.isFlat = true)
    (hk : k.isFlat = true) : n.Apart k :=
  ⟨fun d hd => absurd hd (not_stmt_within_of_isFlat hn d),
    fun d hd => absurd hd (not_stmt_within_of_isFlat hk d)⟩

/-- A statement lies inside a span, and below its first line if it is a
definition. -/
structure Encloses (span : Span) (s : Stmt) : Prop where
  line_le : span.line ≤ s.span.line
  endLine_le : s.span.endLine ≤ span.endLine
  line_lt : s.isDefinition = true → span.line < s.span.line

/-- A tree in which everything has its own lines as far as definitions are
concerned. -/
structure Tidy (n : Node) : Prop where
  ordered : ∀ s : Stmt, (Node.stmt s).Within n →
    1 ≤ s.span.line ∧ s.span.line ≤ s.span.endLine
  encloses : ∀ k : Node, k.Within n → ∀ span ∈ k.span?,
    ∀ c ∈ k.children, ∀ s : Stmt, (Node.stmt s).Within c → Encloses span s
  apart : ∀ k : Node, k.Within n → k.children.Pairwise Apart

theorem Tidy.of_isFlat {n : Node} (h : n.isFlat = true) : n.Tidy := by
  have hparts : ∀ {k : Node}, k.Within n → ∀ c ∈ k.children,
      c.isFlat = true := fun hk _ hc =>
    isFlat_of_mem_children (isFlat_of_within h hk) hc
  refine ⟨fun s hs => ?_, fun k hk span _ c hc s hs => ?_, fun k hk => ?_⟩
  · exact absurd hs (not_stmt_within_of_isFlat h s)
  · exact absurd hs (not_stmt_within_of_isFlat (hparts hk c hc) s)
  · exact List.pairwise_of_forall_mem_list fun a ha b hb =>
      .of_isFlat (hparts hk a ha) (hparts hk b hb)

/-- A tree is tidy if its parts are, and are arranged so. -/
theorem Tidy.of_children {n : Node}
    (hself : ∀ s, n = .stmt s →
      1 ≤ s.span.line ∧ s.span.line ≤ s.span.endLine)
    (hencloses : ∀ span ∈ n.span?, ∀ c ∈ n.children, ∀ s : Stmt,
      (Node.stmt s).Within c → Encloses span s)
    (hapart : n.children.Pairwise Apart)
    (hchildren : ∀ c ∈ n.children, c.Tidy) : n.Tidy := by
  refine ⟨fun s hs => ?_, fun k hk => ?_, fun k hk => ?_⟩
  · rcases within_iff.1 hs with heq | ⟨c, hc, hin⟩
    · exact hself s heq.symm
    · exact (hchildren c hc).ordered s hin
  · rcases within_iff.1 hk with rfl | ⟨c, hc, hin⟩
    · exact hencloses
    · exact (hchildren c hc).encloses k hin
  · rcases within_iff.1 hk with rfl | ⟨c, hc, hin⟩
    · exact hapart
    · exact (hchildren c hc).apart k hin

-- ========================================================= laid out nodes

/-- A tree that goes from one spot of a text to another. -/
structure Laid (a b : Spot) (n : Node) : Prop where
  le : a ≤ b
  marked : n.Marked (fun line => a.line ≤ line ∧ line < b.fresh) Name.Plain
  ends : ∀ s : Stmt, (Node.stmt s).Within n → s.span.endLine < b.fresh
  definitions : ∀ d : Stmt, (Node.stmt d).Within n → d.isDefinition = true →
    a.fresh ≤ d.span.line ∧ d.span.endLine < b.line
  tidy : n.Tidy

variable {a a' b b' c : Spot} {n k : Node}

theorem Laid.mono (h : n.Laid a b) (ha : a' ≤ a) (hb : b ≤ b') :
    n.Laid a' b' := by
  refine ⟨Spot.le_trans ha (Spot.le_trans h.le hb), ?_, ?_, ?_, h.tidy⟩
  · refine h.marked.mono (fun line hline => ?_) fun _ hw => hw
    exact ⟨Int.le_trans ha.1 hline.1, Int.lt_of_lt_of_le hline.2 hb.2⟩
  · exact fun s hs => Int.lt_of_lt_of_le (h.ends s hs) hb.2
  · intro d hd hdef
    obtain ⟨hline, hend⟩ := h.definitions d hd hdef
    exact ⟨Int.le_trans ha.2 hline, Int.lt_of_lt_of_le hend hb.1⟩

/-- What stands behind a tree is apart from it. -/
theorem Laid.apart (hn : n.Laid a b) (hk : k.Laid b c) : n.Apart k := by
  refine ⟨fun d hd hdef j hj span hspan hholds => ?_,
    fun d hd hdef j hj span hspan hholds => ?_⟩
  · have hend := (hn.definitions d hd hdef).2
    have hline := ((hk.marked j hj).1 span hspan).1
    simp only [Span.holds, Bool.and_eq_true, decide_eq_true_eq] at hholds
    omega
  · have hstart := (hk.definitions d hd hdef).1
    have hline := ((hn.marked j hj).1 span hspan).2
    simp only [Span.holds, Bool.and_eq_true, decide_eq_true_eq] at hholds
    omega

theorem Laid.of_isFlat (hflat : n.isFlat = true) {lo hi : Int}
    (hle : lo ≤ hi)
    (hmarked : n.Marked (fun line => lo ≤ line ∧ line ≤ hi) Name.Plain) :
    n.Laid (.inLine lo) (.inLine hi) := by
  have hnone := not_stmt_within_of_isFlat hflat
  refine ⟨Spot.inLine_le hle, ?_, ?_, ?_, .of_isFlat hflat⟩
  · exact hmarked.mono (fun _ h => ⟨h.1, Int.lt_add_one_of_le h.2⟩)
      fun _ hw => hw
  · exact fun s hs => absurd hs (hnone s)
  · exact fun d hd => absurd hd (hnone d)

/-- Nodes that fill a text between two spots, one behind the other. -/
inductive Row : Spot → List Node → Spot → Prop
  | nil {a b : Spot} (h : a ≤ b) : Row a [] b
  | cons {a b c : Spot} {n : Node} {ns : List Node} (hn : n.Laid a b)
      (hns : Row b ns c) : Row a (n :: ns) c

namespace Row

variable {ns ms : List Node}

theorem le (h : Row a ns b) : a ≤ b := by
  induction h with
  | nil h => exact h
  | cons hn _ ih => exact Spot.le_trans hn.le ih

theorem mono_left (h : Row a ns b) (ha : a' ≤ a) : Row a' ns b := by
  cases h with
  | nil h => exact .nil (Spot.le_trans ha h)
  | cons hn hns => exact .cons (hn.mono ha (Spot.le_refl _)) hns

theorem append (h : Row a ns b) (h' : Row b ms c) : Row a (ns ++ ms) c := by
  induction h with
  | nil h => exact h'.mono_left h
  | cons hn _ ih => exact .cons hn (ih h')

theorem mono_right (h : Row a ns b) (hb : b ≤ b') : Row a ns b' := by
  have := h.append (.nil hb)
  rwa [List.append_nil] at this

theorem single (h : n.Laid a b) : Row a [n] b :=
  .cons h (.nil (Spot.le_refl b))

theorem laid (h : Row a ns b) : ∀ n ∈ ns, n.Laid a b := by
  induction h with
  | nil => exact List.forall_mem_nil _
  | cons hn hns ih =>
    refine List.forall_mem_cons.2 ⟨hn.mono (Spot.le_refl _) hns.le, ?_⟩
    exact fun k hk => (ih k hk).mono hn.le (Spot.le_refl _)

theorem apart (h : Row a ns b) : ns.Pairwise Apart := by
  induction h with
  | nil => exact .nil
  | cons hn hns ih => exact .cons (fun k hk => hn.apart (hns.laid k hk)) ih

end Row

/-- A node is laid out with its parts. First come parts without statements,
whatever their order, and the node starts on a line of these; then the
parts with statements, in a row. -/
theorem laid_of_parts (lo hi last : Int) {header blocks : List Node}
    (hparts : n.children.Perm (header ++ blocks))
    (hheader : ∀ k ∈ header, k.isFlat = true ∧
      k.Marked (fun line => lo ≤ line ∧ line ≤ hi) Name.Plain)
    (hblocks : Row (.inLine hi) blocks b) (hb : b.fresh = last + 1)
    (hspan : ∀ span ∈ n.span?, lo ≤ span.line ∧ span.line ≤ hi ∧
      span.endLine = last)
    (hwords : ∀ w ∈ n.words, Name.Plain w)
    (hpos : 1 ≤ lo) (hlo : a.line ≤ lo) (hhi : lo ≤ hi)
    (ha : a.fresh ≤ hi + 1)
    (hdef : ∀ s, n = .stmt s → s.isDefinition = true →
      a.fresh ≤ lo ∧ last < b.line) : n.Laid a b := by
  have hle : Spot.inLine hi ≤ b := hblocks.le
  have hstart : Spot.inLine lo ≤ Spot.inLine hi := Spot.inLine_le hhi
  have hflat : ∀ k ∈ header, k.Laid (.inLine lo) (.inLine hi) := fun k hk =>
    .of_isFlat (hheader k hk).1 hhi (hheader k hk).2
  have hmem : ∀ c ∈ n.children, c ∈ header ∨ c ∈ blocks := fun c hc =>
    List.mem_append.1 (hparts.mem_iff.1 hc)
  have hchildren : ∀ c ∈ n.children, c.Laid (.inLine lo) b := by
    intro c hc
    rcases hmem c hc with hc | hc
    · exact (hflat c hc).mono (Spot.le_refl _) hle
    · exact (hblocks.laid c hc).mono hstart (Spot.le_refl _)
  -- statements are in the rows alone, so they start behind the header
  have hstmts : ∀ c ∈ n.children, ∀ s : Stmt, (Node.stmt s).Within c →
      hi ≤ s.span.line ∧ (s.isDefinition = true → hi + 1 ≤ s.span.line) := by
    intro c hc s hs
    rcases hmem c hc with hc | hc
    · exact absurd hs (not_stmt_within_of_isFlat (hheader c hc).1 s)
    · have hlaid := hblocks.laid c hc
      exact ⟨((hlaid.marked _ hs).1 _ rfl).1,
        fun hdef => (hlaid.definitions s hs hdef).1⟩
  have hapart : n.children.Pairwise Apart := by
    refine (hparts.pairwise_iff Apart.symm).2 ?_
    refine List.pairwise_append.2 ⟨?_, hblocks.apart, fun k hk j hj => ?_⟩
    · exact List.pairwise_of_forall_mem_list fun j hj k hk =>
        .of_isFlat (hheader j hj).1 (hheader k hk).1
    · exact (hflat k hk).apart (hblocks.laid j hj)
  have hhigh : hi + 1 ≤ b.fresh := hle.2
  have hself : ∀ s, n = .stmt s → lo ≤ s.span.line ∧ s.span.line ≤ hi ∧
      s.span.endLine = last := by
    rintro s rfl
    exact hspan _ rfl
  refine ⟨⟨?_, ?_⟩, ?_, ?_, ?_, ?_⟩
  · exact Int.le_trans hlo (Int.le_trans hhi hle.1)
  · exact Int.le_trans ha hhigh
  · refine marked_iff.2 ⟨⟨fun span hs => ?_, hwords⟩, fun c hc => ?_⟩
    · have := hspan span hs
      omega
    · refine (hchildren c hc).marked.mono (fun line hline => ?_)
        fun _ hw => hw
      exact ⟨Int.le_trans hlo hline.1, hline.2⟩
  · intro s hs
    rcases within_iff.1 hs with heq | ⟨c, hc, hin⟩
    · have := hself s heq.symm
      omega
    · exact (hchildren c hc).ends s hin
  · intro d hd hdefines
    rcases within_iff.1 hd with heq | ⟨c, hc, hin⟩
    · have := hself d heq.symm
      have := hdef d heq.symm hdefines
      omega
    · have := (hstmts c hc d hin).2 hdefines
      exact ⟨by omega, ((hchildren c hc).definitions d hin hdefines).2⟩
  · refine .of_children (fun s heq => ?_) (fun span hs c hc s hin => ?_)
      hapart fun c hc => (hchildren c hc).tidy
    · have := hself s heq
      omega
    · have := hspan span hs
      obtain ⟨hline, hdefline⟩ := hstmts c hc s hin
      have := (hchildren c hc).ends s hin
      refine ⟨by omega, by omega, fun hdefines => ?_⟩
      have := hdefline hdefines
      omega

end Node

end Purity
