/-
The lines of replacement fields. The body of a formatted string is cut
into pieces from its start to its end, so the text of a field's expression
stands on lines of the string: it starts at the line of its brace, and
goes no further than the string (`formatPieces_lies`). The tokens of the
expression are cut from that text, so they stay on these lines as well
(`fieldTokens_ascends`).
-/
import Purity.Proofs.TokenLines
import Purity.Syntax.StringLiteral

namespace Purity.StringLiteral

open Lexer

-- ====================================================== located texts

/-- The number of line ends in a located text. -/
def lineEnds (cs : List Located) : Nat := Lexer.lineEnds (chars cs)

theorem lineEnds_append (cs ds : List Located) :
    lineEnds (cs ++ ds) = lineEnds cs + lineEnds ds := by
  unfold lineEnds chars
  rw [List.map_append, Lexer.lineEnds_append]

/-- Each character stands on the line that the line ends before it tell,
counted from a given one. -/
def Counted : (line : Nat) → List Located → Prop
  | _, [] => True
  | line, c :: cs => c.line = line ∧ Counted (line + lineEnds [c]) cs

theorem counted_locate (line column : Nat) (cs : List Char) :
    Counted line (locate line column cs) := by
  induction cs generalizing line column with
  | nil => trivial
  | cons c cs ih =>
    refine ⟨rfl, ?_⟩
    split
    next hc =>
      subst hc
      exact ih (line + 1) 0
    next hc =>
      have hnone : lineEnds [⟨c, line, column⟩] = 0 := by
        simp [lineEnds, chars, Lexer.lineEnds, hc]
      rw [hnone]
      exact ih line _

theorem chars_locate (line column : Nat) (cs : List Char) :
    chars (locate line column cs) = cs := by
  induction cs generalizing line column with
  | nil => rfl
  | cons c cs ih =>
    rw [locate, chars, List.map_cons]
    refine congrArg (c :: ·) ?_
    split
    next => exact ih _ _
    next => exact ih _ _

theorem Counted.drop {line : Nat} {before cs : List Located}
    (h : Counted line (before ++ cs)) :
    Counted (line + lineEnds before) cs := by
  induction before generalizing line with
  | nil => exact h
  | cons c before ih =>
    have := ih h.2
    rw [Nat.add_assoc, ← lineEnds_append] at this
    exact this

/-- A text on lines of a string. -/
def Inside (first last : Nat) (cs : List Located) : Prop :=
  ∃ line, first ≤ line ∧ Counted line cs ∧ line + lineEnds cs ≤ last

variable {first last : Nat} {cs ds : List Located}

theorem Inside.suffix (h : Inside first last cs) (hds : ds <:+ cs) :
    Inside first last ds := by
  obtain ⟨line, hfirst, hcounted, hlast⟩ := h
  obtain ⟨before, rfl⟩ := hds
  refine ⟨line + lineEnds before, Nat.le_add_right_of_le hfirst,
    hcounted.drop, ?_⟩
  rw [Nat.add_assoc, ← lineEnds_append]
  exact hlast

-- ============================================================== pieces

/-- The fields of a piece stand on lines of the string. -/
inductive Piece.Lies (first last : Nat) : Piece → Prop
  | text (value : List Text.CodePoint) : Lies first last (.text value)
  | field {brace : Located} {expression : List Located}
      {conversion : Option Char} {format : Option (List Piece)}
      (hfirst : first ≤ brace.line)
      (hlast : brace.line + lineEnds expression ≤ last)
      (hformat : ∀ pieces, format = some pieces →
        ∀ p ∈ pieces, Lies first last p) :
      Lies first last (.field brace expression conversion format)

/-- The pieces of a cut, and what it leaves, stand on lines of the string. -/
structure Cut.Lies (first last : Nat) (cut : Cut) : Prop where
  pieces : ∀ p ∈ cut.pieces, p.Lies first last
  rest : Inside first last cut.rest

theorem Cut.Lies.after {cut : Cut} {before : List Piece}
    (h : cut.Lies first last) (hbefore : ∀ p ∈ before, p.Lies first last) :
    (cut.after before).Lies first last := by
  refine ⟨fun p hp => ?_, h.rest⟩
  rcases List.mem_append.1 hp with hp | hp
  · exact hbefore p hp
  · exact h.pieces p hp

theorem brace_suffix {top : Bool} {acc : List Char} {b : Located}
    {cs : List Located} {scanned : Scanned}
    (h : scanText.brace top acc b cs = some scanned) :
    scanned.rest <:+ b :: cs := by
  unfold scanText.brace at h
  split at h
  next =>
    split at h
    next b' rest =>
      split at h
      next =>
        cases h
        exact (List.suffix_cons _ _).trans (List.suffix_cons _ _)
      next =>
        split at h
        next => cases h
        next => cases h; exact List.suffix_refl _
    next =>
      split at h
      next => cases h
      next => cases h; exact List.suffix_refl _
  next => cases h; exact List.suffix_refl _

theorem scanText_suffix {raw top : Bool} (steps : Nat) (acc : List Char)
    (cs : List Located) {scanned : Scanned}
    (h : scanText raw top steps acc cs = some scanned) :
    scanned.rest <:+ cs := by
  have hcons : ∀ (c : Located) {cs ds : List Located}, ds <:+ cs →
      ds <:+ c :: cs := fun c cs _ h => h.trans (List.suffix_cons c cs)
  fun_induction scanText raw top steps acc cs with
  | case1 => cases h; exact List.suffix_refl _
  | case2 => cases h; exact List.suffix_refl _
  | case3 => cases h; exact List.nil_suffix
  | case4 _ _ c _ d _ _ _ _ _ _ ih =>
    exact hcons c (hcons d ((ih h).trans (List.drop_suffix _ _)))
  | case5 _ _ c _ d _ e es _ ih => exact hcons c (hcons d (hcons e (ih h)))
  | case6 => cases h; exact List.nil_suffix
  | case7 _ _ c => exact hcons c (brace_suffix h)
  | case8 _ _ c _ d _ _ _ ih => exact hcons c (hcons d (ih h))
  | case9 => exact brace_suffix h
  | case10 _ _ c _ _ _ ih => exact hcons c (ih h)

/-- The expression of a field and what follows it make up the text. -/
theorem scanExpression_eq (steps : Nat) (s : FieldState)
    (acc cs : List Located) {r : List Located × List Located}
    (h : scanExpression steps s acc cs = some r) :
    acc.reverse ++ cs = r.1 ++ r.2 := by
  induction steps generalizing s acc cs with
  | zero => cases h
  | succ steps ih =>
    cases cs with
    | nil => cases h
    | cons c cs =>
      have hgo : ∀ s, scanExpression steps s (c :: acc) cs = some r →
          acc.reverse ++ c :: cs = r.1 ++ r.2 := by
        intro s h
        rw [← ih s _ _ h]
        simp
      have htwo : ∀ s, scanExpression steps s
          ((cs.take 2).reverse ++ c :: acc) (cs.drop 2) = some r →
          acc.reverse ++ c :: cs = r.1 ++ r.2 := by
        intro s h
        rw [← ih s _ _ h]
        simp
      unfold scanExpression at h
      dsimp only at h
      split at h
      next => cases h
      next =>
        split at h
        next =>
          split at h
          next => exact hgo _ h
          next =>
            split at h
            next => exact hgo _ h
            next =>
              split at h
              next => exact htwo _ h
              next => exact hgo _ h
        next =>
          split at h
          next =>
            split at h
            next => exact htwo _ h
            next => exact hgo _ h
          next =>
            split at h
            next =>
              split at h
              next => cases h
              next => exact hgo _ h
            next =>
              split at h
              next => cases h
              next =>
                split at h
                next =>
                  split at h
                  next d ds =>
                    split at h
                    next =>
                      rw [← ih s _ _ h]
                      simp
                    next =>
                      split at h
                      next => exact hgo _ h
                      next => cases h; rfl
                  next =>
                    split at h
                    next => exact hgo _ h
                    next => cases h; rfl
                next =>
                  split at h
                  next =>
                    split at h
                    next =>
                      split at h
                      next => exact hgo _ h
                      next => cases h
                    next => cases h
                  next => exact hgo _ h

theorem shownText_suffix (expression : List Char) (cs : List Located) :
    (shownText expression cs).2 <:+ cs := by
  unfold shownText
  split
  next => exact (List.drop_suffix _ _).trans (List.suffix_cons _ _)
  next => exact List.suffix_refl _

theorem fieldMarks_suffix {expression : List Char} {cs : List Located}
    {r : Option (List Char) × Option Char × List Located}
    (h : fieldMarks expression cs = some r) : r.2.2 <:+ cs := by
  have hshown := shownText_suffix expression cs
  unfold fieldMarks at h
  dsimp only at h
  split at h
  next c rest hcs =>
    rw [hcs] at hshown
    split at h
    next =>
      cases h
      exact (List.suffix_cons c rest).trans
        ((List.suffix_cons _ _).trans hshown)
    next => cases h
  next => cases h
  next =>
    cases h
    exact hshown

theorem closed_lies {raw : Bool} {steps level : Nat} {before : List Piece}
    (hpieces : ∀ level {cs}, Inside first last cs →
      (pieces raw steps level cs).Lies first last)
    (hbefore : ∀ p ∈ before, p.Lies first last)
    (h : Inside first last cs) :
    (pieces.closed raw steps level before cs).Lies first last := by
  unfold pieces.closed
  split
  next => exact (hpieces level (h.suffix (List.suffix_cons _ _))).after hbefore
  next => exact ⟨hbefore, h⟩

theorem field_lies {raw : Bool} {steps level : Nat} {brace : Located}
    {expression : List Located} {before : List Piece}
    (hpieces : ∀ level {cs}, Inside first last cs →
      (pieces raw steps level cs).Lies first last)
    (hbefore : ∀ p ∈ before, p.Lies first last)
    (hfirst : first ≤ brace.line)
    (hlast : brace.line + lineEnds expression ≤ last)
    (h : Inside first last cs) :
    (pieces.field raw steps level brace expression cs before).Lies
      first last := by
  have hplain : ∀ conversion, Piece.Lies first last
      (.field brace expression conversion none) :=
    fun _ => .field hfirst hlast nofun
  have hnext : ∀ {before p}, (∀ p ∈ before, Piece.Lies first last p) →
      p.Lies first last → ∀ q ∈ before ++ [p], q.Lies first last := by
    intro before p hbefore hp q hq
    rcases List.mem_append.1 hq with hq | hq
    · exact hbefore q hq
    · obtain rfl := List.mem_singleton.1 hq
      exact hp
  unfold pieces.field
  dsimp only
  split
  next => exact ⟨hnext hbefore (hplain none), h⟩
  next shown conversion cs' hmarks =>
    have hcs' : Inside first last cs' := h.suffix (fieldMarks_suffix hmarks)
    have hshown : ∀ p ∈ before ++ shown.toList.map fun cs =>
        Piece.text (Text.points cs), p.Lies first last := by
      intro p hp
      rcases List.mem_append.1 hp with hp | hp
      · exact hbefore p hp
      · obtain ⟨_, _, rfl⟩ := List.mem_map.1 hp
        exact .text _
    split
    next =>
      exact ⟨hnext hshown (hplain none),
        hcs'.suffix List.nil_suffix⟩
    next rest _ =>
      have hformat := hpieces (level + 1)
        (hcs'.suffix (List.suffix_cons _ _))
      have hfield : Piece.Lies first last (.field brace expression conversion
          (some (pieces raw steps (level + 1) rest).pieces)) := by
        refine .field hfirst hlast ?_
        rintro _ ⟨⟩
        exact hformat.pieces
      split
      next =>
        exact closed_lies hpieces (hnext hshown hfield) hformat.rest
      next =>
        exact ⟨hnext hshown hfield, hformat.rest.suffix List.nil_suffix⟩
    next => exact closed_lies hpieces (hnext hshown (hplain _)) hcs'

/-- The pieces of a text on lines of a string, and what the cut leaves of
it, stand on these lines as well. The induction is on the steps, as a field
and its format each go on with what is left. -/
theorem pieces_lies (raw : Bool) (steps level : Nat) {cs : List Located}
    (h : Inside first last cs) :
    (pieces raw steps level cs).Lies first last := by
  induction steps generalizing level cs with
  | zero =>
    unfold pieces
    exact ⟨List.forall_mem_nil _, h⟩
  | succ steps ih =>
    unfold pieces
    dsimp only
    split
    next => exact ⟨List.forall_mem_nil _, h⟩
    next scanned hscanned =>
      have hrest := h.suffix (scanText_suffix _ _ _ hscanned)
      split
      next => exact ⟨List.forall_mem_nil _, h⟩
      next text _ =>
        have hliteral : ∀ p ∈ (if text.isEmpty then [] else [Piece.text text]),
            p.Lies first last := by
          intro p hp
          split at hp
          next => cases hp
          next =>
            obtain rfl := List.mem_singleton.1 hp
            exact .text text
        split
        next => exact (ih level hrest).after hliteral
        next =>
          split
          next hnil => exact ⟨hliteral, hnil ▸ hrest⟩
          next b cs' hcons =>
            rw [hcons] at hrest
            have hcs' := hrest.suffix (List.suffix_cons _ _)
            split
            next => exact ⟨hliteral, hrest⟩
            next =>
              split
              next => exact ⟨hliteral, hcs'⟩
              next =>
                split
                next => exact ⟨hliteral, hcs'⟩
                next expression behind hexpr =>
                  have heq := scanExpression_eq _ _ _ _ hexpr
                  have hbehind := hcs'.suffix ⟨expression, heq.symm⟩
                  split
                  next => exact ⟨hliteral, hbehind⟩
                  next =>
                    obtain ⟨line, hfirst, ⟨hline, _⟩, hlast⟩ := hrest
                    have hends : lineEnds (b :: cs') =
                        lineEnds [b] + lineEnds expression
                          + lineEnds behind := by
                      rw [← lineEnds_append, ← lineEnds_append,
                        List.append_assoc, ← heq]
                      rfl
                    apply field_lies ih hliteral _ _ hbehind
                    · omega
                    · omega

/-- The fields of a formatted string stand on its lines. -/
theorem formatPieces_lies {raw : Bool} {line column : Nat} {body : List Char}
    {ps : List Piece} (h : formatPieces raw line column body = some ps) :
    ∀ p ∈ ps, p.Lies line (line + Lexer.lineEnds body) := by
  have hinside : Inside line (line + Lexer.lineEnds body)
      (locate line column body) := by
    refine ⟨line, Nat.le_refl _, counted_locate line column body, ?_⟩
    rw [lineEnds, chars_locate]
  have hcut := pieces_lies raw (2 * body.length + 2) 0 hinside
  unfold formatPieces at h
  dsimp only at h
  split at h
  next =>
    cases h
    exact hcut.pieces
  next => cases h

/-- The tokens of a field's expression stand on its lines. -/
theorem fieldTokens_ascends (brace : Located) (expression : List Located) :
    Ascends (brace.line + lineEnds expression) brace.line
      (fieldTokens brace expression) := by
  have h := tokensFrom_ascends
    { line := brace.line, column := brace.column, atLineStart := false }
    ('(' :: chars expression ++ [')'])
  have hends : Lexer.lineEnds ('(' :: chars expression ++ [')']) =
      lineEnds expression := by
    simp [lineEnds, Lexer.lineEnds]
  rw [hends] at h
  exact h

end Purity.StringLiteral
