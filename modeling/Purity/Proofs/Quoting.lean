/-
Quoted text tells what was quoted. The quoted form of a text is a string
literal, and the reader of literals gives the text back together with
whatever stands behind the literal (`readQuoted_quotedPoints`), so the
closing quote is never in doubt.

A code point is written as itself, as a letter behind a backslash, or as
its number behind a backslash and a mark (`Written`). Each of these forms
passes the search for the closing quote (`Written.stringBody_append`) and
is resolved to the code point (`Written.resolve_append`); the rest is
induction on the text. For a list, the comma or bracket behind each text
says whether another one follows (`quotedTexts_inj`), and for a message,
the complaint of the rule says where the list starts.
-/
import Mathlib.Algebra.Ring.Nat
import Purity.Rule
import Purity.Syntax.StringLiteral

namespace Purity.Text

-- ============================================================== numbers

theorem hexDigit_spec : ∀ n < 16, Lexer.isHexDigit (hexDigit n) = true ∧
    hexDigit n ≠ '_' ∧ Lexer.digitValue (hexDigit n) = n := by
  decide

@[simp] theorem length_hexDigits (width n : Nat) :
    (hexDigits width n).length = width := by
  induction width generalizing n with
  | zero => rfl
  | succ width ih => simp [hexDigits, ih]

theorem isHexDigit_of_mem_hexDigits {width n : Nat} {c : Char}
    (hc : c ∈ hexDigits width n) :
    Lexer.isHexDigit c = true := by
  induction width generalizing n with
  | zero => cases hc
  | succ width ih =>
      rcases List.mem_append.1 hc with hc | hc
      · exact ih hc
      · rw [List.mem_singleton.1 hc]
        exact (hexDigit_spec _ (Nat.mod_lt _ (by decide))).1

theorem digitsValue_hexDigits (width n : Nat) :
    Lexer.digitsValue 16 (hexDigits width n) = n % 16 ^ width := by
  induction width generalizing n with
  | zero => simp [hexDigits, Lexer.digitsValue, Nat.mod_one]
  | succ width ih =>
      obtain ⟨-, hplain, hvalue⟩ :=
        hexDigit_spec (n % 16) (Nat.mod_lt _ (by decide))
      have hhigher := ih (n / 16)
      unfold Lexer.digitsValue at hhigher ⊢
      rw [hexDigits, List.foldl_append, hhigher, List.foldl_cons,
        List.foldl_nil, if_neg hplain, hvalue, Nat.pow_succ', Nat.mod_mul]
      omega

/-- A number that the digits have room for is read back. -/
theorem hexNumber_hexDigits {width n : Nat} (h : n < 16 ^ width)
    (rest : List Char) :
    StringLiteral.hexNumber width (hexDigits width n ++ rest) = some n := by
  have htake : (hexDigits width n ++ rest).take width = hexDigits width n := by
    rw [List.take_append_of_le_length (by simp),
      List.take_of_length_le (by simp)]
  have hall : (hexDigits width n).all Lexer.isHexDigit = true :=
    List.all_eq_true.2 fun c => isHexDigit_of_mem_hexDigits
  unfold StringLiteral.hexNumber
  simp only [htake, hall, length_hexDigits]
  rw [digitsValue_hexDigits, Nat.mod_eq_of_lt h]
  simp

-- =========================================================== one escape

/-- The marks of escapes by number, with the number of digits. -/
def escapeMarks : List (Char × Nat) := [('x', 2), ('u', 4), ('U', 8)]

/-- The ways to write a code point between quotes. -/
inductive Written (quote : Char) : CodePoint → List Char → Prop where
  /-- As itself. -/
  | plain {c : Char} : c ≠ quote → c ≠ '\\' → c ≠ '\n' →
      Written quote (.char c) [c]
  /-- By a letter that stands for it. -/
  | letter {c e : Char} : StringLiteral.simpleEscape e = some c →
      Written quote (.char c) ['\\', e]
  /-- By its number. -/
  | number {p : CodePoint} {mark : Char} {width : Nat} : (mark, width) ∈
      escapeMarks →
      p.code < 16 ^ width →
      Written quote p ('\\' :: mark :: hexDigits width p.code)

variable {quote : Char} {p : CodePoint} {written : List Char}

theorem Written.ne_nil (h : Written quote p written) : written ≠ [] := by
  cases h <;> simp

theorem written_codeEscape (p : CodePoint) :
    Written quote p (codeEscape p.code) := by
  unfold codeEscape
  split
  next hcode => exact .number (by decide) hcode
  next =>
    split
    next hcode => exact .number (by decide) hcode
    next => exact .number (by decide) (Nat.lt_trans p.code_lt (by decide))

/-- Escapes are written forms. -/
theorem written_escape (hquote : quote = '\'' ∨ quote = '"') (p : CodePoint) :
    Written quote p (p.escape quote) := by
  cases p with
  | half code isHalf => exact written_codeEscape (.half code isHalf)
  | char c =>
      show Written quote (.char c) (escapeChar quote c)
      unfold escapeChar
      split
      next hc =>
        refine .letter ?_
        rcases hc with rfl | rfl
        · rcases hquote with rfl | rfl <;> rfl
        · rfl
      next hc =>
        rw [not_or] at hc
        split
        next hc => exact hc ▸ .letter rfl
        next hline =>
          split
          next hc => exact hc ▸ .letter rfl
          next =>
            split
            next hc => exact hc ▸ .letter rfl
            next =>
              split
              next => exact .plain hc.1 hc.2 hline
              next => exact written_codeEscape (.char c)

/-- The closing quote. -/
theorem stringBody_quote (acc rest : List Char) :
    Lexer.stringBody quote false acc (quote :: rest) =
      some (acc.reverse, rest) := by
  rw [Lexer.stringBody.eq_def]
  simp

/-- A backslash keeps the next character from closing. -/
theorem stringBody_backslash (hback : '\\' ≠ quote) (e : Char)
    (acc rest : List Char) :
    Lexer.stringBody quote false acc ('\\' :: e :: rest)
      = Lexer.stringBody quote false (e :: '\\' :: acc) rest := by
  rw [Lexer.stringBody.eq_def]
  simp [hback]

/-- Plain characters do not close either. -/
theorem stringBody_plain {cs : List Char}
    (h : ∀ c ∈ cs, c ≠ quote ∧ c ≠ '\\' ∧ c ≠ '\n') (acc rest : List Char) :
    Lexer.stringBody quote false acc (cs ++ rest)
      = Lexer.stringBody quote false (cs.reverse ++ acc) rest := by
  induction cs generalizing acc with
  | nil => rfl
  | cons c cs ih =>
      obtain ⟨⟨hquote, hback, hline⟩, hrest⟩ := List.forall_mem_cons.1 h
      have hstep : Lexer.stringBody quote false acc (c :: (cs ++ rest))
          = Lexer.stringBody quote false (c :: acc) (cs ++ rest) := by
        rw [Lexer.stringBody.eq_def]
        simp [hquote, hback, hline]
      rw [List.cons_append, hstep, ih hrest, List.reverse_cons,
        List.append_assoc, List.singleton_append]

/-- The search for the closing quote passes a written form. -/
theorem Written.stringBody_append (hquote : quote = '\'' ∨ quote = '"')
    (h : Written quote p written) (acc rest : List Char) :
    Lexer.stringBody quote false acc (written ++ rest)
      = Lexer.stringBody quote false (written.reverse ++ acc) rest := by
  have hback : '\\' ≠ quote := by
    rcases hquote with rfl | rfl <;> decide
  cases h with
  | plain hne hslash hline =>
      exact stringBody_plain (by simp [hne, hslash, hline]) acc rest
  | letter => exact stringBody_backslash hback _ acc rest
  | @number _ mark width =>
      have hdigits : ∀ c ∈ hexDigits width p.code, c ≠ quote ∧ c ≠ '\\' ∧
          c ≠ '\n' := by
        intro c hc
        have hhex := isHexDigit_of_mem_hexDigits hc
        refine ⟨?_, ?_, ?_⟩
        · rintro rfl
          rcases hquote with rfl | rfl <;> cases hhex
        · rintro rfl
          cases hhex
        · rintro rfl
          cases hhex
      rw [List.cons_append, List.cons_append, stringBody_backslash hback,
        stringBody_plain hdigits]
      simp

/-- An escape that stands for one code point takes one step. -/
theorem resolve_backslash {e : Char} {cs : List Char} {taken : Nat}
    (h : StringLiteral.escape false (e :: cs) = some ([p], taken))
    (steps : Nat) :
    StringLiteral.resolve false (steps + 1) ('\\' :: e :: cs)
      = (StringLiteral.resolve false steps ((e :: cs).drop taken)).map
          (p :: ·) := by
  rw [StringLiteral.resolve.eq_def]
  simp only [h, Option.bind_eq_bind, Option.bind_some]
  cases StringLiteral.resolve false steps ((e :: cs).drop taken) <;> rfl

/-- A written form is resolved in one step. -/
theorem Written.resolve_append (h : Written quote p written) (steps : Nat)
    (rest : List Char) :
    StringLiteral.resolve false (steps + 1) (written ++ rest)
      = (StringLiteral.resolve false steps rest).map (p :: ·) := by
  cases h with
  | @plain c hne hslash hline =>
      have hstep : StringLiteral.resolve false (steps + 1) (c :: rest)
          = (StringLiteral.resolve false steps rest).bind fun text =>
            some (.char c :: text) := by
        rw [StringLiteral.resolve.eq_def]
        simp [hslash]
      rw [List.singleton_append, hstep]
      cases StringLiteral.resolve false steps rest <;> rfl
  | @letter c e hletter =>
      have hline : e ≠ '\n' := by
        rintro rfl
        cases hletter
      have hescape :
          StringLiteral.escape false (e :: rest) = some ([.char c], 1) := by
        rw [StringLiteral.escape.eq_def]
        simp [hletter]
      exact resolve_backslash hescape steps
  | @number _ mark width hmark hcode =>
      have hnumber := hexNumber_hexDigits hcode rest
      have hescape :
          StringLiteral.escape false (mark :: (hexDigits width p.code ++ rest))
          = some ([p], width + 1) := by
        simp only [escapeMarks, List.mem_cons, Prod.mk.injEq, List.not_mem_nil,
          or_false] at hmark
        rcases hmark with ⟨rfl, rfl⟩ | ⟨rfl, rfl⟩ | ⟨rfl, rfl⟩
        · have hchar : CodePoint.char (Char.ofNat p.code) = p := by
            cases p with
            | char c => exact congrArg CodePoint.char (Char.ofNat_toNat c)
            | half code isHalf =>
                have hsmall : code < 0x100 := hcode
                omega
          rw [StringLiteral.escape.eq_def]
          simp [StringLiteral.simpleEscape, Lexer.isOctalDigit, hnumber, hchar]
        · rw [StringLiteral.escape.eq_def]
          simp [StringLiteral.simpleEscape, Lexer.isOctalDigit, hnumber,
            p.ofNat?_code]
        · rw [StringLiteral.escape.eq_def]
          simp [StringLiteral.simpleEscape, Lexer.isOctalDigit, hnumber,
            p.ofNat?_code]
      rw [List.cons_append, List.cons_append, resolve_backslash hescape,
        List.drop_succ_cons, List.drop_append_of_le_length (by simp),
        List.drop_of_length_le (by simp), List.nil_append]

-- ============================================================ one text

theorem quoteFor_cases (text : List Char) :
    quoteFor text = '\'' ∨ quoteFor text = '"' := by
  unfold quoteFor
  split
  next => exact .inr rfl
  next => exact .inl rfl

theorem stringBody_flatMap_escape (hquote : quote = '\'' ∨ quote = '"')
    (text : List CodePoint) (acc rest : List Char) :
    Lexer.stringBody quote false acc (text.flatMap (CodePoint.escape quote) ++
      quote :: rest)
      = some (acc.reverse ++ text.flatMap (CodePoint.escape quote), rest) := by
  induction text generalizing acc with
  | nil =>
      rw [List.flatMap_nil, List.nil_append, stringBody_quote, List.append_nil]
  | cons p text ih =>
      rw [List.flatMap_cons, List.append_assoc,
        (written_escape hquote p).stringBody_append hquote, ih]
      simp

theorem resolve_flatMap_escape (hquote : quote = '\'' ∨ quote = '"')
    {text : List CodePoint} {steps : Nat} (hsteps : text.length ≤ steps) :
    StringLiteral.resolve false steps (text.flatMap (CodePoint.escape quote)) =
      some text := by
  induction text generalizing steps with
  | nil => cases steps <;> rfl
  | cons p text ih =>
      cases steps with
      | zero => cases hsteps
      | succ steps =>
          rw [List.flatMap_cons, (written_escape hquote p).resolve_append,
            ih (Nat.le_of_succ_le_succ hsteps)]
          rfl

theorem length_le_flatMap_escape (hquote : quote = '\'' ∨ quote = '"')
    (text : List CodePoint) :
    text.length ≤ (text.flatMap (CodePoint.escape quote)).length := by
  induction text with
  | nil => exact Nat.le_refl 0
  | cons p text ih =>
      have hpos := List.length_pos_iff.2 (written_escape hquote p).ne_nil
      rw [List.flatMap_cons, List.length_append, List.length_cons]
      omega

/-- The text of the literal that a text starts with, and what stands behind
the literal. -/
def readQuoted : List Char → Option (List CodePoint × List Char)
  | [] => none
  | quote :: cs => do
      let (body, rest) ← Lexer.stringBody quote false [] cs
      return (← StringLiteral.textOf false body, rest)

/-- A quoted text is read back, whatever stands behind it. -/
theorem readQuoted_quotedPoints (text : List CodePoint) (rest : List Char) :
    readQuoted (quotedPoints text ++ rest) = some (text, rest) := by
  have hquote := quoteFor_cases (text.map CodePoint.shown)
  unfold quotedPoints
  simp only
  generalize quoteFor (text.map CodePoint.shown) = quote at hquote ⊢
  have hbody := stringBody_flatMap_escape hquote text [] rest
  have htext : StringLiteral.textOf false
      (text.flatMap (CodePoint.escape quote)) = some text :=
    resolve_flatMap_escape hquote
      (Nat.le_succ_of_le (length_le_flatMap_escape hquote text))
  rw [List.cons_append, List.cons_append, List.append_assoc,
    List.singleton_append, readQuoted, hbody]
  simp [htext]

theorem quotedPoints_append_inj {text text' : List CodePoint}
    {rest rest' : List Char}
    (h : quotedPoints text ++ rest = quotedPoints text' ++ rest') :
    text = text' ∧ rest = rest' := by
  have hread := congrArg readQuoted h
  rw [readQuoted_quotedPoints, readQuoted_quotedPoints] at hread
  exact Prod.mk.inj (Option.some.inj hread)

-- ============================================================== a list

/-- What stands behind a text of a list: the other texts, each behind a
comma, and the bracket. -/
def behindText : List (List CodePoint) → List Char
  | [] => [']']
  | text :: texts => ',' :: ' ' :: (quotedPoints text ++ behindText texts)

theorem quotedTexts_cons (text : List CodePoint)
    (texts : List (List CodePoint)) :
    quotedTexts (text :: texts) =
      '[' :: (quotedPoints text ++ behindText texts) := by
  unfold quotedTexts
  rw [List.cons_append]
  congr 1
  induction texts generalizing text with
  | nil => simp [behindText]
  | cons text' texts ih =>
      rw [List.map_cons, List.map_cons, List.intercalate_cons_cons,
        List.append_assoc, List.append_assoc, ← List.map_cons, ih text']
      rfl

/-- The comma or the bracket behind a text tells whether another one
follows. -/
theorem behindText_inj {texts texts' : List (List CodePoint)}
    (h : behindText texts = behindText texts') : texts = texts' := by
  induction texts generalizing texts' with
  | nil =>
      cases texts' with
      | nil => rfl
      | cons text' texts' => cases h
  | cons text texts ih =>
      cases texts' with
      | nil => cases h
      | cons text' texts' =>
          have hbehind := (List.cons.inj (List.cons.inj h).2).2
          obtain ⟨rfl, hrest⟩ := quotedPoints_append_inj hbehind
          rw [ih hrest]

/-- A list that is closed at once holds no text. -/
theorem quotedTexts_nil_ne (text : List CodePoint)
    (texts : List (List CodePoint)) :
    quotedTexts [] ≠ quotedTexts (text :: texts) := by
  intro hsame
  rw [quotedTexts_cons] at hsame
  have hfirst : ']' = quoteFor (text.map CodePoint.shown) :=
    (List.cons.inj (List.cons.inj hsame).2).1
  have hquote := quoteFor_cases (text.map CodePoint.shown)
  rw [← hfirst] at hquote
  exact absurd hquote (by decide)

theorem quotedTexts_inj {texts texts' : List (List CodePoint)}
    (h : quotedTexts texts = quotedTexts texts') : texts = texts' := by
  cases texts with
  | nil =>
      cases texts' with
      | nil => rfl
      | cons text' texts' => exact absurd h (quotedTexts_nil_ne text' texts')
  | cons text texts =>
      cases texts' with
      | nil => exact absurd h.symm (quotedTexts_nil_ne text texts)
      | cons text' texts' =>
          rw [quotedTexts_cons, quotedTexts_cons] at h
          obtain ⟨rfl, hbehind⟩ := quotedPoints_append_inj (List.cons.inj h).2
          rw [behindText_inj hbehind]

-- =========================================================== raw texts

theorem quotedList_inj {xs ys : List RawText}
    (h : quotedList xs = quotedList ys) : xs = ys := by
  have hpoints : ∀ s t : RawText, s.points = t.points → s = t := by
    rintro ⟨s⟩ ⟨t⟩ hsame
    exact congrArg RawText.mk hsame
  exact (List.map_inj_right hpoints).1
    (quotedTexts_inj (String.ofList_injective h))

end Purity.Text

namespace Purity.Rule

/-- Complaints are told apart by their first characters. -/
theorem eq_of_take_complaint {rule rule' : Rule}
    (h : rule.complaint.toList.take 21 = rule'.complaint.toList.take 21) :
    rule = rule' := by
  revert h
  cases rule <;> cases rule' <;> decide

theorem length_complaint (rule : Rule) :
    21 ≤ rule.complaint.toList.length := by
  cases rule <;> decide

/-- Messages about one module tell the rule and the items. -/
theorem message_inj {rule rule' : Rule} {module : String}
    {xs ys : List RawText}
    (h : rule.message module xs = rule'.message module ys) :
    rule = rule' ∧ xs = ys := by
  have hchars := congrArg String.toList h
  simp only [message, String.toList_append, List.append_assoc,
    List.append_cancel_left_eq] at hchars
  have hrule : rule = rule' := by
    have hstart := congrArg (List.take 21) hchars
    rw [List.take_append_of_le_length rule.length_complaint,
      List.take_append_of_le_length rule'.length_complaint] at hstart
    exact eq_of_take_complaint hstart
  subst hrule
  refine ⟨rfl, Text.quotedList_inj (String.toList_injective ?_)⟩
  exact List.append_cancel_left hchars

/-- Messages are unambiguous. Two lists of texts that are written in the
same way are the same, whatever code points they hold, halves of surrogate
pairs included. So of the messages about a module no two are the same but
those of one rule with the same items. Plain strings are told apart just
as well. -/
theorem messages_unambiguous (module : String) (rule rule' : Rule)
    (xs ys : List RawText) (plain plain' : List String)
    (texts texts' : List (List Text.CodePoint)) :
    (Text.quotedTexts texts = Text.quotedTexts texts' ↔ texts = texts') ∧
    (Text.quotedList xs = Text.quotedList ys ↔ xs = ys) ∧
    (rule.message module xs = rule'.message module ys ↔
      rule = rule' ∧ xs = ys) ∧
    (Text.quotedList (plain.map RawText.ofString) =
      Text.quotedList (plain'.map RawText.ofString) ↔
      plain = plain') ∧
    (rule.message module (plain.map RawText.ofString)
        = rule'.message module (plain'.map RawText.ofString) ↔
      rule = rule' ∧ plain = plain') := by
  have hmessage : ∀ items items' : List RawText,
      rule.message module items = rule'.message module items' ↔
      rule = rule' ∧ items = items' := by
    intro items items'
    refine ⟨message_inj, ?_⟩
    rintro ⟨rfl, rfl⟩
    rfl
  have hlist : ∀ items items' : List RawText,
      Text.quotedList items = Text.quotedList items' ↔ items = items' :=
    fun _ _ => ⟨Text.quotedList_inj, congrArg _⟩
  have hplain : plain.map RawText.ofString = plain'.map RawText.ofString ↔
      plain = plain' :=
    List.map_inj_right fun _ _ => RawText.ofString_inj.1
  refine ⟨⟨Text.quotedTexts_inj, congrArg _⟩, hlist xs ys, hmessage xs ys,
    ?_, ?_⟩
  · rw [hlist, hplain]
  · rw [hmessage, hplain]

end Purity.Rule
