/-
Decoding is the reverse of encoding: bytes are read as a text exactly when
they are its encoding (`decodeUtf8_eq_ok_iff`), so bytes that are refused
are the encoding of no text.

One sequence is read at a time. What is read is spelled by the rules for
its length (`exists_spells_of_read`, `read_of_spells`), and the rules give
each character its encoding (`spells_encode`) and nothing else
(`exists_encode_of_spells`).

Consumed by the proofs about configuration files.
-/
import Mathlib.Data.List.Basic
import Purity.Text.Utf8

namespace Purity.Text

variable {b : UInt8} {bytes taken rest rest' : List UInt8}
    {count code start : Nat}

/-- The bytes of a text. -/
def utf8Bytes (s : String) : List UInt8 :=
  s.toList.flatMap String.utf8EncodeChar

-- ============================================================ sequences

/-- The rules for sequences of one to four bytes, and the code points that
they stand for. -/
inductive Spells : List UInt8 → Nat → Prop
  | one {a : UInt8} {code : Nat} (ha : a.toNat < 0x80)
      (hcode : code = a.toNat) : Spells [a] code
  | two {a b : UInt8} {code : Nat} (ha : 0xC2 ≤ a.toNat ∧ a.toNat < 0xE0)
      (hb : maySecond a b = true)
      (hcode : code = a.toNat % 32 * 64 + b.toNat % 64) :
      Spells [a, b] code
  | three {a b c : UInt8} {code : Nat} (ha : 0xE0 ≤ a.toNat ∧ a.toNat < 0xF0)
      (hb : maySecond a b = true) (hc : isContinuation c = true)
      (hcode : code = (a.toNat % 16 * 64 + b.toNat % 64) * 64 + c.toNat % 64) :
      Spells [a, b, c] code
  | four {a b c d : UInt8} {code : Nat} (ha : 0xF0 ≤ a.toNat ∧ a.toNat < 0xF5)
      (hb : maySecond a b = true) (hc : isContinuation c = true)
      (hd : isContinuation d = true)
      (hcode : code
        = ((a.toNat % 8 * 64 + b.toNat % 64) * 64 + c.toNat % 64) * 64 +
          d.toNat % 64) :
      Spells [a, b, c, d] code

theorem isContinuation_iff :
    isContinuation b = true ↔ 0x80 ≤ b.toNat ∧ b.toNat < 0xC0 := by
  simp [isContinuation, UInt8.le_iff_toNat_le, UInt8.lt_iff_toNat_lt]

theorem maySecond_iff {first second : UInt8} :
    maySecond first second = true ↔
      (0x80 ≤ second.toNat ∧ second.toNat < 0xC0) ∧
      (first.toNat = 0xE0 → 0xA0 ≤ second.toNat) ∧
      (first.toNat = 0xED → second.toNat < 0xA0) ∧
      (first.toNat = 0xF0 → 0x90 ≤ second.toNat) ∧
      (first.toNat = 0xF4 → second.toNat < 0x90) := by
  simp only [maySecond, Bool.and_eq_true, Bool.or_eq_true, bne_iff_ne,
    decide_eq_true_eq, isContinuation_iff, UInt8.le_iff_toNat_le,
    UInt8.lt_iff_toNat_lt, ne_eq, ← UInt8.toNat_inj,
    UInt8.reduceToNat]
  omega

/-- How many bytes follow a first byte. -/
theorem followers_eq_some_iff :
    followers b = some count ↔
      b.toNat < 0x80 ∧ count = 0 ∨ (0xC2 ≤ b.toNat ∧ b.toNat < 0xE0) ∧
      count = 1 ∨
        (0xE0 ≤ b.toNat ∧ b.toNat < 0xF0) ∧ count = 2 ∨
        (0xF0 ≤ b.toNat ∧ b.toNat < 0xF5) ∧ count = 3 := by
  unfold followers
  simp only [UInt8.lt_iff_toNat_lt, UInt8.reduceToNat]
  split_ifs <;> simp <;> omega

/-- Does a byte fit after those that were read so far? -/
def fits (taken : List UInt8) (b : UInt8) : Bool :=
  match taken with
  | [first] => maySecond first b
  | _ => isContinuation b

/-- One more byte of a sequence was there and fits. -/
theorem exists_of_continueSequence {n : Nat} {out : Nat × List UInt8}
    (h : continueSequence start (n + 1) code taken rest = .ok out) :
    ∃ b more, rest = b :: more ∧ fits taken b = true ∧
      continueSequence start n (code * 64 + b.toNat % 64) (b :: taken) more =
        .ok out := by
  cases rest with
  | nil => cases h
  | cons b more =>
      change (if fits taken b = true then _ else _) = Except.ok out at h
      split at h
      next hfits => exact ⟨b, more, rfl, hfits, h⟩
      next => cases h

/-- What is read is spelled by the rules. -/
theorem exists_spells_of_read (hfollowers : followers b = some count)
    (h : continueSequence start count (leadBits b count) [b] rest =
      .ok (code, rest')) :
    ∃ sequence, b :: rest = sequence ++ rest' ∧ Spells sequence code ∧
      sequence.length = count + 1 := by
  obtain ⟨hb, rfl⟩ | ⟨hb, rfl⟩ | ⟨hb, rfl⟩ | ⟨hb, rfl⟩ :=
    followers_eq_some_iff.1 hfollowers
  · cases h
    exact ⟨[b], rfl, .one hb rfl, rfl⟩
  · obtain ⟨c, more, rfl, hc, h⟩ := exists_of_continueSequence h
    cases h
    exact ⟨[b, c], rfl, .two hb hc rfl, rfl⟩
  · obtain ⟨c, more, rfl, hc, h⟩ := exists_of_continueSequence h
    obtain ⟨d, more, rfl, hd, h⟩ := exists_of_continueSequence h
    cases h
    exact ⟨[b, c, d], rfl, .three hb hc hd rfl, rfl⟩
  · obtain ⟨c, more, rfl, hc, h⟩ := exists_of_continueSequence h
    obtain ⟨d, more, rfl, hd, h⟩ := exists_of_continueSequence h
    obtain ⟨e, more, rfl, he, h⟩ := exists_of_continueSequence h
    cases h
    exact ⟨[b, c, d, e], rfl, .four hb hc hd he rfl, rfl⟩

/-- What is spelled by the rules is read. -/
theorem read_of_spells (h : Spells bytes code) (start : Nat)
    (rest : List UInt8) :
    ∃ b more count, bytes = b :: more ∧ followers b = some count ∧
      continueSequence start count (leadBits b count)
    [b] (more ++ rest) = .ok (code, rest) := by
  cases h with
  | one ha hcode =>
      subst hcode
      exact ⟨_, [], 0, rfl, followers_eq_some_iff.2 (.inl ⟨ha, rfl⟩), rfl⟩
  | two ha hb hcode =>
      refine ⟨_, _, 1, rfl,
        followers_eq_some_iff.2 (.inr (.inl ⟨ha, rfl⟩)), ?_⟩
      simp [continueSequence, leadBits, hb, hcode]
  | three ha hb hc hcode =>
      refine ⟨_, _, 2, rfl,
        followers_eq_some_iff.2 (.inr (.inr (.inl ⟨ha, rfl⟩))), ?_⟩
      simp [continueSequence, leadBits, hb, hc, hcode]
  | four ha hb hc hd hcode =>
      refine ⟨_, _, 3, rfl,
        followers_eq_some_iff.2 (.inr (.inr (.inr ⟨ha, rfl⟩))), ?_⟩
      simp [continueSequence, leadBits, hb, hc, hd, hcode]

-- =========================================================== characters

/-- The code point of a character is no surrogate and not too large. -/
theorem toNat_valid (c : Char) :
    c.toNat < 0xD800 ∨ 0xDFFF < c.toNat ∧ c.toNat < 0x110000 :=
  c.valid

/-- There is a character for every such number. -/
theorem exists_char {n : Nat} (h : n < 0xD800 ∨ 0xDFFF < n ∧ n < 0x110000) :
    ∃ c : Char, c.toNat = n :=
  ⟨⟨UInt32.ofNatLT n (by rw [UInt32.size]; omega), h⟩, rfl⟩

/-- The encoding of a code point. -/
def encodeCode (v : Nat) : List UInt8 :=
  if v ≤ 0x7f then [.ofNat v]
  else if v ≤ 0x7ff then
    [.ofNat (v / 64 % 0x20 + 0xc0), .ofNat (v % 0x40 + 0x80)]
  else if v ≤ 0xffff then
    [.ofNat (v / 4096 % 0x10 + 0xe0), .ofNat (v / 64 % 0x40 + 0x80),
      .ofNat (v % 0x40 + 0x80)]
  else
    [.ofNat (v / 262144 % 0x08 + 0xf0), .ofNat (v / 4096 % 0x40 + 0x80),
      .ofNat (v / 64 % 0x40 + 0x80), .ofNat (v % 0x40 + 0x80)]

theorem utf8EncodeChar_eq (c : Char) :
    String.utf8EncodeChar c = encodeCode c.toNat := rfl

theorem spells_encode (c : Char) :
    Spells (String.utf8EncodeChar c) c.toNat := by
  have hvalid := toNat_valid c
  rw [utf8EncodeChar_eq, encodeCode]
  split_ifs
  · apply Spells.one
    all_goals simp only [UInt8.toNat_ofNat', Nat.reducePow]
    all_goals omega
  · apply Spells.two
    all_goals simp only [maySecond_iff, UInt8.toNat_ofNat', Nat.reducePow]
    all_goals omega
  · apply Spells.three
    all_goals simp only [maySecond_iff, isContinuation_iff, UInt8.toNat_ofNat',
      Nat.reducePow]
    all_goals omega
  · apply Spells.four
    all_goals simp only [maySecond_iff, isContinuation_iff, UInt8.toNat_ofNat',
      Nat.reducePow]
    all_goals omega

theorem exists_encode_of_spells (h : Spells bytes code) :
    ∃ c : Char, c.toNat = code ∧ String.utf8EncodeChar c = bytes := by
  have hvalid : code < 0xD800 ∨ 0xDFFF < code ∧ code < 0x110000 := by
    cases h with
    | one ha hcode => omega
    | two ha hb hcode => omega
    | three ha hb hc hcode =>
        rw [maySecond_iff] at hb
        omega
    | four ha hb hc hd hcode =>
        rw [maySecond_iff] at hb
        omega
  obtain ⟨c, rfl⟩ := exists_char hvalid
  refine ⟨c, rfl, ?_⟩
  rw [utf8EncodeChar_eq]
  generalize c.toNat = code at h
  cases h with
  | one ha hcode =>
      rw [encodeCode, if_pos (by omega)]
      simp [hcode]
  | two ha hb hcode =>
      rw [maySecond_iff] at hb
      rw [encodeCode, if_neg (by omega), if_pos (by omega)]
      simp only [List.cons.injEq, ← UInt8.toNat_inj, UInt8.toNat_ofNat',
        Nat.reducePow, and_true]
      omega
  | three ha hb hc hcode =>
      rw [maySecond_iff] at hb
      rw [isContinuation_iff] at hc
      rw [encodeCode, if_neg (by omega), if_neg (by omega), if_pos (by omega)]
      simp only [List.cons.injEq, ← UInt8.toNat_inj, UInt8.toNat_ofNat',
        Nat.reducePow, and_true]
      omega
  | four ha hb hc hd hcode =>
      rw [maySecond_iff] at hb
      rw [isContinuation_iff] at hc hd
      rw [encodeCode, if_neg (by omega), if_neg (by omega), if_neg (by omega)]
      simp only [List.cons.injEq, ← UInt8.toNat_inj, UInt8.toNat_ofNat',
        Nat.reducePow, and_true]
      omega

-- ================================================================ texts

theorem length_encode_pos (c : Char) : 0 < (String.utf8EncodeChar c).length :=
  List.length_pos_iff.2 String.utf8EncodeChar_ne_nil

/-- Encoded characters are read back, one step for each. -/
theorem decodeFrom_encode (cs made : List Char) {steps start : Nat}
    (hsteps : (cs.flatMap String.utf8EncodeChar).length ≤ steps) :
    decodeFrom steps start (cs.flatMap String.utf8EncodeChar) made =
      .ok (made.reverse ++ cs) := by
  induction cs generalizing steps start made with
  | nil =>
      rw [List.append_nil]
      cases steps with
      | zero => rfl
      | succ steps => rfl
  | cons c cs ih =>
      rw [List.flatMap_cons] at hsteps ⊢
      have hpos := length_encode_pos c
      rw [List.length_append] at hsteps
      obtain ⟨k, rfl⟩ : ∃ k, steps = k + 1 := ⟨steps - 1, by omega⟩
      obtain ⟨b, more, count, hbytes, hfollowers, hread⟩ :=
        read_of_spells (spells_encode c) start
          (cs.flatMap String.utf8EncodeChar)
      rw [hbytes, List.cons_append, decodeFrom, hfollowers]
      simp only [hread]
      rw [ih _ (by omega), Char.ofNat_toNat, List.reverse_cons,
        List.append_assoc]
      rfl

/-- What is read is the encoding of what it is read as. -/
theorem exists_of_decodeFrom {steps : Nat} {made out : List Char}
    (hsteps : bytes.length ≤ steps)
    (h : decodeFrom steps start bytes made = .ok out) :
    ∃ cs, out = made.reverse ++ cs ∧
    bytes = cs.flatMap String.utf8EncodeChar := by
  induction steps generalizing start bytes made with
  | zero =>
      obtain rfl := List.length_eq_zero_iff.1 (Nat.le_zero.1 hsteps)
      cases h
      exact ⟨[], (List.append_nil _).symm, rfl⟩
  | succ steps ih =>
      cases bytes with
      | nil =>
          cases h
          exact ⟨[], (List.append_nil _).symm, rfl⟩
      | cons b rest =>
          rw [decodeFrom] at h
          split at h
          next => cases h
          next count hfollowers =>
            split at h
            next => cases h
            next code rest' hread =>
              obtain ⟨sequence, hbytes, hspells, hlength⟩ :=
                exists_spells_of_read hfollowers hread
              obtain ⟨c, rfl, rfl⟩ := exists_encode_of_spells hspells
              have hrest : rest'.length ≤ steps := by
                have hsum := congrArg List.length hbytes
                rw [List.length_cons, List.length_append] at hsum
                rw [List.length_cons] at hsteps
                omega
              obtain ⟨cs, rfl, rfl⟩ := ih hrest h
              rw [Char.ofNat_toNat]
              exact ⟨c :: cs, by simp, by rw [hbytes, List.flatMap_cons]⟩

/-- Bytes are read as a text exactly when they are its encoding. -/
theorem decodeUtf8_eq_ok_iff {s : String} :
    decodeUtf8 bytes = .ok s ↔ bytes = utf8Bytes s := by
  unfold decodeUtf8
  constructor
  · intro h
    cases hout : decodeFrom bytes.length 0 bytes [] with
    | error fault =>
        rw [hout] at h
        cases h
    | ok out =>
        rw [hout] at h
        cases h
        obtain ⟨cs, rfl, hbytes⟩ := exists_of_decodeFrom (Nat.le_refl _) hout
        rw [utf8Bytes, String.toList_ofList]
        exact hbytes
  · rintro rfl
    rw [utf8Bytes, decodeFrom_encode _ _ (Nat.le_refl _)]
    exact congrArg Except.ok String.ofList_toList

/-- A text is known by its bytes. -/
theorem utf8Bytes_inj {s s' : String} (h : utf8Bytes s = utf8Bytes s') :
    s = s' :=
  Except.ok.inj ((decodeUtf8_eq_ok_iff.2 rfl).symm.trans
    (decodeUtf8_eq_ok_iff.2 h))

end Purity.Text
