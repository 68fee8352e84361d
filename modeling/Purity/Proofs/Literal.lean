/-
Literals, said without the way they are read. An expression is a literal
when everything that stands in its displays, at any depth, is a display
itself or a plain value; mappings give a key with each value, and items of
sets and keys of mappings reach no list, set or mapping through tuples
(`Expr.IsLiteral`).

Reading goes from left to right and stops at the first fault, so three
ends are possible, and each says something about the whole expression
(`Tells`): the value of a literal, a sum that is out of range somewhere,
or no literal. One lemma carries this through a sequence of steps
(`Tells.bind`), and the displays follow from their parts (`tells_literal`).

The wish of a marker is the truth value of the first literal of its name.
What is not a literal counts as no wish, but it is written into the log,
and an expression that cannot be written ends the walk.
-/
import Purity.Collector
import Purity.Proofs.Place

namespace Purity

namespace Expr

variable {e x : Expr}

-- ============================================================= displays

/-- Is an expression a display, which gives its parts one by one? -/
def isDisplay : Expr → Bool
  | .tuple .. | .list .. | .set .. | .dict .. => true
  | _ => false

/-- The parts of a display: its items, or its keys and values. -/
def parts : Expr → List Expr
  | .tuple _ items | .list _ items | .set _ items => items
  | .dict _ entries => entries.filterMap Prod.fst ++ entries.map Prod.snd
  | _ => []

/-- The parts that tell the others apart: items of a set, keys of a mapping. -/
def keys : Expr → List Expr
  | .set _ items => items
  | .dict _ entries => entries.filterMap Prod.fst
  | _ => []

/-- An expression holds itself, and what the parts of a display hold. -/
inductive Holds : Expr → Expr → Prop
  | self (e : Expr) : Holds e e
  | part {d e x : Expr} (hpart : e ∈ d.parts) (hx : Holds e x) : Holds d x

theorem holds_iff : e.Holds x ↔ x = e ∨ ∃ y ∈ e.parts, y.Holds x := by
  constructor
  · intro h
    cases h with
    | self => exact .inl rfl
    | part hpart hx => exact .inr ⟨_, hpart, hx⟩
  · rintro (rfl | ⟨y, hy, hx⟩)
    · exact .self x
    · exact .part hy hx

theorem sizeOf_lt_of_mem_parts (h : x ∈ e.parts) : sizeOf x < sizeOf e := by
  have hchild : Node.expr x ∈ e.children := by
    cases e <;> simp_all [parts, children]
  have hsize := sizeOf_lt_of_mem_children hchild
  rw [Node.expr.sizeOf_spec] at hsize
  omega

/-- What holds of an expression as soon as it holds of its parts, holds of
every expression. -/
theorem partsInduction {motive : Expr → Prop}
    (step : ∀ e, (∀ x ∈ e.parts, motive x) → motive e) (e : Expr) : motive e :=
  step e fun x _ => partsInduction step x
termination_by sizeOf e
decreasing_by exact sizeOf_lt_of_mem_parts ‹_›

-- ============================================================= literals

/-- A value that is written without a display: a constant, a number with a
sign, a real number with an imaginary one, or the empty set. -/
inductive IsPlain : Expr → Prop
  | constant (span : Span) (value : Constant) : IsPlain (.constant span value)
  | signed {span span' : Span} {op : UnaryOp} {value : Constant}
      (hop : op = .plus ∨ op = .minus) (hnumber : value.isNumber = true) :
      IsPlain (.unary span op (.constant span' value))
  | complex {span span' : Span} {left : Expr} {op : BinaryOp}
      {real : Constant} {imaginary : Binary64} (hop : op = .add ∨ op = .sub)
      (hleft : left.signedNumber? = some real) (hreal : real.isReal = true) :
      IsPlain (.binary span left op (.constant span' (.imaginary imaginary)))
  | emptySet (span span' : Span) :
      IsPlain (.call span (.name span' "set") [] [])

/-- Is the value of an expression a list, a set or a mapping? These can
change, so none of them can be an item of a set or a key. -/
def isMutable : Expr → Bool
  | .list .. | .set .. | .dict .. => true
  | .call _ (.name _ "set") [] [] => true
  | _ => false

/-- An expression reaches itself, and what the items of a tuple reach. -/
inductive Reaches : Expr → Expr → Prop
  | self (e : Expr) : Reaches e e
  | item {span : Span} {items : List Expr} {e x : Expr} (hitem : e ∈ items)
      (hx : Reaches e x) : Reaches (.tuple span items) x

/-- No list, set or mapping is reached through tuples. -/
def Hashable (e : Expr) : Prop := ∀ x, e.Reaches x → x.isMutable = false

/-- What is asked of everything in a literal. -/
structure Fits (x : Expr) : Prop where
  kind : x.isDisplay = true ∨ x.IsPlain
  keyed : ∀ span entries, x = .dict span entries →
    ∀ entry ∈ entries, entry.1.isSome = true
  hashed : ∀ y ∈ x.keys, y.Hashable

/-- A literal: everything in it fits, at any depth. -/
def IsLiteral (e : Expr) : Prop := ∀ x, e.Holds x → x.Fits

/-- Is the value of a literal true? Displays are when they have a part. -/
def isTruthy : Expr → Bool
  | .constant _ value => value.isTruthy
  | .unary _ _ operand => operand.isTruthy
  | .binary _ left _ right => left.isTruthy || right.isTruthy
  | .tuple _ items | .list _ items | .set _ items => !items.isEmpty
  | .dict _ entries => !entries.isEmpty
  | _ => false

/-- A real number with an imaginary one, where the real one is beyond the
floating-point format. -/
def IsHugeSum (x : Expr) : Prop :=
  ∃ span left op span' real imaginary,
    x = .binary span left op (.constant span' (.imaginary imaginary)) ∧
    (op = .add ∨ op = .sub) ∧
      left.signedNumber? = some real ∧ real.isReal = true ∧
      real.isBeyondFloats = true

/-- Does an expression hold a sum that is out of range? -/
def Overflows (e : Expr) : Prop := ∃ x, e.Holds x ∧ x.IsHugeSum

theorem isLiteral_iff : e.IsLiteral ↔ e.Fits ∧ ∀ x ∈ e.parts, x.IsLiteral := by
  unfold IsLiteral
  simp only [holds_iff (e := e)]
  constructor
  · intro h
    exact ⟨h e (.inl rfl), fun x hx y hy => h y (.inr ⟨x, hx, hy⟩)⟩
  · rintro ⟨hself, hparts⟩ x (rfl | ⟨y, hy, hx⟩)
    · exact hself
    · exact hparts y hy x hx

theorem overflows_iff :
    e.Overflows ↔ e.IsHugeSum ∨ ∃ x ∈ e.parts, x.Overflows := by
  unfold Overflows
  simp only [holds_iff (e := e)]
  constructor
  · rintro ⟨x, rfl | ⟨y, hy, hx⟩, hsum⟩
    · exact .inl hsum
    · exact .inr ⟨y, hy, x, hx, hsum⟩
  · rintro (hsum | ⟨y, hy, x, hx, hsum⟩)
    · exact ⟨e, .inl rfl, hsum⟩
    · exact ⟨x, .inr ⟨y, hy, hx⟩, hsum⟩

theorem hashable_tuple {span : Span} {items : List Expr} :
    (Expr.tuple span items).Hashable ↔ ∀ e ∈ items, e.Hashable := by
  constructor
  · intro h e he x hx
    exact h x (.item he hx)
  · intro h x hx
    cases hx with
    | self => rfl
    | item hitem hx => exact h _ hitem x hx

theorem hashable_iff_of_not_tuple (h : ∀ span items, e ≠ .tuple span items) :
    e.Hashable ↔ e.isMutable = false := by
  constructor
  · intro hall
    exact hall e (.self e)
  · intro hself x hx
    cases hx with
    | self => exact hself
    | item => exact absurd rfl (h _ _)

end Expr

-- ============================================================== reading

section Reading

variable {α β : Type} {good good' huge huge' : Prop} {told : α → Prop}
    {told' : β → Prop}
  {x : Except LiteralFault α} {f : α → Except LiteralFault β}

/-- What the end of a reading tells. A value says that all is good and
nothing is out of range; each fault tells where it came from, though not
that there is no other. -/
def Tells (good huge : Prop) (told : α → Prop) : Except LiteralFault α → Prop
  | .ok a => good ∧ ¬ huge ∧ told a
  | .error .overflow => huge
  | .error .notLiteral => ¬ good

theorem Tells.imp (h : Tells good huge told x) (hgood : good ↔ good')
    (hover : huge ↔ huge') {told' : α → Prop}
    (htold : ∀ a, good → told a → told' a) : Tells good' huge' told' x := by
  cases x with
  | ok a =>
      exact ⟨hgood.1 h.1, fun ho => h.2.1 (hover.2 ho), htold a h.1 h.2.2⟩
  | error fault =>
      cases fault with
      | overflow => exact hover.1 h
      | notLiteral => exact fun hg => h (hgood.2 hg)

/-- A sequence of readings stops at the first fault. -/
theorem Tells.bind (hx : Tells good huge told x)
    (hf : ∀ a, told a → Tells good' huge' told' (f a)) :
    Tells (good ∧ good') (huge ∨ huge') told' (x >>= f) := by
  cases x with
  | error fault =>
      cases fault with
      | overflow => exact Or.inl hx
      | notLiteral => exact fun hg => hx hg.1
  | ok a =>
      obtain ⟨hgood, hover, htold⟩ := hx
      have hnext := hf a htold
      show Tells _ _ _ (f a)
      cases hend : f a with
      | ok b =>
          rw [hend] at hnext
          exact ⟨⟨hgood, hnext.1⟩, fun ho => ho.elim hover hnext.2.1,
            hnext.2.2⟩
      | error fault =>
          rw [hend] at hnext
          cases fault with
          | overflow => exact Or.inr hnext
          | notLiteral => exact fun hg => hnext hg.2

theorem tells_pure {a : α} (htold : told a) : Tells True False told (pure a) :=
  ⟨trivial, not_false, htold⟩

/-- A condition on the way stops a reading where it does not hold. -/
theorem tells_guard {b : Bool} {p : Prop} (hp : b = true ↔ p)
    (hx : Tells good huge told x) :
    Tells (p ∧ good) huge told
      (if b = true then x else .error .notLiteral) := by
  by_cases hb : b = true
  · rw [if_pos hb]
    exact hx.imp (by simp [hp.1 hb]) Iff.rfl fun _ _ hs => hs
  · rw [if_neg hb]
    exact fun hg => hb (hp.2 hg.1)

end Reading

namespace Expr

variable {e : Expr} {items : List Expr} {entries : List (Option Expr × Expr)}

/-- What is known of a literal that was read. -/
def Describes (e : Expr) (l : Literal) : Prop :=
  l.truthy = e.isTruthy ∧ (l.hashable = true ↔ e.Hashable)

/-- What reading an expression tells. -/
abbrev TellsLiteral (e : Expr) : Prop :=
  Tells e.IsLiteral e.Overflows e.Describes e.literal

theorem tells_literals (h : ∀ e ∈ items, e.TellsLiteral) :
    Tells (∀ e ∈ items, e.IsLiteral) (∃ e ∈ items, e.Overflows)
      (fun found => found.all Literal.hashable = true ↔
        ∀ e ∈ items, e.Hashable)
      (Expr.literals items) := by
  induction items with
  | nil => simp [literals, Tells]
  | cons e items ih =>
      have hrest := ih fun x hx => h x (List.mem_cons_of_mem e hx)
      rw [literals]
      refine Tells.imp (Tells.bind (h e List.mem_cons_self) fun first hfirst =>
        Tells.bind hrest fun others hothers =>
          tells_pure ?_) (by simp) (by simp) fun _ _ hs => hs
      simp [hfirst.2, hothers]

theorem tells_hashableLiterals (h : ∀ e ∈ items, e.TellsLiteral) :
    Tells (∀ e ∈ items, e.IsLiteral ∧
      e.Hashable) (∃ e ∈ items, e.Overflows) (fun _ =>
        True) (Expr.hashableLiterals items) := by
  induction items with
  | nil => simp [hashableLiterals, Tells]
  | cons e items ih =>
      have hrest := ih fun x hx => h x (List.mem_cons_of_mem e hx)
      rw [hashableLiterals]
      refine Tells.imp (Tells.bind (h e List.mem_cons_self) fun first hfirst =>
        tells_guard hfirst.2 hrest) ?_ (by simp) fun _ _ hs => hs
      simp [and_assoc]

/-- The entry of a mapping that can be read: with a key. -/
def EntryFits (entry : Option Expr × Expr) : Prop :=
  ∃ key, entry.1 = some key ∧ key.IsLiteral ∧ entry.2.IsLiteral ∧ key.Hashable

/-- Does a part of an entry hold a sum that is out of range? -/
def EntryOverflows (entry : Option Expr × Expr) : Prop :=
  (∃ key, entry.1 = some key ∧ key.Overflows) ∨ entry.2.Overflows

theorem tells_literalEntries
    (hkeys : ∀ e ∈ entries.filterMap Prod.fst, e.TellsLiteral)
    (hvalues : ∀ e ∈ entries.map Prod.snd, e.TellsLiteral) :
    Tells (∀ entry ∈ entries, EntryFits entry)
      (∃ entry ∈ entries, EntryOverflows entry) (fun _ =>
        True) (Expr.literalEntries entries) := by
  induction entries with
  | nil => simp [literalEntries, Tells]
  | cons entry entries ih =>
      obtain ⟨key?, value⟩ := entry
      have hvalue : value.TellsLiteral := hvalues value (by simp)
      cases key? with
      | none =>
          rw [literalEntries]
          intro hall
          obtain ⟨key, hkey, -⟩ := hall (none, value) List.mem_cons_self
          cases hkey
      | some key =>
          have hkey : key.TellsLiteral := hkeys key (by simp)
          have hrest :=
            ih (fun e he => hkeys e (by simp_all)) (fun e he =>
              hvalues e (by simp_all))
          rw [literalEntries]
          refine Tells.imp (Tells.bind hkey fun first hfirst =>
            Tells.bind hvalue fun _ _ =>
            tells_guard hfirst.2 hrest) ?_ ?_ fun _ _ hs => hs
          · simp [EntryFits, and_assoc]
          · simp [EntryOverflows, or_assoc]

-- ---------------------------------------------------------- plain values

theorem parts_eq_nil (h : e.isDisplay = false) : e.parts = [] := by
  cases e with
  | tuple | list | set | dict => cases h
  | _ => rfl

theorem isLiteral_iff_isPlain (h : e.isDisplay = false) :
    e.IsLiteral ↔ e.IsPlain := by
  rw [isLiteral_iff, parts_eq_nil h]
  constructor
  · rintro ⟨hfits, -⟩
    exact hfits.kind.resolve_left (by simp [h])
  · intro hplain
    refine ⟨⟨.inr hplain, ?_, ?_⟩, by simp⟩
    · rintro span entries rfl
      cases h
    · cases hplain <;> simp [keys]

theorem overflows_iff_isHugeSum (h : e.isDisplay = false) :
    e.Overflows ↔ e.IsHugeSum := by
  rw [overflows_iff, parts_eq_nil h]
  simp

theorem not_isHugeSum
    (h : ∀ span left op right, e ≠ .binary span left op right) :
    ¬ e.IsHugeSum := by
  rintro ⟨_, _, _, _, _, _, hsum, -⟩
  exact h _ _ _ _ hsum

/-- Plain values other than the empty set are hashable. -/
theorem describes_of_not_mutable {truthy : Bool}
    (htruthy : truthy = e.isTruthy)
    (htuple : ∀ span items, e ≠ .tuple span items)
    (hmutable : e.isMutable = false) :
    e.Describes { truthy, hashable := true } := by
  refine ⟨htruthy, ?_⟩
  rw [hashable_iff_of_not_tuple htuple]
  simp [hmutable]

/-- Lists, sets and mappings are never hashable, the empty set included. -/
theorem describes_of_mutable {truthy : Bool} (htruthy : truthy = e.isTruthy)
    (hmutable : e.isMutable = true) :
    e.Describes { truthy, hashable := false } := by
  refine ⟨htruthy, iff_of_false (by simp) fun hhashable => ?_⟩
  have hself := hhashable e (.self e)
  rw [hmutable] at hself
  cases hself

theorem isTruthy_of_signedNumber? {value : Constant}
    (h : e.signedNumber? = some value) :
    e.isTruthy = value.isTruthy := by
  have hkept : ∀ c : Constant, (if c.isNumber then some c else none) =
      some value → c = value := by
    intro c hc
    rw [Option.ite_none_right_eq_some] at hc
    exact Option.some.inj hc.2
  unfold signedNumber? at h
  split at h
  next => rw [← hkept _ h]; rfl
  next => rw [← hkept _ h]; rfl
  next => rw [← hkept _ h]; rfl
  next => cases h

theorem tells_signed {span span' : Span} {op : UnaryOp} {value : Constant}
    (he : e = .unary span op (.constant span' value))
    (hop : op = .plus ∨ op = .minus) :
    Tells e.IsPlain e.IsHugeSum e.Describes
      (if value.isNumber then .ok { truthy := value.isTruthy,
                                    hashable := true }
        else .error .notLiteral) := by
  subst he
  split
  next hnumber =>
    exact ⟨.signed hop hnumber, not_isHugeSum nofun,
      describes_of_not_mutable rfl nofun rfl⟩
  next hnumber =>
    intro hplain
    cases hplain with
    | signed _ h => exact hnumber h

theorem tells_ofSum {span : Span} {left right : Expr} {op : BinaryOp}
    (he : e = .binary span left op right) (hop : op = .add ∨ op = .sub) :
    Tells e.IsPlain e.IsHugeSum e.Describes (Literal.ofSum left right) := by
  subst he
  unfold Literal.ofSum
  split
  next real span' imaginary hleft =>
    split
    next hreal =>
      intro hplain
      cases hplain with
      | complex _ hleft' hreal' =>
          obtain rfl := Option.some.inj (hleft.symm.trans hleft')
          simp [hreal'] at hreal
    next hreal =>
      rw [Bool.not_eq_true', Bool.not_eq_false] at hreal
      split
      next hbeyond => exact ⟨_, _, _, _, _, _, rfl, hop, hleft, hreal, hbeyond⟩
      next hbeyond =>
        refine ⟨.complex hop hleft hreal, ?_,
          describes_of_not_mutable ?_ nofun rfl⟩
        · rintro ⟨_, _, _, _, _, _, hsum, -, hleft', -, hbeyond'⟩
          cases hsum
          obtain rfl := Option.some.inj (hleft.symm.trans hleft')
          exact hbeyond hbeyond'
        · show _ = (left.isTruthy || _)
          rw [isTruthy_of_signedNumber? hleft]
          rfl
  next hother =>
    intro hplain
    cases hplain with
    | complex _ hleft => exact hother _ _ _ hleft rfl

theorem tells_literal_of_not_display (h : e.isDisplay = false) :
    e.TellsLiteral := by
  suffices hplain : Tells e.IsPlain e.IsHugeSum e.Describes e.literal from
    hplain.imp (isLiteral_iff_isPlain h).symm (overflows_iff_isHugeSum h).symm
      fun _ _ hs => hs
  unfold literal
  split
  next span value =>
    exact ⟨.constant span value, not_isHugeSum nofun,
      describes_of_not_mutable rfl nofun rfl⟩
  next => cases h
  next => cases h
  next => cases h
  next => cases h
  next span span' =>
    exact ⟨.emptySet span span', not_isHugeSum nofun,
      describes_of_mutable rfl rfl⟩
  next => exact tells_ofSum rfl (.inl rfl)
  next => exact tells_ofSum rfl (.inr rfl)
  next => exact tells_signed rfl (.inl rfl)
  next => exact tells_signed rfl (.inr rfl)
  next hconstant _ _ _ _ hset hadd hsub hplus hminus =>
    intro hplain
    cases hplain with
    | constant span value => exact hconstant _ _ rfl
    | signed hop hnumber =>
        rcases hop with rfl | rfl
        · exact hplus _ _ _ rfl
        · exact hminus _ _ _ rfl
    | complex hop hleft hreal =>
        rcases hop with rfl | rfl
        · exact hadd _ _ _ rfl
        · exact hsub _ _ _ rfl
    | emptySet span span' => exact hset _ _ rfl

-- -------------------------------------------------------------- displays

theorem overflows_iff_of_isDisplay (h : e.isDisplay = true) :
    e.Overflows ↔ ∃ x ∈ e.parts, x.Overflows := by
  rw [overflows_iff]
  refine or_iff_right ?_
  rintro ⟨_, _, _, _, _, _, rfl, -⟩
  cases h

/-- Tuples and lists ask nothing but literals. -/
theorem isLiteral_of_keys (h : e.isDisplay = true) (hkeys : e.keys = [])
    (hdict : ∀ span entries, e ≠ .dict span entries) :
    e.IsLiteral ↔ ∀ x ∈ e.parts, x.IsLiteral := by
  rw [isLiteral_iff]
  refine and_iff_right ⟨.inl h,
    fun span entries he => absurd he (hdict span entries), ?_⟩
  simp [hkeys]

theorem isLiteral_set {span : Span} :
    (Expr.set span items).IsLiteral ↔
    ∀ e ∈ items, e.IsLiteral ∧ e.Hashable := by
  rw [isLiteral_iff]
  constructor
  · rintro ⟨hfits, hparts⟩ e he
    exact ⟨hparts e he, hfits.hashed e he⟩
  · intro h
    exact ⟨⟨.inl rfl, nofun, fun e he => (h e he).2⟩, fun e he => (h e he).1⟩

theorem isLiteral_dict {span : Span} :
    (Expr.dict span entries).IsLiteral ↔
    ∀ entry ∈ entries, EntryFits entry := by
  rw [isLiteral_iff]
  constructor
  · rintro ⟨hfits, hparts⟩ entry hentry
    obtain ⟨key, hkey⟩ :=
      Option.isSome_iff_exists.1 (hfits.keyed span entries rfl entry hentry)
    have hmem : key ∈ entries.filterMap Prod.fst :=
      List.mem_filterMap.2 ⟨entry, hentry, hkey⟩
    exact ⟨key, hkey, hparts key (List.mem_append_left _ hmem),
      hparts _ (List.mem_append_right _ (List.mem_map_of_mem hentry)),
      hfits.hashed key hmem⟩
  · intro h
    have hkeys : ∀ key ∈ entries.filterMap Prod.fst, key.IsLiteral ∧
        key.Hashable := by
      intro key hkey
      obtain ⟨entry, hentry, hsome⟩ := List.mem_filterMap.1 hkey
      obtain ⟨key', hkey', hliteral, -, hhashable⟩ := h entry hentry
      obtain rfl := Option.some.inj (hsome.symm.trans hkey')
      exact ⟨hliteral, hhashable⟩
    refine ⟨⟨.inl rfl, ?_, fun key hkey => (hkeys key hkey).2⟩, ?_⟩
    · rintro _ _ ⟨⟩ entry hentry
      obtain ⟨key, hkey, -⟩ := h entry hentry
      exact Option.isSome_iff_exists.2 ⟨key, hkey⟩
    · intro x hx
      rcases List.mem_append.1 hx with hx | hx
      · exact (hkeys x hx).1
      · obtain ⟨entry, hentry, rfl⟩ := List.mem_map.1 hx
        obtain ⟨-, -, -, hvalue, -⟩ := h entry hentry
        exact hvalue

theorem overflows_dict {span : Span} :
    (Expr.dict span entries).Overflows ↔
    ∃ entry ∈ entries, EntryOverflows entry := by
  rw [overflows_iff_of_isDisplay rfl]
  constructor
  · rintro ⟨x, hx, hover⟩
    rcases List.mem_append.1 hx with hx | hx
    · obtain ⟨entry, hentry, hkey⟩ := List.mem_filterMap.1 hx
      exact ⟨entry, hentry, .inl ⟨x, hkey, hover⟩⟩
    · obtain ⟨entry, hentry, rfl⟩ := List.mem_map.1 hx
      exact ⟨entry, hentry, .inr hover⟩
  · rintro ⟨entry, hentry, ⟨key, hkey, hover⟩ | hover⟩
    · exact ⟨key, List.mem_append_left _
        (List.mem_filterMap.2 ⟨entry, hentry, hkey⟩), hover⟩
    · exact ⟨_, List.mem_append_right _ (List.mem_map_of_mem hentry), hover⟩

/-- The end of a reading tells what the expression is. -/
theorem tells_literal (e : Expr) : e.TellsLiteral := by
  induction e using partsInduction with
  | step e ih =>
      cases hdisplay : e.isDisplay with
      | false => exact tells_literal_of_not_display hdisplay
      | true =>
          unfold TellsLiteral
          cases e with
          | tuple span items =>
              rw [literal]
              refine Tells.imp
                (Tells.bind (tells_literals ih) fun found hfound =>
                tells_pure ⟨rfl, hfound.trans hashable_tuple.symm⟩) ?_ ?_
                  fun _ _ hs => hs
              · rw [isLiteral_of_keys (e := .tuple span items) rfl rfl nofun,
                  and_true]
              · rw [overflows_iff_of_isDisplay rfl, or_false]
          | list span items =>
              rw [literal]
              refine Tells.imp (Tells.bind (tells_literals ih) fun _ _ =>
                tells_pure (describes_of_mutable rfl rfl)) ?_ ?_ fun _ _ hs =>
                  hs
              · rw [isLiteral_of_keys (e := .list span items) rfl rfl nofun,
                  and_true]
              · rw [overflows_iff_of_isDisplay rfl, or_false]
          | set span items =>
              rw [literal]
              refine Tells.imp
                (Tells.bind (tells_hashableLiterals ih) fun _ _ =>
                tells_pure (describes_of_mutable rfl rfl)) ?_ ?_ fun _ _ hs =>
                  hs
              · rw [isLiteral_set, and_true, parts]
              · rw [overflows_iff_of_isDisplay rfl, or_false]
          | dict span entries =>
              have hkeys : ∀ e ∈ entries.filterMap Prod.fst, e.TellsLiteral :=
                fun e he =>
                ih e (List.mem_append_left _ he)
              have hvalues : ∀ e ∈ entries.map Prod.snd, e.TellsLiteral :=
                fun e he =>
                ih e (List.mem_append_right _ he)
              rw [literal]
              refine Tells.imp
                (Tells.bind (tells_literalEntries hkeys hvalues) fun _ _ =>
                tells_pure (describes_of_mutable rfl rfl)) ?_ ?_ fun _ _ hs =>
                  hs
              · rw [isLiteral_dict, and_true]
              · rw [overflows_dict, or_false]
          | _ => cases hdisplay

theorem isTruthy_iff_of_isDisplay (h : e.isDisplay = true) :
    e.isTruthy = true ↔ e.parts ≠ [] := by
  cases e with
  | tuple | list | set => simp [isTruthy, parts]
  | dict span entries => cases entries <;> simp [isTruthy, parts]
  | _ => cases h

end Expr

-- ================================================================ markers

section Markers

variable {keywords before after : List (Keyword Expr)} {k : Keyword Expr}

/-- The first argument of its name is looked at. -/
theorem find?_force (hsplit : keywords = before ++ k :: after)
    (hbefore : ∀ j ∈ before, j.name ≠ some "force")
    (hname : k.name = some "force") :
    keywords.find? (·.name = some "force") = some k := by
  rw [hsplit, List.find?_append, List.find?_eq_none.2 (by simpa using hbefore)]
  simp [hname]

variable (hfind : keywords.find? (·.name = some "force") = some k)

include hfind

theorem markerForce_of_ok {l : Literal} (hread : k.value.literal = .ok l) :
    markerForce keywords = .ok (l.truthy, []) := by
  simp [markerForce, hfind, hread]

theorem markerForce_of_overflow (hread : k.value.literal = .error .overflow) :
    markerForce keywords = .error .overflow := by
  simp [markerForce, hfind, hread]

theorem markerForce_of_notLiteral
    (hread : k.value.literal = .error .notLiteral) :
    markerForce keywords =
      if k.value.isWritable then .ok (false, [.unreadableForce k.value.render])
      else .error .unwritable := by
  simp [markerForce, hfind, hread]

end Markers

/-- Only true literals force purity. Without an argument named `force` there
is no wish. Otherwise the first of them decides: the wish is there just
when its value is a literal within range that counts as true, which for a
display means that it has a part. Any other literal within range is no
wish either. What is no literal is no wish and is logged, unless it cannot
be written, which ends the walk, as does a sum that is out of range. -/
theorem force_iff_true_literal (keywords : List (Keyword Expr)) :
    ((∀ k ∈ keywords, k.name ≠ some "force") →
      markerForce keywords = .ok (false, [])) ∧
    ∀ before k after, keywords = before ++ k :: after →
      (∀ j ∈ before, j.name ≠ some "force") → k.name = some "force" →
      ((∃ log, markerForce keywords = .ok (true, log)) ↔
        k.value.IsLiteral ∧ ¬ k.value.Overflows ∧ k.value.isTruthy = true) ∧
      (k.value.isDisplay = true →
        (k.value.isTruthy = true ↔ k.value.parts ≠ [])) ∧
      (k.value.IsLiteral → ¬ k.value.Overflows →
        markerForce keywords = .ok (k.value.isTruthy, [])) ∧
      (k.value.IsLiteral → k.value.Overflows →
        markerForce keywords = .error .overflow) ∧
      (¬ k.value.IsLiteral →
        k.value.Overflows ∧ markerForce keywords = .error .overflow ∨
        markerForce keywords =
          if k.value.isWritable then
            .ok (false, [.unreadableForce k.value.render])
          else .error .unwritable) := by
  constructor
  · intro hnone
    unfold markerForce
    rw [List.find?_eq_none.2 (by simpa using hnone)]
  · intro before k after hsplit hbefore hname
    have hfind := find?_force hsplit hbefore hname
    have htells : Tells k.value.IsLiteral k.value.Overflows k.value.Describes
        k.value.literal :=
      Expr.tells_literal k.value
    cases hread : k.value.literal with
    | ok l =>
        rw [hread] at htells
        obtain ⟨hliteral, hover, htruthy, -⟩ := htells
        rw [markerForce_of_ok hfind hread, htruthy]
        refine ⟨?_, Expr.isTruthy_iff_of_isDisplay, fun _ _ => rfl, ?_, ?_⟩
        · simp [hliteral, hover]
        · exact fun _ h => absurd h hover
        · exact fun h => absurd hliteral h
    | error fault =>
        rw [hread] at htells
        cases fault with
        | overflow =>
            have hover : k.value.Overflows := htells
            rw [markerForce_of_overflow hfind hread]
            refine ⟨?_, Expr.isTruthy_iff_of_isDisplay, ?_, fun _ _ => rfl, ?_⟩
            · exact iff_of_false (by simp) fun h => h.2.1 hover
            · exact fun _ h => absurd hover h
            · exact fun _ => .inl ⟨hover, rfl⟩
        | notLiteral =>
            have hother : ¬ k.value.IsLiteral := htells
            rw [markerForce_of_notLiteral hfind hread]
            refine ⟨?_, Expr.isTruthy_iff_of_isDisplay, ?_, ?_,
              fun _ => .inr rfl⟩
            · refine iff_of_false ?_ fun h => hother h.1
              rintro ⟨log, hlog⟩
              split at hlog <;> cases hlog
            · exact fun h => absurd h hother
            · exact fun h => absurd h hother

/-- A mapping with a tuple as its key and a list with an empty set. -/
def nestedDisplay : Expr :=
  let span : Span := ⟨1, 1, 0⟩
  .dict span [(some (.tuple span [.constant span (.int 0)]),
    .list span [.call span (.name span "set") [] []])]

/-- A formatted string with a character that can only be written with a
backslash, which has no place in a replacement field. -/
def unwritableText : Expr :=
  let span : Span := ⟨1, 1, 0⟩
  .joined span [.formatted span (.constant span (.text [.char '\u200b'] false))
    none none]

/-- The argument of a marker. -/
def forceArgument (value : Expr) : Keyword Expr :=
  ⟨⟨1, 1, 0⟩, some "force", value⟩

/-- The nested display is a wish whatever follows it, and the text that
cannot be written ends the walk, though it is no literal. -/
theorem forces_and_obstacle :
    markerForce [⟨⟨1, 1, 0⟩, none, .name ⟨1, 1, 2⟩ "options"⟩,
      forceArgument nestedDisplay,
      forceArgument (.constant ⟨1, 1, 0⟩ (.bool false))] = .ok (true, []) ∧
    ¬ unwritableText.IsLiteral ∧
    markerForce [forceArgument unwritableText] = .error .unwritable := by
  constructor
  · have hread : nestedDisplay.literal =
        .ok { truthy := true, hashable := false } := rfl
    have htells : Tells nestedDisplay.IsLiteral nestedDisplay.Overflows
        nestedDisplay.Describes nestedDisplay.literal :=
      Expr.tells_literal nestedDisplay
    rw [hread] at htells
    have hforce := (force_iff_true_literal
      [⟨⟨1, 1, 0⟩, none, .name ⟨1, 1, 2⟩ "options"⟩,
        forceArgument nestedDisplay,
        forceArgument (.constant ⟨1, 1, 0⟩ (.bool false))]).2 [_]
          (forceArgument nestedDisplay) [_]
      rfl (by simp) rfl
    exact hforce.2.2.1 htells.1 htells.2.1
  · have hother : ¬ unwritableText.IsLiteral := by
      rw [Expr.isLiteral_iff_isPlain rfl]
      nofun
    have hover : ¬ unwritableText.Overflows := by
      rw [Expr.overflows_iff_isHugeSum rfl]
      exact Expr.not_isHugeSum nofun
    have hwritable : unwritableText.isWritable = false := by
      unfold Expr.isWritable
      rw [List.all_eq_false]
      exact ⟨_, Node.mem_walk.2 ⟨[0], rfl⟩, by decide +kernel⟩
    have hforce := (force_iff_true_literal [forceArgument unwritableText]).2 []
      (forceArgument unwritableText) [] rfl (by simp) rfl
    rcases hforce.2.2.2.2 hother with ⟨hsum, -⟩ | hend
    · exact absurd hsum hover
    · refine ⟨hother, hend.trans ?_⟩
      show (if unwritableText.isWritable = true then _ else _) = _
      rw [hwritable]
      rfl

end Purity
