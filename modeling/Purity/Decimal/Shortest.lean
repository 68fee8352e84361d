/-
The decimal text of a floating-point number: the fewest digits that read
back as the number, and of those the nearest to it. Digits stand around a
point while the exponent is at least -4 and below 16, and in scientific
form otherwise.

Consumed by the expression printer.
-/
import Purity.Decimal.Binary64

namespace Purity

/-- A positive decimal: an integer of the given number of digits, where
the first digit stands for the power `point - 1` of ten. -/
structure Decimal where
  digits : Nat
  point : Int

namespace Decimal

/-- `a * 10 ^ e` against `b`, both sides made integers. -/
def scaledLe (a : Nat) (e : Int) (b : Nat) : Bool :=
  if e < 0 then a ≤ b * Nat.pow 10 (-e).toNat else a * Nat.pow 10 e.toNat ≤ b

/-- The reals that read back as a number, times a common denominator: its
neighbours' halfway points, which belong to it when `even` holds. -/
structure Interval where
  low : Nat
  value : Nat
  high : Nat
  den : Nat
  even : Bool

/-- The reals that round to `m * 2 ^ q`. Below a power of two the
neighbours are half as far apart. -/
def Interval.around (m : Nat) (q : Int) : Interval :=
  let narrow := m = Nat.pow 2 52 ∧ q > Binary64.leastExponent
  let low := if narrow then 4 * m - 1 else 4 * m - 2
  let q' := q - 2
  let num := if q' < 0 then 1 else Nat.pow 2 q'.toNat
  let den := if q' < 0 then Nat.pow 2 (-q').toNat else 1
  { low := low * num, value := 4 * m * num, high := (4 * m + 2) * num, den,
    even := m % 2 == 0 }

/-- Does `n * unit` lie in the interval, where the unit is a fraction? -/
def Interval.holds (i : Interval) (n unitNum unitDen : Nat) : Bool :=
  let here := n * unitNum * i.den
  let low := i.low * unitDen
  let high := i.high * unitDen
  if i.even then low ≤ here && here ≤ high else low < here && here < high

/-- The decimal of `count` digits nearest to the value, when one of the
value's two neighbours on that grid reads back. -/
def Interval.onGrid (i : Interval) (point : Int) (count : Nat) : Option Nat :=
  let e := point - count
  let unitNum := if e < 0 then 1 else Nat.pow 10 e.toNat
  let unitDen := if e < 0 then Nat.pow 10 (-e).toNat else 1
  let num := i.value * unitDen
  let den := i.den * unitNum
  let below := num / den
  let twice := 2 * (num % den)
  let downFirst := twice < den ∨ (twice = den ∧ below % 2 = 0)
  let order := if downFirst then [below, below + 1] else [below + 1, below]
  order.find? fun n => 0 < n && i.holds n unitNum unitDen

/-- The least `point` with the value below `10 ^ point`, looked for
upwards from a start. -/
def Interval.pointFrom (i : Interval) : (steps : Nat) → Int → Int
  | 0, point => point
  | steps + 1, point =>
      if scaledLe 1 point (i.value / i.den) ||
        (point < 0 && i.value * Nat.pow 10 (-point).toNat ≥ i.den) then
        i.pointFrom steps (point + 1)
      else point

/-- The shortest decimal of a positive finite number. -/
def shortest (m : Nat) (q : Int) : Decimal :=
  let i := Interval.around m q
  let point := i.pointFrom 700 (-330)
  match (List.range 17).findSome? fun k =>
    (i.onGrid point (k + 1)).map fun n => (n, k + 1) with
  | some (n, count) =>
      if n = Nat.pow 10 count then ⟨1, point + 1⟩
      else ⟨n, point⟩
  | none => ⟨i.value / i.den, point⟩

/-- Drops zeros from the end of an integer. -/
def trimZeros : (steps : Nat) → Nat → Nat
  | 0, n => n
  | steps + 1, n => if n % 10 = 0 ∧ n ≠ 0 then trimZeros steps (n / 10) else n

/-- The written form of a decimal. A form without a point or an exponent
gets `tail`, the mark that it is not an integer. -/
def render (d : Decimal) (tail : String) : String :=
  let digits := (Nat.toDigits 10 (trimZeros 20 d.digits))
  let count : Int := digits.length
  let exponent := d.point - 1
  let text (cs : List Char) := String.ofList cs
  if exponent < -4 ∨ exponent ≥ 16 then
    let mantissa := match digits with
      | [] => ""
      | [c] => text [c]
      | c :: cs => text (c :: '.' :: cs)
    let size := toString exponent.natAbs
    mantissa ++
      (if exponent < 0 then "e-"
       else "e+") ++ (if size.length < 2 then "0" else "") ++ size
  else if d.point ≤ 0 then
    "0." ++ text (List.replicate (-d.point).toNat '0' ++ digits)
  else if count ≤ d.point then
    text (digits ++ List.replicate (d.point - count).toNat '0') ++ tail
  else
    text (digits.take d.point.toNat ++ '.' :: digits.drop d.point.toNat)

end Decimal

/-- The text of a number. Infinity is written as a literal too large to be
finite, so the text reads back. -/
def Binary64.render (x : Binary64) (tail : String) : String :=
  match x with
  | .infinite => "1e309"
  | .finite 0 _ => "0" ++ tail
  | .finite m q => (Decimal.shortest m q).render tail

end Purity
