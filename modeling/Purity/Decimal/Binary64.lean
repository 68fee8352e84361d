/-
Numbers read from decimal digits.

- Non-negative binary floating-point numbers of 64 bits: a finite number
  is `m * 2 ^ q` with `m` below `2 ^ 53`; reading rounds to the nearest
  one, and a tie goes to the even `m`. Everything is integer arithmetic.
- Integers, up to a limit: one of more decimal digits is neither read from
  nor written as decimal digits. In the other bases, where digits are
  cheap, any length is read.

Consumed by number literals, in source text and in configuration files,
and by the expression printer.
-/
namespace Purity

/-- A non-negative number of the 64-bit binary format. -/
inductive Binary64 where
  /-- The number `m * 2 ^ q`. -/
  | finite (m : Nat) (q : Int)
  /-- Beyond the largest finite number. -/
  | infinite
  deriving DecidableEq

namespace Binary64

/-- The quotient rounded to the nearest integer, a tie to the even one. -/
def roundDiv (num den : Nat) : Nat :=
  let quotient := num / den
  let twice := 2 * (num % den)
  if twice > den ∨ (twice = den ∧ quotient % 2 = 1) then quotient + 1
  else quotient

/-- `num / (den * 2 ^ q)`, rounded. -/
def scaledTo (num den : Nat) (q : Int) : Nat :=
  if q < 0 then roundDiv (num * Nat.pow 2 (-q).toNat) den
  else roundDiv num (den * Nat.pow 2 q.toNat)

/-- The least exponent of two. -/
def leastExponent : Int := -1074

/-- The nearest number to a positive fraction. -/
def ofFraction (num den : Nat) : Binary64 :=
  -- the quotient lies between 2 ^ (bits - 1) and 2 ^ (bits + 1)
  let bits : Int := (Nat.log2 num : Int) - Nat.log2 den
  let q := max (bits - 53) leastExponent
  let q := if scaledTo num den q < Nat.pow 2 53 then q else q + 1
  let m := scaledTo num den q
  let (m, q) := if m < Nat.pow 2 53 then (m, q) else (m / 2, q + 1)
  if q > 971 then infinite else finite m q

/-- The number of decimal digits. -/
def decimalLength (n : Nat) : Nat := (Nat.toDigits 10 n).length

/-- The nearest number to `digits * 10 ^ exponent`. Magnitudes far outside
the format are settled without computing the power. -/
def ofDecimal (digits : Nat) (exponent : Int) : Binary64 :=
  let magnitude := (decimalLength digits : Int) + exponent
  if digits = 0 ∨ magnitude < -330 then finite 0 leastExponent
  else if magnitude > 310 then infinite
  else if exponent < 0 then ofFraction digits (Nat.pow 10 (-exponent).toNat)
  else ofFraction (digits * Nat.pow 10 exponent.toNat) 1

/-- Is it zero? -/
def isZero : Binary64 → Bool
  | finite m _ => m == 0
  | infinite => false

/-- The integer that a number is, if it is one. -/
def whole? : Binary64 → Option Nat
  | finite m q =>
      if 0 ≤ q then some (m * Nat.pow 2 q.toNat)
      else if m % Nat.pow 2 (-q).toNat = 0 then some (m / Nat.pow 2 (-q).toNat)
      else none
  | infinite => none

end Binary64

-- ============================================================= integers

namespace Decimal

/-- The most decimal digits of an integer. -/
def digitLimit : Nat := 4300

/-- Are there too many digits? A zero may be written with any number of
them. -/
def isTooLong (digits : List Char) : Bool :=
  digits.length > digitLimit && digits.any (· ≠ '0')

/-- Has a number a decimal form? -/
def isWritable (n : Nat) : Bool := n < Nat.pow 10 digitLimit

end Decimal

end Purity
