/-
Literals: expressions whose value is known from their text alone. Of that
value only two things matter here, whether it counts as true and whether
it can be an item of a set or a key of a mapping.

A display is a literal when everything in it is, at any depth; items of
sets and keys of mappings have to be hashable on top, which lists, sets
and mappings are not, nor tuples that hold one. Consumed by the reading of
marker options.
-/
import Purity.Syntax.Tree

namespace Purity

/-- What is known of the value of a literal. -/
structure Literal where
  truthy : Bool
  hashable : Bool
  deriving DecidableEq

/-- Does a constant count as true? -/
def Constant.isTruthy : Constant → Bool
  | none => false
  | bool b => b
  | ellipsis => true
  | int n => n ≠ 0
  | float x | imaginary x => !x.isZero
  | text value _ => !value.isEmpty
  | bytes value => !value.isEmpty

/-- Is it a number? Truth values are not. -/
def Constant.isNumber : Constant → Bool
  | int _ | float _ | imaginary _ => true
  | _ => false

/-- Is it a number without an imaginary part? -/
def Constant.isReal : Constant → Bool
  | int _ | float _ => true
  | _ => false

/-- Is it an integer beyond the floating-point format? -/
def Constant.isBeyondFloats : Constant → Bool
  | int n => Binary64.ofFraction n 1 = .infinite
  | _ => false

/-- The number of an expression that is one, with or without a sign. -/
def Expr.signedNumber? : Expr → Option Constant
  | .constant _ c | .unary _ .plus (.constant _ c)
  | .unary _ .minus (.constant _ c) => if c.isNumber then some c else none
  | _ => none

/-- Why the value of an expression is not known from its text. -/
inductive LiteralFault where
  | notLiteral
  /-- A sum with an integer beyond the floating-point format. -/
  | overflow
  deriving DecidableEq

/-- The literal that a sum or difference is: only a real number and an
imaginary one can be written together. -/
def Literal.ofSum (left right : Expr) : Except LiteralFault Literal :=
  match left.signedNumber?, right with
  | some real, .constant _ (.imaginary x) =>
      if !real.isReal then .error .notLiteral
      else if real.isBeyondFloats then .error .overflow
      else .ok { truthy := real.isTruthy || !x.isZero, hashable := true }
  | _, _ => .error .notLiteral

mutual

/-- The literal that an expression is. Its parts are looked at from the
left, up to the first that is at fault. -/
def Expr.literal : Expr → Except LiteralFault Literal
  | .constant _ c => .ok { truthy := c.isTruthy, hashable := true }
  | .tuple _ items => do
      let found ← Expr.literals items
      return { truthy := !items.isEmpty,
               hashable := found.all Literal.hashable }
  | .list _ items => do
      let _ ← Expr.literals items
      return { truthy := !items.isEmpty, hashable := false }
  | .set _ items => do
      Expr.hashableLiterals items
      return { truthy := !items.isEmpty, hashable := false }
  | .dict _ entries => do
      Expr.literalEntries entries
      return { truthy := !entries.isEmpty, hashable := false }
  | .call _ (.name _ "set") [] [] => .ok { truthy := false, hashable := false }
  | .binary _ left .add right | .binary _ left .sub right =>
      Literal.ofSum left right
  | .unary _ .plus (.constant _ c) | .unary _ .minus (.constant _ c) =>
      if c.isNumber then .ok { truthy := c.isTruthy, hashable := true }
      else .error .notLiteral
  | _ => .error .notLiteral

/-- The literals that all of several expressions are. -/
def Expr.literals : List Expr → Except LiteralFault (List Literal)
  | [] => .ok []
  | e :: rest => do
      let first ← e.literal
      let others ← Expr.literals rest
      return first :: others

/-- Several expressions have to be literals that are hashable. -/
def Expr.hashableLiterals : List Expr → Except LiteralFault Unit
  | [] => .ok ()
  | e :: rest => do
      let first ← e.literal
      if first.hashable then Expr.hashableLiterals rest else .error .notLiteral

/-- The entries of a mapping have to be literals, with keys that are
hashable. -/
def Expr.literalEntries : List (Option Expr × Expr) → Except LiteralFault Unit
  | [] => .ok ()
  | (none, _) :: _ => .error .notLiteral
  | (some key, value) :: rest => do
      let first ← key.literal
      let _ ← value.literal
      if first.hashable then Expr.literalEntries rest else .error .notLiteral

end

end Purity
