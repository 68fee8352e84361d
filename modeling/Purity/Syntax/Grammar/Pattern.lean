/-
Grammar of the patterns of `match` statements: literals, captures, dotted
values, alternatives, and patterns that look into sequences, mappings and
objects. Consumed by the grammar of statements.
-/
import Purity.Syntax.Grammar.Expression

namespace Purity.Grammar

open Parse

/-- A number with an optional sign. -/
def signedNumber (inner : Inner) : Parse Expr := do
  let start ← peek
  let minus ← tryOp "-"
  match (← peek).kind with
  | .number _ =>
      let value ← atom inner
      if minus then return .unary (← spanFrom start) .minus value
      else return value
  | _ => reject

/-- Is it a number with an imaginary part only? -/
def isImaginary : Expr → Bool
  | .constant _ (.imaginary _) => true
  | .unary _ .minus e => isImaginary e
  | _ => false

/-- The imaginary part of a complex number, behind its sign. -/
def imaginaryPart (inner : Inner) (start : Token) (real : Expr)
    (o : BinaryOp) : Parse Expr := do
  match (← peek).kind with
  | .number _ =>
      let imaginary ← atom inner
      if isImaginary real || !isImaginary imaginary then reject
      else return .binary (← spanFrom start) real o imaginary
  | _ => reject

/-- A literal that a pattern compares with: a number, possibly complex, a
string, or one of the three named constants. -/
def literalExpression (inner : Inner) : Parse Expr := do
  let start ← peek
  match start.kind with
  | .string .. => strings inner
  | .keyword _ => atom inner
  | _ =>
      let real ← signedNumber inner
      if ← isNext ["+", "-"] then
        if ← tryOp "+" then imaginaryPart inner start real .add
        else
          let _ ← op "-"
          imaginaryPart inner start real .sub
      else return real

/-- A dotted name. Gives the expression and whether it has a dot. -/
def dottedName : Parse (Expr × Bool) := do
  let start ← peek
  let id ← name
  let head := Expr.name (← spanFrom start) id
  repeating (fun (e, dotted) => do
    if ← tryOp "." then
      let id ← name
      return .more (.member (← spanFrom start) e id, true)
    else return .done (e, dotted)) (head, false)

/-- A name that captures a value. The underscore never does. -/
def captureName : Parse String := do
  if (← peek).isSpelled "_" then reject
  else
    let id ← name
    if ← isNext [".", "(", "="] then reject else return id

/-- A pattern, or a star with a name that takes the rest. -/
def maybeStarPattern (pattern : Parse Pattern) : Parse Pattern := do
  let start ← peek
  if ← tryOp "*" then
    if (← peek).isSpelled "_" then
      let _ ← next
      return .star (← spanFrom start) none
    else
      let id ← captureName
      return .star (← spanFrom start) (some id)
  else pattern

/-- Patterns divided by commas. A single one without a comma stays itself,
and may then not take the rest. -/
def openSequence (pattern : Parse Pattern) : Parse Pattern := do
  let start ← peek
  let (items, trailing) ← commaList (maybeStarPattern pattern)
  match items, trailing with
  | [.star ..], false => reject
  | [p], false => return p
  | _, _ => return .sequence (← spanFrom start) items

/-- The entries of a mapping pattern so far, the last first. -/
structure MappingEntries where
  keys : List Expr := []
  patterns : List Pattern := []
  rest : Option String := none

/-- A pattern for mappings. -/
def mappingPattern (inner : Inner) (pattern : Parse Pattern) :
    Parse Pattern := do
  let start ← op "\x7b"
  let s ← repeating (fun s => do
    if (← peek).isOp "\x7d" then return .done s
    else if s.rest.isSome then reject
    else
      let s ←
        if ← tryOp "**" then do pure { s with rest := some (← captureName) }
        else do
          let key ← match (← peek).kind with
            | .name .. => do
                let (e, dotted) ← dottedName
                if dotted then pure e else reject
            | _ => literalExpression inner
          let _ ← op ":"
          pure { s with
            keys := key :: s.keys,
            patterns := (← pattern) :: s.patterns }
      if ← tryOp "," then return .more s
      else return .done s) ({} : MappingEntries)
  let _ ← op "\x7d"
  return .mapping (← spanFrom start) s.keys.reverse s.patterns.reverse s.rest

/-- The arguments of an object pattern so far, the last first. -/
structure ObjectArguments where
  patterns : List Pattern := []
  attrs : List String := []
  attrPatterns : List Pattern := []

/-- The arguments of an object pattern: patterns by position, then by name. -/
def objectArguments (pattern : Parse Pattern) : Parse ObjectArguments := do
  let _ ← op "("
  let s ← repeating (fun s => do
    if (← peek).isOp ")" then return .done s
    else
      let s ←
        if ← atKeywordArgument then do
          let id ← name
          let _ ← op "="
          pure { s with
            attrs := id :: s.attrs,
            attrPatterns := (← pattern) :: s.attrPatterns }
        else if s.attrs.isEmpty then do
          pure { s with patterns := (← pattern) :: s.patterns }
        else reject
      if ← tryOp "," then return .more s
      else return .done s) ({} : ObjectArguments)
  let _ ← op ")"
  return s

/-- A pattern without an alternative. -/
def closedPattern (inner : Inner) (pattern : Parse Pattern) :
    Parse Pattern := do
  let start ← peek
  match start.kind with
  | .name spelling _ =>
      if spelling == "_" then
        let _ ← next
        return .capture (← spanFrom start) none none
      else
        let (e, dotted) ← dottedName
        if (← peek).isOp "(" then
          let s ← objectArguments pattern
          return .object (← spanFrom start) e s.patterns.reverse
            s.attrs.reverse s.attrPatterns.reverse
        else if (← peek).isOp "=" then reject
        else match e, dotted with
          | .name s id, false => return .capture s none (some id)
          | e, _ => return .value e.span e
  | .keyword _ =>
      match ← atom inner with
      | .constant s value => return .singleton s value
      | _ => reject
  | .op "(" =>
      let _ ← next
      if ← tryOp ")" then return .sequence (← spanFrom start) []
      else
        let p ← openSequence pattern
        let _ ← op ")"
        return p
  | .op "[" =>
      let _ ← next
      if ← tryOp "]" then return .sequence (← spanFrom start) []
      else
        let (items, _) ← commaList (maybeStarPattern pattern)
        let _ ← op "]"
        return .sequence (← spanFrom start) items
  | .op "\x7b" => mappingPattern inner pattern
  | _ =>
      let e ← literalExpression inner
      return .value e.span e

/-- Alternatives, with a name for what matched. -/
def patternWith (inner : Inner) (pattern : Parse Pattern) : Parse Pattern := do
  let start ← peek
  let first ← closedPattern inner pattern
  let found ← repeating (fun found => do
    if ← tryOp "|" then return .more ((← closedPattern inner pattern) :: found)
    else return .done found) [first]
  let p ← match found with
    | [p] => pure p
    | _ => do pure (Pattern.alternatives (← spanFrom start) found.reverse)
  if ← tryKeyword "as" then
    let id ← captureName
    return .capture (← spanFrom start) (some p) (some id)
  else return p

/-- Patterns that nest at most `depth` deep. -/
def pattern (inner : Inner) : (depth : Nat) → Parse Pattern
  | 0 => reject
  | depth + 1 => fun c => patternWith inner (pattern inner depth) c

end Purity.Grammar
