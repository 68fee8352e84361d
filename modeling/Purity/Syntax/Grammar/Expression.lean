/-
Grammar of expressions, from the loosest to the tightest binding:
conditional and lambda, `or`, `and`, `not`, comparisons, the bit and
arithmetic operators, powers, `await`, and calls, members and subscripts
behind an atom.

A rule that recurs takes the rules for what stands inside brackets or
behind an operator as a record `Inner`; `inner` ties the knot with a bound
on the nesting. Every use of `Inner` stands behind a token that was passed,
so the length of the text bounds the nesting. Consumed by the grammar of
statements and patterns.
-/
import Purity.Syntax.Grammar.Basic
import Purity.Syntax.StringLiteral

namespace Purity.Grammar

open Parse

/-- The rules for nested expressions. -/
structure Inner where
  expression : Parse Expr
  disjunction : Parse Expr
  inversion : Parse Expr
  bitOr : Parse Expr
  factor : Parse Expr

-- ============================================================== targets

/-- Can a value be stored in a single place that this expression names? -/
def isSingleTarget : Expr → Bool
  | .name .. | .member .. | .subscript .. => true
  | _ => false

/-- Can values be assigned to this expression? Displays are targets when
their items are, and an item may take the rest. -/
def isTarget : Expr → Bool
  | .name .. | .member .. | .subscript .. => true
  | .tuple _ items | .list _ items => items.attach.all fun ⟨e, _⟩ => isTarget e
  | .starred _ (.starred ..) => false
  | .starred _ e => isTarget e
  | _ => false

/-- Can what this expression names be deleted? -/
def isDeletable : Expr → Bool
  | .name .. | .member .. | .subscript .. => true
  | .tuple _ items | .list _ items =>
      items.attach.all fun ⟨e, _⟩ => isDeletable e
  | _ => false

/-- A star before an operand. -/
def starredWith (operand : Parse Expr) : Parse Expr := do
  let start ← op "*"
  let value ← operand
  return .starred (← spanFrom start) value

/-- One item or several divided by commas, which make a tuple. -/
def tupleOf (item : Parse Expr) : Parse Expr := do
  let start ← peek
  let (items, trailing) ← commaList item
  match items, trailing with
  | [e], false => return e
  | _, _ => return .tuple (← spanFrom start) items

/-- Targets of a loop or of a `with` item. -/
def starTarget (inner : Inner) : Parse Expr := do
  let target ←
    if (← peek).isOp "*" then starredWith inner.bitOr
    else inner.bitOr
  if isTarget target then return target else reject

/-- The targets of a loop. -/
def starTargets (inner : Inner) : Parse Expr := tupleOf (starTarget inner)

-- ======================================================= common forms

/-- An expression, or a name that is given the value of one. -/
def namedExpression (expression : Parse Expr) : Parse Expr := do
  let start ← peek
  match start.kind with
  | .name _ id =>
      if (← peekSecond).isOp ":=" then
        let _ ← next
        let target := Expr.name (← spanFrom start) id
        let _ ← next
        let value ← expression
        return .assignment (← spanFrom start) target value
      else plain
  | _ => plain
where
  plain : Parse Expr := do
    let e ← expression
    if (← peek).isOp ":=" then reject else return e

/-- Is it an assignment without brackets around it, which starts at this
token? -/
def isBareAssignment (start : Token) : Expr → Bool
  | .assignment span .. => span.line = start.line && span.column = start.column
  | _ => false

/-- An item of a display. -/
def starNamedExpression (inner : Inner) : Parse Expr := do
  if (← peek).isOp "*" then starredWith inner.bitOr
  else namedExpression inner.expression

/-- An item of an expression list outside brackets. -/
def starExpression (inner : Inner) : Parse Expr := do
  if (← peek).isOp "*" then starredWith inner.bitOr else inner.expression

/-- An expression list, which is a tuple as soon as it has a comma. -/
def starExpressions (inner : Inner) : Parse Expr :=
  tupleOf (starExpression inner)

/-- A `yield` with what it hands out. -/
def yieldExpression (inner : Inner) : Parse Expr := do
  let start ← keyword "yield"
  if ← tryKeyword "from" then
    let value ← inner.expression
    return .yieldFrom (← spanFrom start) value
  else
    let value ← optional (starExpressions inner)
    return .yield (← spanFrom start) value

-- ======================================================= comprehensions

/-- Does a comprehension clause start here? -/
def atClause : Parse Bool := isNext ["for", "async"]

/-- One `for` clause with its conditions. -/
def clause (inner : Inner) : Parse (Clause Expr) := do
  let isAsync ← tryKeyword "async"
  let _ ← keyword "for"
  let target ← starTargets inner
  let _ ← keyword "in"
  let iterable ← inner.disjunction
  let conditions ← repeating (fun found => do
    if ← tryKeyword "if" then return .more ((← inner.disjunction) :: found)
    else return .done found) []
  return { isAsync, target, iterable, conditions := conditions.reverse }

/-- The clauses of a comprehension. -/
def clauses (inner : Inner) : Parse (List (Clause Expr)) := do
  let first ← clause inner
  let all ← repeating (fun found => do
    if ← atClause then return .more ((← clause inner) :: found)
    else return .done found) [first]
  return all.reverse

-- =========================================================== parameters

/-- What has been read of a parameter list. -/
structure ParamState where
  /-- Positional parameters so far, the last first. -/
  positional : List (Param Expr) := []
  /-- The positional-only ones, once their sign was met. -/
  positionalOnly : Option (List (Param Expr)) := none
  defaults : List Expr := []
  /-- A star was met. -/
  starred : Bool := false
  /-- A star alone was met, and a parameter still has to follow. -/
  owed : Bool := false
  rest : Option (Param Expr) := none
  keywordOnly : List (Param Expr) := []
  keywordDefaults : List (Option Expr) := []
  keywordRest : Option (Param Expr) := none

/-- A parameter: a name, with an annotation where those are allowed. A
parameter that takes the rest may have a starred annotation. -/
def param (inner : Inner) (annotations starAnnotation : Bool) :
    Parse (Param Expr) := do
  let start ← peek
  let id ← name
  let annotation ← match annotations with
    | false => pure none
    | true => do
        if ← tryOp ":" then
          let annotation ←
            if starAnnotation then starExpression inner
            else inner.expression
          pure (some annotation)
        else pure none
  return { span := ← spanFrom start, name := id, annotation }

/-- The default of a parameter, if it has one. -/
def paramDefault (inner : Inner) : Parse (Option Expr) := do
  if ← tryOp "=" then return some (← inner.expression) else return none

/-- One entry of a parameter list. -/
def paramEntry (inner : Inner) (annotations : Bool) (s : ParamState) :
    Parse ParamState := do
  if s.keywordRest.isSome then reject
  else if ← tryOp "/" then
    if s.positional.isEmpty || s.positionalOnly.isSome || s.starred then reject
    else return { s with
      positionalOnly := some s.positional,
      positional := [] }
  else if ← tryOp "**" then
    if s.owed then reject
    else return { s with
      keywordRest := some (← param inner annotations false) }
  else if ← tryOp "*" then
    if s.starred then reject
    else if (← peek).isOp "," then
      return { s with starred := true, owed := true }
    else return { s with
      starred := true,
      rest := some (← param inner annotations true) }
  else
    let p ← param inner annotations false
    let default ← paramDefault inner
    if s.starred then
      return { s with
        owed := false
        keywordOnly := p :: s.keywordOnly
        keywordDefaults := default :: s.keywordDefaults }
    else match default with
      | some e =>
          return { s with
            positional := p :: s.positional,
            defaults := e :: s.defaults }
      | none =>
          if s.defaults.isEmpty then
            return { s with positional := p :: s.positional }
          else reject

/-- A parameter list up to the token that closes it. -/
def params (inner : Inner) (annotations : Bool) (closing : String) :
    Parse (Params Expr) := do
  let s ← repeating (fun s => do
    if (← peek).isOp closing then return .done s
    else
      let s ← paramEntry inner annotations s
      if ← tryOp "," then return .more s
      else if (← peek).isOp closing then return .done s
      else reject) ({} : ParamState)
  if s.owed then reject
  else
    return {
      positionalOnly := (s.positionalOnly.getD []).reverse
      regular := s.positional.reverse
      rest := s.rest
      keywordOnly := s.keywordOnly.reverse
      keywordDefaults := s.keywordDefaults.reverse
      keywordRest := s.keywordRest
      defaults := s.defaults.reverse }

/-- A function without a name. -/
def lambda (inner : Inner) : Parse Expr := do
  let start ← keyword "lambda"
  let ps ← params inner false ":"
  let _ ← op ":"
  let body ← inner.expression
  return .lambda (← spanFrom start) ps body

-- ============================================================ arguments

/-- What has been read of an argument list, the last first. -/
structure Arguments where
  args : List Expr := []
  keywords : List (Keyword Expr) := []
  /-- An argument with a name was met. -/
  named : Bool := false
  /-- The entries of a mapping were met. -/
  mapped : Bool := false
  /-- A generator without brackets of its own, which has to stand alone. -/
  generator : Option (Expr × List (Clause Expr)) := none

/-- An argument with a name. -/
def keywordArgument (inner : Inner) : Parse (Keyword Expr) := do
  let start ← peek
  let id ← name
  let _ ← op "="
  let value ← inner.expression
  return { span := ← spanFrom start, name := some id, value }

/-- Does an argument with a name start here? -/
def atKeywordArgument : Parse Bool := do
  match (← peek).kind with
  | .name .. => return (← peekSecond).isOp "="
  | _ => return false

/-- One argument. Behind an argument with a name no other may stand alone,
and behind the entries of a mapping no sequence may be unpacked. -/
def argument (inner : Inner) (s : Arguments) : Parse Arguments := do
  let start ← peek
  if start.isOp "*" then
    if s.mapped then reject
    else return { s with args := (← starredWith inner.expression) :: s.args }
  else if ← tryOp "**" then
    let value ← inner.expression
    let k : Keyword Expr := { span := ← spanFrom start, name := none, value }
    return { s with
      keywords := k :: s.keywords,
      named := true,
      mapped := true }
  else if ← atKeywordArgument then
    return { s with
      keywords := (← keywordArgument inner) :: s.keywords,
      named := true }
  else if s.named then reject
  else
    let e ← namedExpression inner.expression
    if ← atClause then
      let cs ← clauses inner
      if !s.args.isEmpty || (← peek).isOp "," then reject
      else return { s with generator := some (e, cs) }
    else return { s with args := e :: s.args }

/-- An argument list up to its closing bracket. -/
def arguments (inner : Inner) : Parse Arguments := do
  let s ← repeating (fun s => do
    if (← peek).isOp ")" then return .done s
    else
      let s ← argument inner s
      if ← tryOp "," then return .more s
      else return .done s) ({} : Arguments)
  return { s with args := s.args.reverse, keywords := s.keywords.reverse }

/-- What stands behind a callee: arguments, or a generator that borrows the
brackets. -/
def callArguments (inner : Inner) : Parse Arguments := do
  let start ← op "("
  let s ← arguments inner
  let _ ← op ")"
  match s.generator with
  | some (item, cs) =>
      return { args := [.comprehension (← spanFrom start) .generator item cs] }
  | none => return s

-- =========================================================== subscripts

/-- One index: an expression, or a slice. -/
def index (inner : Inner) : Parse Expr := do
  let start ← peek
  if start.isOp ":" then slice start none
  else
    let e ← namedExpression inner.expression
    if (← peek).isOp ":" then
      if isBareAssignment start e then reject else slice start (some e)
    else return e
where
  bound : Parse (Option Expr) := do
    if ← isNext [":", ",", "]"] then return none
    else return some (← inner.expression)
  slice (start : Token) (lower : Option Expr) : Parse Expr := do
    let _ ← op ":"
    let upper ← bound
    let step ← if ← tryOp ":" then bound else pure none
    return .slice (← spanFrom start) lower upper step

/-- The indices of a subscript. A starred index makes a tuple. -/
def indices (inner : Inner) : Parse Expr := do
  let start ← peek
  let (items, trailing) ← commaList do
    if (← peek).isOp "*" then starredWith inner.expression else index inner
  match items, trailing with
  | [.starred s e], false => return .tuple (← spanFrom start) [.starred s e]
  | [e], false => return e
  | _, _ => return .tuple (← spanFrom start) items

-- ============================================================== strings

/-- A text or an expression in a formatted string. -/
abbrev Fragment := List Text.CodePoint ⊕ Expr

/-- Joins neighbouring texts of a formatted string, and turns the pieces
into expressions. -/
def joinTexts (span : Span) : List Fragment → List Expr
  | [] => []
  | pieces =>
      let add (acc : List Fragment) (p : Fragment) : List Fragment :=
        match acc, p with
        | .inl a :: rest, .inl b => .inl (a ++ b) :: rest
        | acc, p => p :: acc
      (pieces.foldl add []).reverse.filterMap fun
        | .inl [] => none
        | .inl value => some (.constant span (.text value false))
        | .inr e => some e

/-- Parses the expression of a replacement field. -/
def fieldExpression (inner : Inner) (brace : StringLiteral.Located)
    (text : List StringLiteral.Located) : Parse Expr := do
  let start ← Cursor.start brace.line (StringLiteral.fieldTokens brace text)
  let (e, _) ← (starExpressions inner).run start
  return e

/-- Turns the pieces of a formatted string into texts and expressions. -/
def formatParts (inner : Inner) (span : Span) :
    List StringLiteral.Piece → Parse (List Fragment)
  | [] => return []
  | .text value :: rest => return .inl value :: (← formatParts inner span rest)
  | .field brace expression conversion format :: rest => do
      let value ← fieldExpression inner brace expression
      let format ← match format with
        | none => pure none
        | some pieces =>
            let parts ← formatParts inner span pieces
            pure (some (Expr.joined span (joinTexts span parts)))
      let field := Expr.formatted span value conversion format
      return .inr field :: (← formatParts inner span rest)

/-- Adjacent string tokens. -/
def stringTokens : Parse (List Token) := do
  let found ← repeating (fun found => do
    match (← peek).kind with
    | .string .. => return .more ((← next) :: found)
    | _ => return .done found) []
  return found.reverse

/-- One string of several that are joined. -/
inductive StringPart where
  | bytes (value : List UInt8)
  | text (parts : List Fragment) (formatted : Bool)

/-- Reads one string token. -/
def stringPart (inner : Inner) (span : Span) (t : Token) :
    Parse StringPart := do
  match t.kind with
  | .string marks body column =>
      let marks := marks.map Char.toLower
      let raw := marks.contains 'r'
      if marks.contains 'b' then
        match StringLiteral.bytesOf raw body with
        | some bs => return .bytes bs
        | none => reject
      else if marks.contains 'f' then
        match StringLiteral.formatPieces raw t.line column body with
        | some pieces => return .text (← formatParts inner span pieces) true
        | none => reject
      else
        match StringLiteral.textOf raw body with
        | some value => return .text [.inl value] false
        | none => reject
  | _ => reject

/-- A string, or several that stand side by side and are joined. Bytes and
texts cannot be joined. -/
def strings (inner : Inner) : Parse Expr := do
  let start ← peek
  let tokens ← stringTokens
  let span ← spanFrom start
  let parts ← tokens.mapM (stringPart inner span)
  let marked := match start.kind with
    | .string marks _ _ => marks == ['u']
    | _ => false
  let bytes := parts.filterMap fun
    | .bytes bs => some bs
    | _ => none
  if bytes.length = parts.length then
    return .constant span (.bytes bytes.flatten)
  else if !bytes.isEmpty then reject
  else
    let pieces := parts.flatMap fun
      | .text ps _ => ps
      | _ => []
    let formatted := parts.any fun
      | .text _ f => f
      | _ => false
    if formatted then return .joined span (joinTexts span pieces)
    else
      let text := pieces.flatMap fun
        | .inl value => value
        | .inr _ => []
      return .constant span (.text text marked)

-- ================================================================ atoms

/-- What stands between round brackets: nothing, a `yield`, one expression,
a generator, or the items of a tuple. -/
def round (inner : Inner) : Parse Expr := do
  let start ← op "("
  if ← tryOp ")" then return .tuple (← spanFrom start) []
  else if (← peek).isKeyword "yield" then
    let e ← yieldExpression inner
    let _ ← op ")"
    return e
  else
    let (items, trailing) ← commaList (starNamedExpression inner)
    match items, trailing with
    | [.starred ..], false => reject
    | [e], false =>
        if ← atClause then
          let cs ← clauses inner
          let _ ← op ")"
          return .comprehension (← spanFrom start) .generator e cs
        else
          let _ ← op ")"
          return e
    | _, _ =>
        let _ ← op ")"
        return .tuple (← spanFrom start) items

/-- What stands between square brackets. -/
def square (inner : Inner) : Parse Expr := do
  let start ← op "["
  if ← tryOp "]" then return .list (← spanFrom start) []
  else
    let (items, trailing) ← commaList (starNamedExpression inner)
    if ← atClause then
      match items, trailing with
      | [.starred ..], _ => reject
      | [e], false =>
          let cs ← clauses inner
          let _ ← op "]"
          return .comprehension (← spanFrom start) .list e cs
      | _, _ => reject
    else
      let _ ← op "]"
      return .list (← spanFrom start) items

/-- One entry of a mapping. -/
def entry (inner : Inner) : Parse (Option Expr × Expr) := do
  if ← tryOp "**" then return (none, ← inner.bitOr)
  else
    let key ← inner.expression
    let _ ← op ":"
    return (some key, ← inner.expression)

/-- The entries of a mapping behind the first one. -/
def mapping (inner : Inner) (start : Token) (first : Option Expr × Expr) :
    Parse Expr := do
  let entries ← repeating (fun found => do
    if ← tryOp "," then
      if (← peek).isOp "\x7d" then return .done found
      else return .more ((← entry inner) :: found)
    else return .done found) [first]
  let _ ← op "\x7d"
  return .dict (← spanFrom start) entries.reverse

/-- What stands between braces: the entries of a mapping, the items of a
set, or a comprehension of either kind. -/
def braces (inner : Inner) : Parse Expr := do
  let start ← op "\x7b"
  if ← tryOp "\x7d" then return .dict (← spanFrom start) []
  else if (← peek).isOp "**" then
    mapping inner start (← entry inner)
  else
    let firstToken ← peek
    let first ← starNamedExpression inner
    if (← peek).isOp ":" then
      if firstToken.isOp "*" || isBareAssignment firstToken first then reject
      else
        let _ ← next
        let value ← inner.expression
        if ← atClause then
          let cs ← clauses inner
          let _ ← op "\x7d"
          return .dictComprehension (← spanFrom start) first value cs
        else mapping inner start (some first, value)
    else if ← atClause then
      match first with
      | .starred .. => reject
      | _ =>
          let cs ← clauses inner
          let _ ← op "\x7d"
          return .comprehension (← spanFrom start) .set first cs
    else
      let more ←
        if ← tryOp "," then
          match ← optional (commaList (starNamedExpression inner)) with
          | some (items, _) => pure items
          | none => pure []
        else pure []
      let _ ← op "\x7d"
      return .set (← spanFrom start) (first :: more)

/-- The tightest expressions. -/
def atom (inner : Inner) : Parse Expr := do
  let start ← peek
  match start.kind with
  | .name _ id =>
      let _ ← next
      return .name (← spanFrom start) id
  | .keyword word =>
      match word with
      | "True" => constant start (.bool true)
      | "False" => constant start (.bool false)
      | "None" => constant start .none
      | _ => reject
  | .number (some value) => constant start value
  | .number none => reject
  | .string .. => strings inner
  | .op symbol =>
      match symbol with
      | "(" => round inner
      | "[" => square inner
      | "\x7b" => braces inner
      | "..." => constant start .ellipsis
      | _ => reject
  | _ => reject
where
  constant (start : Token) (value : Constant) : Parse Expr := do
    let _ ← next
    return .constant (← spanFrom start) value

-- ============================================================ operators

/-- An atom with the members, calls and subscripts behind it. -/
def primary (inner : Inner) : Parse Expr := do
  let start ← peek
  let base ← atom inner
  repeating (fun e => do
    match (← peek).symbol with
    | "." =>
        let _ ← next
        let id ← name
        return .more (.member (← spanFrom start) e id)
    | "(" =>
        let s ← callArguments inner
        return .more (.call (← spanFrom start) e s.args s.keywords)
    | "[" =>
        let _ ← next
        let i ← indices inner
        let _ ← op "]"
        return .more (.subscript (← spanFrom start) e i)
    | _ => return .done e) base

/-- A primary, awaited or not. -/
def awaitPrimary (inner : Inner) : Parse Expr := do
  let start ← peek
  if ← tryKeyword "await" then
    let value ← primary inner
    return .await (← spanFrom start) value
  else primary inner

/-- A power. Its exponent may have a sign. -/
def power (inner : Inner) : Parse Expr := do
  let start ← peek
  let base ← awaitPrimary inner
  if ← tryOp "**" then
    let exponent ← inner.factor
    return .binary (← spanFrom start) base .pow exponent
  else return base

/-- A power with signs before it. -/
def factor (inner : Inner) : Parse Expr := do
  let start ← peek
  match start.symbol with
  | "+" => signed start .plus
  | "-" => signed start .minus
  | "~" => signed start .invert
  | _ => power inner
where
  signed (start : Token) (sign : UnaryOp) : Parse Expr := do
    let _ ← next
    let operand ← inner.factor
    return .unary (← spanFrom start) sign operand

/-- Operands of one binding strength, grouped from the left. -/
def leftGrouped (ops : List (String × BinaryOp)) (operand : Parse Expr) :
    Parse Expr := do
  let start ← peek
  let first ← operand
  repeating (fun left => do
    match ops.lookup (← peek).symbol with
    | none => return .done left
    | some o =>
        let _ ← next
        let right ← operand
        return .more (.binary (← spanFrom start) left o right)) first

/-- Products. -/
def term (inner : Inner) : Parse Expr :=
  leftGrouped [("*", .mult), ("/", .div), ("//", .floorDiv), ("%", .mod),
    ("@", .matMult)] (factor inner)

/-- Sums. -/
def sum (inner : Inner) : Parse Expr :=
  leftGrouped [("+", .add), ("-", .sub)] (term inner)

/-- Shifts. -/
def shift (inner : Inner) : Parse Expr :=
  leftGrouped [("<<", .leftShift), (">>", .rightShift)] (sum inner)

/-- Bitwise `and`. -/
def bitAnd (inner : Inner) : Parse Expr :=
  leftGrouped [("&", .bitAnd)] (shift inner)

/-- Bitwise exclusive `or`. -/
def bitXor (inner : Inner) : Parse Expr :=
  leftGrouped [("^", .bitXor)] (bitAnd inner)

/-- Bitwise `or`. -/
def bitOr (inner : Inner) : Parse Expr :=
  leftGrouped [("|", .bitOr)] (bitXor inner)

/-- The comparison that starts here, if one does. -/
def compareOp : Parse (Option CompareOp) := do
  match (← peek).symbol with
  | "==" => found .eq
  | "!=" => found .notEq
  | "<" => found .lt
  | "<=" => found .ltE
  | ">" => found .gt
  | ">=" => found .gtE
  | "in" => found .mem
  | "is" =>
      let _ ← next
      if ← tryKeyword "not" then return some .isNot else return some .is
  | "not" =>
      if (← peekSecond).isKeyword "in" then
        let _ ← next
        found .notMem
      else return none
  | _ => return none
where
  found (o : CompareOp) : Parse (Option CompareOp) := do
    let _ ← next
    return some o

/-- A chain of comparisons. -/
def comparison (inner : Inner) : Parse Expr := do
  let start ← peek
  let left ← bitOr inner
  let pairs ← repeating (fun pairs => do
    match ← compareOp with
    | none => return .done pairs
    | some o => return .more ((o, ← bitOr inner) :: pairs)) []
  match pairs.reverse with
  | [] => return left
  | pairs =>
      return .compare (← spanFrom start) left (pairs.map Prod.fst)
        (pairs.map Prod.snd)

/-- A negation. -/
def inversion (inner : Inner) : Parse Expr := do
  let start ← peek
  if ← tryKeyword "not" then
    let operand ← inner.inversion
    return .unary (← spanFrom start) .not operand
  else comparison inner

/-- Operands joined by one connective. -/
def connected (word : String) (o : BoolOp) (operand : Parse Expr) :
    Parse Expr := do
  let start ← peek
  let first ← operand
  let values ← repeating (fun values => do
    if ← tryKeyword word then return .more ((← operand) :: values)
    else return .done values) [first]
  match values with
  | [e] => return e
  | _ => return .boolean (← spanFrom start) o values.reverse

/-- Conjunctions. -/
def conjunction (inner : Inner) : Parse Expr :=
  connected "and" .and (inversion inner)

/-- Disjunctions. -/
def disjunction (inner : Inner) : Parse Expr :=
  connected "or" .or (conjunction inner)

-- ========================================================== expressions

/-- A conditional expression, a lambda, or a disjunction. -/
def expression (inner : Inner) : Parse Expr := do
  let start ← peek
  if start.isKeyword "lambda" then lambda inner
  else
    let e ← disjunction inner
    if ← tryKeyword "if" then
      let test ← disjunction inner
      let _ ← keyword "else"
      let orelse ← inner.expression
      return .conditional (← spanFrom start) test e orelse
    else return e

/-- The rules for expressions whose parts nest at most `depth` deep. -/
def inner : (depth : Nat) → Inner
  | 0 => {
      expression := reject
      disjunction := reject
      inversion := reject
      bitOr := reject
      factor := reject }
  | depth + 1 => {
      expression := fun c => Grammar.expression (inner depth) c
      disjunction := fun c => Grammar.disjunction (inner depth) c
      inversion := fun c => Grammar.inversion (inner depth) c
      bitOr := fun c => Grammar.bitOr (inner depth) c
      factor := fun c => Grammar.factor (inner depth) c }

end Purity.Grammar
