/-
Grammar of statements. Simple statements share a line, compound ones have
blocks: the lines indented below them, or simple statements on their own
line. A block is a parameter of the rules for compound statements, and
`statements` ties the knot with a bound on the nesting.

Consumed by the parser of source files.
-/
import Purity.Syntax.Grammar.Pattern

namespace Purity.Grammar

open Parse

-- ==================================================== simple statements

/-- The operators that update a target. -/
def updateOps : List (String × BinaryOp) := [
  ("+=", .add), ("-=", .sub), ("*=", .mult), ("@=", .matMult), ("/=", .div),
  ("%=", .mod), ("&=", .bitAnd), ("|=", .bitOr), ("^=", .bitXor),
  ("<<=", .leftShift), (">>=", .rightShift),
  ("**=", .pow), ("//=", .floorDiv)]

/-- What can stand behind a sign of assignment. -/
def assigned (inner : Inner) : Parse Expr := do
  if (← peek).isKeyword "yield" then yieldExpression inner
  else starExpressions inner

/-- A statement that starts with an expression: the expression alone, an
assignment to one or more targets, an update or an annotation. -/
def expressionStatement (inner : Inner) : Parse Stmt := do
  let start ← peek
  let first ← assigned inner
  let t ← peek
  if t.isOp ":" then
    if isSingleTarget first then
      let _ ← next
      let annotation ← inner.expression
      let value ←
        if ← tryOp "=" then do pure (some (← assigned inner)) else pure none
      return .annotated (← spanFrom start) first annotation value
    else reject
  else if t.isOp "=" then
    let (targets, value) ← repeating (fun (targets, value) => do
      if (← peek).isOp "=" then
        if isTarget value then
          let _ ← next
          return .more (value :: targets, ← assigned inner)
        else reject
      else return .done (targets, value)) (([] : List Expr), first)
    return .assign (← spanFrom start) targets.reverse value
  else match updateOps.lookup t.symbol with
    | some o =>
        if isSingleTarget first then
          let _ ← next
          let value ← assigned inner
          return .update (← spanFrom start) first o value
        else reject
    | none => return .expression (← spanFrom start) first

/-- The dotted name of a module. -/
def moduleName : Parse String := do
  let first ← name
  let parts ← repeating (fun parts => do
    if ← tryOp "." then return .more ((← name) :: parts)
    else return .done parts) [first]
  return ".".intercalate parts.reverse

/-- The name that something imported gets here. -/
def asName : Parse (Option String) := do
  if ← tryKeyword "as" then return some (← name) else return none

/-- One module of an import. -/
def importedModule : Parse ImportName := do
  let start ← peek
  let id ← moduleName
  let asName ← asName
  return { span := ← spanFrom start, name := id, asName }

/-- One member of an import. -/
def importedMember : Parse ImportName := do
  let start ← peek
  let id ← name
  let asName ← asName
  return { span := ← spanFrom start, name := id, asName }

/-- Items divided by commas, without one at the end. -/
def closedList {α : Type} (item : Parse α) : Parse (List α) := do
  let (items, trailing) ← commaList item
  if trailing then reject else return items

/-- The number of dots before the module of an import. -/
def importLevel : Parse Nat :=
  repeating (fun level => do
    if ← tryOp "." then return .more (level + 1)
    else if ← tryOp "..." then return .more (level + 3)
    else return .done level) 0

/-- The members that an import names. -/
def importedMembers : Parse (List ImportName) := do
  let start ← peek
  if ← tryOp "*" then
    return [{ span := ← spanFrom start, name := "*", asName := none }]
  else if ← tryOp "(" then
    let (items, _) ← commaList importedMember
    let _ ← op ")"
    return items
  else closedList importedMember

/-- An import of members. Without a module there has to be a dot. -/
def importFrom : Parse Stmt := do
  let start ← keyword "from"
  let level ← importLevel
  let module ←
    if level > 0 && (← peek).isKeyword "import" then pure none
    else do pure (some (← moduleName))
  let _ ← keyword "import"
  let names ← importedMembers
  return .importFrom (← spanFrom start) module names level

/-- A statement that fits on a line with others. -/
def simpleStatement (inner : Inner) : Parse Stmt := do
  let start ← peek
  match start.symbol with
  | "pass" => word .pass
  | "break" => word .breakLoop
  | "continue" => word .continueLoop
  | "return" =>
      let _ ← next
      let value ← optional (starExpressions inner)
      return .returnValue (← spanFrom start) value
  | "raise" =>
      let _ ← next
      match ← optional inner.expression with
      | none => return .raise (← spanFrom start) none none
      | some e =>
          let cause ←
            if ← tryKeyword "from" then do pure (some (← inner.expression))
            else pure none
          return .raise (← spanFrom start) (some e) cause
  | "global" =>
      let _ ← next
      let names ← closedList name
      return .globalNames (← spanFrom start) names
  | "nonlocal" =>
      let _ ← next
      let names ← closedList name
      return .nonlocalNames (← spanFrom start) names
  | "del" =>
      let _ ← next
      let (targets, _) ← commaList inner.bitOr
      if targets.all isDeletable then return .delete (← spanFrom start) targets
      else reject
  | "assert" =>
      let _ ← next
      let test ← inner.expression
      let message ←
        if ← tryOp "," then do pure (some (← inner.expression)) else pure none
      return .assertion (← spanFrom start) test message
  | "import" =>
      let _ ← next
      let names ← closedList importedModule
      return .importModules (← spanFrom start) names
  | "from" => importFrom
  | _ => expressionStatement inner
where
  word (make : Span → Stmt) : Parse Stmt := do
    let start ← next
    return make (← spanFrom start)

/-- The simple statements of one line. -/
def simpleStatements (inner : Inner) : Parse (List Stmt) := do
  let first ← simpleStatement inner
  let found ← repeating (fun found => do
    if ← tryOp ";" then
      match (← peek).kind with
      | .newline => return .done found
      | _ => return .more ((← simpleStatement inner) :: found)
    else return .done found) [first]
  newline
  return found.reverse

-- ================================================== compound statements

/-- A block behind a colon. -/
def colonBlock (block : Parse (List Stmt)) : Parse (List Stmt) := do
  let _ ← op ":"
  block

/-- The block behind a word, if the word is next. -/
def optionalBlock (block : Parse (List Stmt)) (word : String) :
    Parse (List Stmt) := do
  if ← tryKeyword word then colonBlock block else return []

/-- A further condition of a chain. -/
structure Branch where
  start : Token
  test : Expr
  body : List Stmt

/-- The statement that a further condition makes up, which ends with the
whole chain. -/
def Branch.statement (b : Branch) (whole : Span) (orelse : List Stmt) : Stmt :=
  let span := { whole with line := b.start.line, column := b.start.column }
  .conditional span b.test b.body orelse

/-- A chain of conditions. The branches come the last first; each further
one is the alternative of the one before it, and all end together. -/
def conditionalChain (inner : Inner) (block : Parse (List Stmt))
    (start : Token) : Parse Stmt := do
  let test ← namedExpression inner.expression
  let body ← colonBlock block
  let branches ← repeating (fun branches => do
    let t ← peek
    if ← tryKeyword "elif" then
      let test ← namedExpression inner.expression
      let body ← colonBlock block
      return .more ({ start := t, test, body } :: branches)
    else return .done branches) ([] : List Branch)
  let orelse ← optionalBlock block "else"
  let whole ← spanFrom start
  let orelse :=
    branches.foldl (fun orelse b => [b.statement whole orelse]) orelse
  return .conditional whole test body orelse

/-- A loop with a condition. -/
def whileLoop (inner : Inner) (block : Parse (List Stmt)) (start : Token) :
    Parse Stmt := do
  let test ← namedExpression inner.expression
  let body ← colonBlock block
  let orelse ← optionalBlock block "else"
  return .whileLoop (← spanFrom start) test body orelse

/-- A loop over the items of an iterable. -/
def forLoop (inner : Inner) (block : Parse (List Stmt)) (start : Token)
    (isAsync : Bool) :
    Parse Stmt := do
  let target ← starTargets inner
  let _ ← keyword "in"
  let iterable ← starExpressions inner
  let body ← colonBlock block
  let orelse ← optionalBlock block "else"
  return .forLoop (← spanFrom start) isAsync target iterable body orelse

/-- One managed value. -/
def withItem (inner : Inner) : Parse WithItem := do
  let value ← inner.expression
  if ← tryKeyword "as" then
    let target ← starTarget inner
    if ← isNext [",", ")", ":"] then return { value, target := some target }
    else reject
  else return { value, target := none }

/-- The managed values of a `with` statement up to its colon. Brackets
around all of them belong to the statement. -/
def withItems (inner : Inner) : Parse (List WithItem) :=
  (do
    let _ ← op "("
    let (items, _) ← commaList (withItem inner)
    let _ ← op ")"
    let _ ← op ":"
    return items)
  <|> (do
    let items ← closedList (withItem inner)
    let _ ← op ":"
    return items)

/-- A block with managed values. -/
def withBlock (inner : Inner) (block : Parse (List Stmt)) (start : Token)
    (isAsync : Bool) :
    Parse Stmt := do
  let items ← withItems inner
  let body ← block
  return .withBlock (← spanFrom start) isAsync items body

/-- The exception of a handler and the name for it. A starred handler needs
an exception. -/
def handled (inner : Inner) (starred : Bool) :
    Parse (Option Expr × Option String) := do
  if starred then
    let _ ← op "*"
    named
  else if (← peek).isOp ":" then return (none, none)
  else named
where
  named : Parse (Option Expr × Option String) := do
    let e ← inner.expression
    return (some e, ← asName)

/-- One handler. -/
def handler (inner : Inner) (block : Parse (List Stmt)) (starred : Bool) :
    Parse (Handler Stmt) := do
  let start ← keyword "except"
  let (exception, id) ← handled inner starred
  let body ← colonBlock block
  return { span := ← spanFrom start, exception, name := id, body }

/-- The handlers from here on, all of them starred or none. -/
def handlers (inner : Inner) (block : Parse (List Stmt)) (starred : Bool) :
    Parse (List (Handler Stmt)) := do
  let found ← repeating (fun found => do
    if (← peek).isKeyword "except" then
      return .more ((← handler inner block starred) :: found)
    else return .done found) []
  return found.reverse

/-- Does a starred handler follow? -/
def atStarredHandler : Parse Bool := do
  if (← peek).isKeyword "except" then return (← peekSecond).isOp "*"
  else return false

/-- A block whose failures are handled. -/
def tryBlock (inner : Inner) (block : Parse (List Stmt)) (start : Token) :
    Parse Stmt := do
  let body ← colonBlock block
  let starred ← atStarredHandler
  let handlers ← handlers inner block starred
  if handlers.isEmpty then
    let _ ← keyword "finally"
    let cleanup ← colonBlock block
    return .tryBlock (← spanFrom start) false body [] [] cleanup
  else
    let orelse ← optionalBlock block "else"
    let cleanup ← optionalBlock block "finally"
    return .tryBlock (← spanFrom start) starred body handlers orelse cleanup

/-- A function. -/
def functionDef (inner : Inner) (block : Parse (List Stmt)) (start : Token)
    (isAsync : Bool) (decorators : List Expr) : Parse Stmt := do
  let id ← name
  let _ ← op "("
  let ps ← params inner true ")"
  let _ ← op ")"
  let returns ←
    if ← tryOp "->" then do pure (some (← inner.expression)) else pure none
  let body ← colonBlock block
  return .functionDef (← spanFrom start) isAsync id ps body decorators returns

/-- A class. -/
def classDef (inner : Inner) (block : Parse (List Stmt)) (start : Token)
    (decorators : List Expr) :
    Parse Stmt := do
  let id ← name
  let bases ←
    if ← tryOp "(" then do
      let s ← arguments inner
      let _ ← op ")"
      if s.generator.isSome then reject else pure s
    else pure {}
  let body ← colonBlock block
  return .classDef (← spanFrom start) id bases.args bases.keywords body
    decorators

/-- The decorators of a definition. -/
def decorators (inner : Inner) : Parse (List Expr) := do
  let found ← repeating (fun found => do
    if ← tryOp "@" then
      let e ← namedExpression inner.expression
      newline
      return .more (e :: found)
    else return .done found) []
  return found.reverse

/-- A definition with decorators. -/
def decorated (inner : Inner) (block : Parse (List Stmt)) : Parse Stmt := do
  let ds ← decorators inner
  let start ← peek
  match start.symbol with
  | "def" =>
      let _ ← next
      functionDef inner block start false ds
  | "async" =>
      let _ ← next
      let _ ← keyword "def"
      functionDef inner block start true ds
  | "class" =>
      let _ ← next
      classDef inner block start ds
  | _ => reject

/-- One case of a `match` statement. -/
def matchCase (inner : Inner) (pattern : Parse Pattern)
    (block : Parse (List Stmt)) :
    Parse (MatchCase Stmt) := do
  if !(← peek).isSpelled "case" then reject
  else
    let _ ← next
    let p ← openSequence pattern
    let guard ←
      if ← tryKeyword "if" then do
        pure (some (← namedExpression inner.expression))
      else pure none
    let body ← colonBlock block
    return { pattern := p, guard, body }

/-- What a `match` statement looks at, which is a tuple if it is several
values. -/
def matchSubject (inner : Inner) : Parse Expr := do
  let start ← peek
  let (items, trailing) ← commaList (starNamedExpression inner)
  match items, trailing with
  | [.starred ..], false => reject
  | [e], false => return e
  | _, _ => return .tuple (← spanFrom start) items

/-- A `match` statement. Its word is an ordinary name elsewhere, so the rule
may turn out not to apply. -/
def matchBlock (inner : Inner) (pattern : Parse Pattern)
    (block : Parse (List Stmt)) : Parse Stmt := do
  let start ← next
  let subject ← matchSubject inner
  let _ ← op ":"
  newline
  indent
  let first ← matchCase inner pattern block
  let cases ← repeating (fun found => do
    if (← peek).isSpelled "case" then
      return .more ((← matchCase inner pattern block) :: found)
    else return .done found) [first]
  dedent
  return .matchBlock (← spanFrom start) subject cases.reverse

/-- A statement, or the simple statements of one line. -/
def statement (inner : Inner) (pattern : Parse Pattern)
    (block : Parse (List Stmt)) :
    Parse (List Stmt) := do
  let start ← peek
  if start.isOp "@" then return [← decorated inner block]
  else if start.isSpelled "match" then
    (do return [← matchBlock inner pattern block]) <|> simpleStatements inner
  else match start.symbol with
    | "def" | "class" => return [← decorated inner block]
    | "if" =>
        let _ ← next
        return [← conditionalChain inner block start]
    | "for" =>
        let _ ← next
        return [← forLoop inner block start false]
    | "while" =>
        let _ ← next
        return [← whileLoop inner block start]
    | "with" =>
        let _ ← next
        return [← withBlock inner block start false]
    | "try" =>
        let _ ← next
        return [← tryBlock inner block start]
    | "async" =>
        match (← peekSecond).symbol with
        | "def" => return [← decorated inner block]
        | "for" =>
            let _ ← next
            let _ ← next
            return [← forLoop inner block start true]
        | "with" =>
            let _ ← next
            let _ ← next
            return [← withBlock inner block start true]
        | _ => reject
    | _ => simpleStatements inner

-- =============================================================== blocks

/-- Statements up to the end of a block or of the text. -/
def statementList (one : Parse (List Stmt)) : Parse (List Stmt) := do
  let found ← repeating (fun found => do
    match (← peek).kind with
    | .dedent | .endOfText => return .done found
    | _ => return .more ((← one).reverse ++ found)) []
  return found.reverse

/-- A block: indented lines, or simple statements on the same line. -/
def blockOf (inner : Inner) (one : Parse (List Stmt)) : Parse (List Stmt) := do
  match (← peek).kind with
  | .newline =>
      newline
      indent
      let body ← statementList one
      dedent
      return body
  | _ => simpleStatements inner

/-- A statement whose blocks nest at most `depth` deep. -/
def nestedStatement (inner : Inner) (pattern : Parse Pattern) :
    (depth : Nat) → Parse (List Stmt)
  | 0 => reject
  | depth + 1 => fun c =>
      statement inner pattern
        (blockOf inner (nestedStatement inner pattern depth)) c

/-- A whole source file. -/
def file (depth : Nat) : Parse Module := do
  let rules := inner depth
  let body ← statementList (nestedStatement rules (pattern rules depth) depth)
  match (← peek).kind with
  | .endOfText => return { body }
  | _ => reject

/-- A text that is one expression. -/
def singleExpression (depth : Nat) : Parse Expr := do
  let rules := inner depth
  let e ← tupleOf rules.expression
  repeating (fun _ => do
    match (← peek).kind with
    | .newline =>
        newline
        return .more ()
    | _ => return .done ()) ()
  match (← peek).kind with
  | .endOfText => return e
  | _ => reject

end Purity.Grammar
