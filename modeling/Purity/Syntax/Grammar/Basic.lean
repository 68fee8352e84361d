/-
Grammar rules. A rule reads tokens from a cursor and gives a value and the
cursor behind it, or it does not apply. Rules are tried in order where
several can apply, and look at few tokens to tell which one does.

The cursor always stands on a token: the last token of a text, its end or
the failure of the lexer, is never passed, and no rule applies to a
failure. Consumed by the rules for expressions, patterns and statements.
-/
import Purity.Syntax.Token

namespace Purity.Grammar

-- =============================================================== cursor

/-- A place between two tokens. -/
structure Cursor where
  /-- The next token. -/
  token : Token
  /-- The tokens behind it. -/
  rest : List Token
  /-- The number of tokens behind it. -/
  left : Nat
  /-- The line on which the last token before it ends, not counting those
  that only lay out lines and blocks. -/
  lastLine : Nat

/-- The place behind the next token. The last token is never passed. -/
def Cursor.behind (c : Cursor) : Cursor :=
  match c.rest with
  | [] => c
  | t :: rest =>
      let lastLine := if c.token.isLayout then c.lastLine else c.token.endLine
      { token := t, rest, left := c.left - 1, lastLine }

/-- A grammar rule. -/
abbrev Parse := StateT Cursor Option

namespace Parse

variable {α β : Type}

/-- The rule that never applies. -/
def reject : Parse α := fun _ => none

/-- Looks at the next token. -/
def peek : Parse Token := fun c =>
  match c.token.kind with
  | .failure _ => none
  | _ => some (c.token, c)

/-- Passes the next token. -/
def next : Parse Token := do
  let t ← peek
  modify Cursor.behind
  return t

/-- The value that a rule would give here, without passing anything. -/
def lookahead (p : Parse α) : Parse α := do
  let c ← get
  let a ← p
  set c
  return a

/-- Looks at the token behind the next one. -/
def peekSecond : Parse Token := lookahead do
  let _ ← next
  peek

/-- How a repetition goes on. -/
inductive Turn (α : Type) where
  | more (value : α)
  | done (value : α)

/-- Repeats a step, at most `turns` times. -/
def iterate (step : α → Parse (Turn α)) : (turns : Nat) → α → Parse α
  | 0, _ => reject
  | turns + 1, a => do
      match ← step a with
      | .more a => iterate step turns a
      | .done a => return a

/-- Repeats a step until it is done. A step that goes on passes a token, so
there are no more turns than tokens. -/
def repeating (step : α → Parse (Turn α)) (a : α) : Parse α := do
  iterate step ((← get).left + 2) a

-- =============================================================== tokens

/-- Passes this punctuation. -/
def op (symbol : String) : Parse Token := do
  if (← peek).isOp symbol then next else reject

/-- Passes this reserved word. -/
def keyword (word : String) : Parse Token := do
  if (← peek).isKeyword word then next else reject

/-- Passes this punctuation if it is next, and says whether it was. -/
def tryOp (symbol : String) : Parse Bool := do
  if (← peek).isOp symbol then do let _ ← next; return true else return false

/-- Passes this reserved word if it is next, and says whether it was. -/
def tryKeyword (word : String) : Parse Bool := do
  if (← peek).isKeyword word then do let _ ← next; return true
  else return false

/-- Is one of these symbols next? -/
def isNext (symbols : List String) : Parse Bool := do
  return symbols.contains (← peek).symbol

/-- Passes a name and gives its identifier. -/
def name : Parse String := do
  match (← peek).kind with
  | .name _ id => do let _ ← next; return id
  | _ => reject

/-- Passes the end of a line. -/
def newline : Parse Unit := do
  match (← peek).kind with
  | .newline => do let _ ← next
  | _ => reject

/-- Passes the start of a block. -/
def indent : Parse Unit := do
  match (← peek).kind with
  | .indent => do let _ ← next
  | _ => reject

/-- Passes the end of a block. -/
def dedent : Parse Unit := do
  match (← peek).kind with
  | .dedent => do let _ ← next
  | _ => reject

/-- The span from a token to the last one passed. -/
def spanFrom (start : Token) : Parse Span := do
  return { line := start.line,
           endLine := (← get).lastLine,
           column := start.column }

/-- Items divided by commas, at least one. Gives the items, and whether a
comma follows the last one. -/
def commaList (item : Parse α) : Parse (List α × Bool) := do
  let first ← item
  let (items, trailing) ← repeating (fun (items, _) => do
    if ← tryOp "," then
      match ← optional item with
      | some x => return .more (x :: items, false)
      | none => return .done (items, true)
    else return .done (items, false)) ([first], false)
  return (items.reverse, trailing)

end Parse

/-- A cursor at the start of a list of tokens. -/
def Cursor.start (lastLine : Nat) : List Token → Option Cursor
  | [] => none
  | t :: rest => some { token := t, rest, left := rest.length, lastLine }

end Purity.Grammar
