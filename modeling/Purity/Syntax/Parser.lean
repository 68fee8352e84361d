/-
Reading source text: tokens, then the grammar. A text that is not Python
is reported with a line, which the search for mistakes finds.

Consumed by the reading of source files.
-/
import Purity.Syntax.Grammar.Statement
import Purity.Syntax.Lexer
import Purity.Syntax.Mistake.Search

namespace Purity

/-- Why a text is not Python. -/
inductive SyntaxFault where
  /-- The text holds the character with code 0. -/
  | nul
  /-- The text does not follow the grammar, with the line to report. -/
  | malformed (line : Nat)
  deriving DecidableEq

open Grammar in
/-- Applies a rule of the grammar to all tokens of a text. When it does not
apply, the rule of the same name in the table says which line to report. -/
def readTokens {α : Type} (rule : Nat → Parse α) (tabled : Mistake.StmtRule)
    (length : Nat) (tokens : List Token) : Except SyntaxFault α :=
  match (Cursor.start 0 tokens).bind (rule (length + 2)).run with
  | some (a, _) => .ok a
  | none =>
      let line :=
        Mistake.faultLine (Mistake.callBound length) tokens.toArray
          (.stmt tabled)
      .error (.malformed (line.getD 1))

/-- Reads a source file. -/
def Module.parse (text : String) : Except SyntaxFault Module :=
  if text.contains '\x00' then .error .nul
  else readTokens Grammar.file .file text.length (Lexer.fileTokens text)

/-- Reads a text that is one expression. -/
def Expr.parse (text : String) : Except SyntaxFault Expr :=
  if text.contains '\x00' then .error .nul
  else readTokens Grammar.singleExpression .evaluation text.length
    (Lexer.expressionTokens text)

end Purity
