/-
Tokens of Python source text. A token says what was read and where: its
first and last line, the column of its first byte, and how many brackets
are open behind it. The last token of a text is either its end or the
failure that stopped the reading, so a grammar rule that reaches a failure
finds it as a token.

Consumed by the lexer, which produces tokens, and by the grammar.
-/
import Purity.Syntax.Tree

namespace Purity

/-- Why a text cannot be cut into tokens. -/
structure LexFailure where
  /-- The line to report. -/
  line : Nat
  /-- Does the failure win over a fault of the grammar found before it? -/
  decisive : Bool
  /-- The line of the innermost bracket that is open there. -/
  openBracket : Option Nat := none

/-- What a token is. -/
inductive TokenKind where
  /-- A reserved word. -/
  | keyword (word : String)
  /-- Any other name, as it is spelled and in its compatibility form. -/
  | name (spelling id : String)
  /-- A number, or nothing when it is too long to be read. -/
  | number (value : Option Constant)
  /-- A string: the letters before the quotes, and the text between them
  with the column of its first byte in the line where it starts. -/
  | string (marks body : List Char) (bodyColumn : Nat)
  /-- An operator or other punctuation. -/
  | op (symbol : String)
  | newline
  | indent
  | dedent
  | endOfText
  | failure (reason : LexFailure)

/-- A token and its place. -/
structure Token where
  kind : TokenKind
  line : Nat
  endLine : Nat
  column : Nat
  /-- The number of brackets open behind it. -/
  depth : Nat
  /-- The number of tokens before it. -/
  index : Nat

namespace Token

/-- The reserved words. -/
def keywords : List String := [
  "False", "None", "True", "and", "as", "assert", "async", "await", "break",
  "class", "continue", "def", "del", "elif", "else", "except", "finally",
  "for", "from", "global", "if", "import", "in",
  "is", "lambda", "nonlocal", "not", "or", "pass", "raise", "return", "try",
  "while", "with", "yield"]

/-- Is it this reserved word? -/
def isKeyword (t : Token) (word : String) : Bool :=
  match t.kind with
  | .keyword w => w == word
  | _ => false

/-- Is it this punctuation? -/
def isOp (t : Token) (symbol : String) : Bool :=
  match t.kind with
  | .op s => s == symbol
  | _ => false

/-- Is it a name spelled like this? -/
def isSpelled (t : Token) (word : String) : Bool :=
  match t.kind with
  | .name spelling _ => spelling == word
  | _ => false

/-- Does it only lay out lines and blocks? -/
def isLayout (t : Token) : Bool :=
  match t.kind with
  | .newline | .indent | .dedent => true
  | _ => false

/-- The punctuation or reserved word of a token, empty for others. -/
def symbol (t : Token) : String :=
  match t.kind with
  | .op s => s
  | .keyword w => w
  | _ => ""

end Token

end Purity
