/-
The syntax tree of a Python source file. Expressions, patterns and
statements are three types; the parts that stand between them (keyword
arguments, parameters, comprehension clauses, handlers and so on) are
structures over them. Every part that begins at a token carries the span
of its text.

Consumed by the grammar, which builds trees, and through the uniform
view in `Node.lean` by every analysis.
-/
import Purity.Decimal.Binary64
import Purity.Text.CodePoint

namespace Purity

-- =============================================================== leaves

/-- Where a part of the tree stands: its first and last line, counted
from 1, and the column of its first character in bytes, counted from 0. -/
structure Span where
  line : Int
  endLine : Int
  column : Nat
  deriving DecidableEq

/-- The value of a literal. -/
inductive Constant where
  | none
  | bool (value : Bool)
  | ellipsis
  | int (value : Nat)
  | float (value : Binary64)
  /-- The given multiple of the imaginary unit. -/
  | imaginary (value : Binary64)
  /-- A text, with the sign that its literal was marked as one. -/
  | text (value : List Text.CodePoint) (marked : Bool)
  | bytes (value : List UInt8)
  deriving DecidableEq

/-- Operators with one operand. -/
inductive UnaryOp where
  | invert | not | plus | minus
  deriving DecidableEq

/-- Operators with two operands, apart from comparisons. -/
inductive BinaryOp where
  | add | sub | mult | matMult | div | mod | pow | leftShift | rightShift
  | bitOr | bitXor | bitAnd | floorDiv
  deriving DecidableEq

/-- Connectives, which take any number of operands. -/
inductive BoolOp where
  | and | or
  deriving DecidableEq

/-- Comparisons, which can be chained. -/
inductive CompareOp where
  | eq | notEq | lt | ltE | gt | gtE | is | isNot | mem | notMem
  deriving DecidableEq

/-- Which brackets a comprehension without keys builds. -/
inductive ComprehensionKind where
  | list | set | generator
  deriving DecidableEq

-- ================================================ parts of expressions

/-- An argument given by name, or all the entries of a mapping when there
is no name. -/
structure Keyword (E : Type) where
  span : Span
  name : Option String
  value : E

/-- One parameter. -/
structure Param (E : Type) where
  span : Span
  name : String
  annotation : Option E

/-- The parameters of a function. The defaults belong to the last of the
positional parameters; each keyword-only parameter has its own. -/
structure Params (E : Type) where
  positionalOnly : List (Param E)
  regular : List (Param E)
  rest : Option (Param E)
  keywordOnly : List (Param E)
  keywordDefaults : List (Option E)
  keywordRest : Option (Param E)
  defaults : List E

/-- One `for` clause of a comprehension with its conditions. -/
structure Clause (E : Type) where
  isAsync : Bool
  target : E
  iterable : E
  conditions : List E

-- ========================================================== expressions

/-- Expressions. -/
inductive Expr where
  | name (span : Span) (id : String)
  | constant (span : Span) (value : Constant)
  | member (span : Span) (value : Expr) (attr : String)
  | subscript (span : Span) (value index : Expr)
  | slice (span : Span) (lower upper step : Option Expr)
  | starred (span : Span) (value : Expr)
  | call (span : Span) (func : Expr) (args : List Expr)
      (keywords : List (Keyword Expr))
  | unary (span : Span) (op : UnaryOp) (operand : Expr)
  | binary (span : Span) (left : Expr) (op : BinaryOp) (right : Expr)
  | boolean (span : Span) (op : BoolOp) (values : List Expr)
  | compare (span : Span) (left : Expr) (ops : List CompareOp)
      (comparators : List Expr)
  | conditional (span : Span) (test body orelse : Expr)
  | lambda (span : Span) (params : Params Expr) (body : Expr)
  | assignment (span : Span) (target value : Expr)
  | tuple (span : Span) (items : List Expr)
  | list (span : Span) (items : List Expr)
  | set (span : Span) (items : List Expr)
  /-- Entries without a key add all the entries of a mapping. -/
  | dict (span : Span) (entries : List (Option Expr × Expr))
  | comprehension (span : Span) (kind : ComprehensionKind) (item : Expr)
      (clauses : List (Clause Expr))
  | dictComprehension (span : Span) (key value : Expr)
      (clauses : List (Clause Expr))
  | await (span : Span) (value : Expr)
  | yield (span : Span) (value : Option Expr)
  | yieldFrom (span : Span) (value : Expr)
  /-- A replacement field of a formatted string. -/
  | formatted (span : Span) (value : Expr) (conversion : Option Char)
      (format : Option Expr)
  /-- A formatted string: texts and replacement fields. -/
  | joined (span : Span) (parts : List Expr)

/-- Where an expression stands. -/
def Expr.span : Expr → Span
  | name s .. | constant s .. | member s .. | subscript s .. | slice s ..
  | starred s .. | call s .. | unary s .. | binary s .. | boolean s ..
  | compare s .. | conditional s .. | lambda s .. | assignment s ..
  | tuple s .. | list s .. | set s .. | dict s .. | comprehension s ..
  | dictComprehension s .. | await s .. | yield s .. | yieldFrom s ..
  | formatted s .. | joined s .. => s

-- ============================================================= patterns

/-- Patterns of a `match` statement. -/
inductive Pattern where
  | value (span : Span) (expression : Expr)
  | singleton (span : Span) (value : Constant)
  | sequence (span : Span) (patterns : List Pattern)
  | mapping (span : Span) (keys : List Expr) (patterns : List Pattern)
      (rest : Option String)
  | object (span : Span) (cls : Expr) (patterns : List Pattern)
      (attrs : List String)
      (attrPatterns : List Pattern)
  | star (span : Span) (name : Option String)
  | capture (span : Span) (pattern : Option Pattern) (name : Option String)
  | alternatives (span : Span) (patterns : List Pattern)

/-- Where a pattern stands. -/
def Pattern.span : Pattern → Span
  | value s .. | singleton s .. | sequence s .. | mapping s ..
  | object s .. | star s .. | capture s .. | alternatives s .. => s

-- ================================================= parts of statements

/-- One name of an import: a module or a member, and what it is called
here. -/
structure ImportName where
  span : Span
  name : String
  asName : Option String

/-- A managed value of a `with` statement. -/
structure WithItem where
  value : Expr
  target : Option Expr

/-- One handler of a `try` statement. -/
structure Handler (S : Type) where
  span : Span
  exception : Option Expr
  name : Option String
  body : List S

/-- One case of a `match` statement. -/
structure MatchCase (S : Type) where
  pattern : Pattern
  guard : Option Expr
  body : List S

-- =========================================================== statements

/-- Statements. -/
inductive Stmt where
  | functionDef (span : Span) (isAsync : Bool) (name : String)
      (params : Params Expr)
      (body : List Stmt) (decorators : List Expr) (returns : Option Expr)
  | classDef (span : Span) (name : String) (bases : List Expr)
      (keywords : List (Keyword Expr))
      (body : List Stmt) (decorators : List Expr)
  | returnValue (span : Span) (value : Option Expr)
  | delete (span : Span) (targets : List Expr)
  | assign (span : Span) (targets : List Expr) (value : Expr)
  | update (span : Span) (target : Expr) (op : BinaryOp) (value : Expr)
  | annotated (span : Span) (target annotation : Expr) (value : Option Expr)
  | forLoop (span : Span) (isAsync : Bool) (target iterable : Expr)
      (body orelse : List Stmt)
  | whileLoop (span : Span) (test : Expr) (body orelse : List Stmt)
  | conditional (span : Span) (test : Expr) (body orelse : List Stmt)
  | withBlock (span : Span) (isAsync : Bool) (items : List WithItem)
      (body : List Stmt)
  | matchBlock (span : Span) (subject : Expr) (cases : List (MatchCase Stmt))
  | raise (span : Span) (exception cause : Option Expr)
  | tryBlock (span : Span) (isGroup : Bool) (body : List Stmt)
      (handlers : List (Handler Stmt))
      (orelse cleanup : List Stmt)
  | assertion (span : Span) (test : Expr) (message : Option Expr)
  | importModules (span : Span) (names : List ImportName)
  | importFrom (span : Span) (module : Option String) (names : List ImportName)
      (level : Nat)
  | globalNames (span : Span) (names : List String)
  | nonlocalNames (span : Span) (names : List String)
  | expression (span : Span) (value : Expr)
  | pass (span : Span)
  | breakLoop (span : Span)
  | continueLoop (span : Span)

/-- Where a statement stands. A decorated definition starts at its own
keyword, not at the first decorator. -/
def Stmt.span : Stmt → Span
  | functionDef s .. | classDef s .. | returnValue s .. | delete s ..
  | assign s .. | update s .. | annotated s .. | forLoop s ..
  | whileLoop s .. | conditional s .. | withBlock s .. | matchBlock s ..
  | raise s .. | tryBlock s .. | assertion s .. | importModules s ..
  | importFrom s .. | globalNames s .. | nonlocalNames s ..
  | expression s .. | pass s | breakLoop s | continueLoop s => s

/-- A whole source file. -/
structure Module where
  body : List Stmt

-- ========================================================= dotted paths

/-- The segments of the dotted path that an expression spells. Anything
but a name and its members spells none. -/
def Expr.path? : Expr → Option (List String)
  | .name _ id => some [id]
  | .member _ value attr => value.path?.map (· ++ [attr])
  | _ => none

end Purity
