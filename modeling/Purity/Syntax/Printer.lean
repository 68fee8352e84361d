/-
The written form of an expression, in one canonical spelling: one blank
around operators and behind commas, brackets only where the binding of an
operand is looser than its place allows, strings quoted with as few
escapes as possible. Layout and comments of the source are not kept.

Two things have no written form: an integer with too many decimal digits,
and a replacement field whose expression cannot be written without a
backslash.

Consumed by references whose target is only known when the program runs,
and by the log.
-/
import Purity.Decimal.Shortest
import Purity.Syntax.Node
import Purity.Text.CodePoint

namespace Purity

-- ============================================================== binding

/-- How tightly an expression holds together, or has to at its place. -/
abbrev Binding := Nat

namespace Binding

/-- A name that is given a value. -/
def assignment : Binding := 1
def tuple : Binding := 2
def yield : Binding := 3
/-- Conditional expressions and lambdas. Most places ask for this. -/
def test : Binding := 4
def or : Binding := 5
def and : Binding := 6
def not : Binding := 7
def comparison : Binding := 8
def bitOr : Binding := 9
def bitXor : Binding := 10
def bitAnd : Binding := 11
def shift : Binding := 12
def sum : Binding := 13
def term : Binding := 14
def factor : Binding := 15
def power : Binding := 16
def await : Binding := 17
def atom : Binding := 18

/-- The next tighter binding. -/
def next (b : Binding) : Binding := min (b + 1) atom

end Binding

/-- Puts brackets around a text when its place asks for more than it has. -/
def bracketed (place own : Binding) (text : String) : String :=
  if place > own then "(" ++ text ++ ")" else text

-- ============================================================ operators

/-- The sign of an operator. -/
def UnaryOp.sign : UnaryOp → String
  | invert => "~"
  | not => "not "
  | plus => "+"
  | minus => "-"

/-- How tightly an operator binds. -/
def UnaryOp.binding : UnaryOp → Binding
  | not => .not
  | _ => .factor

/-- The sign of an operator. -/
def BinaryOp.sign : BinaryOp → String
  | add => "+"
  | sub => "-"
  | mult => "*"
  | matMult => "@"
  | div => "/"
  | mod => "%"
  | pow => "**"
  | leftShift => "<<"
  | rightShift => ">>"
  | bitOr => "|"
  | bitXor => "^"
  | bitAnd => "&"
  | floorDiv => "//"

/-- How tightly an operator binds. -/
def BinaryOp.binding : BinaryOp → Binding
  | add | sub => .sum
  | mult | matMult | div | mod | floorDiv => .term
  | pow => .power
  | leftShift | rightShift => .shift
  | bitOr => .bitOr
  | bitXor => .bitXor
  | bitAnd => .bitAnd

/-- The sign of a connective. -/
def BoolOp.sign : BoolOp → String
  | and => "and"
  | or => "or"

/-- How tightly a connective binds. -/
def BoolOp.binding : BoolOp → Binding
  | and => .and
  | or => .or

/-- The sign of a comparison. -/
def CompareOp.sign : CompareOp → String
  | eq => "=="
  | notEq => "!="
  | lt => "<"
  | ltE => "<="
  | gt => ">"
  | gtE => ">="
  | is => "is"
  | isNot => "is not"
  | mem => "in"
  | notMem => "not in"

-- ============================================================== strings

namespace StringText

open Text (CodePoint)

/-- The kinds of quotes, the preferred first. -/
def quotes : List (List Char) := ["'", "\"", "\"\"\"", "'''"].map String.toList

/-- How a code point is written whatever the quotes are. Line ends and tabs
are escaped on demand only. -/
def escape (blanks : Bool) (p : CodePoint) : List Char :=
  if !blanks && (p = .char '\n' || p = .char '\t') then [p.shown]
  else p.escape '\\'

/-- Does a text have another one in it? -/
def hasPart (part : List Char) : List Char → Bool
  | [] => part.isEmpty
  | c :: cs => part.isPrefixOf (c :: cs) || hasPart part cs

/-- A text between quotes, and the quotes of those offered that can stand
around it, the best first. Where none can, the text is escaped instead. -/
def fit (offered : List (List Char)) (blanks : Bool) (text : List CodePoint) :
    List Char × List (List Char) :=
  let escaped := text.flatMap (escape blanks)
  let possible := offered.filter fun q =>
    (q.length = 3 || '\n' ∉ escaped) && !hasPart q escaped
  match possible with
  | [] =>
      let written := Text.quotedPoints text
      let first := written.take 1
      let quote := (offered.find? fun q => first.isPrefixOf q).getD first
      ((written.drop 1).dropLast, [quote])
  | _ =>
      match escaped.getLast? with
      | none => (escaped, possible)
      | some last =>
          let sorted :=
            possible.filter (·.head? ≠ some last) ++
              possible.filter (·.head? = some last)
          if sorted.head?.bind List.head? = some last then
            (escaped.dropLast ++ ['\\', last], sorted)
          else (escaped, sorted)

/-- A text in the best quotes for it, without escapes if possible. -/
def avoiding (text : List CodePoint) : List Char :=
  let (body, possible) := fit quotes false text
  let quote := possible.headD []
  quote ++ body ++ quote

/-- Parts in quotes that suit all of them: what is written, and the quotes
that are left. The sign says of a part that it is plain text, where blanks
may be escaped. Nothing is written when a part leaves no quotes of those
offered. -/
def fitAll? (offered : List (List Char)) :
    (parts : List (List CodePoint × Bool)) →
    Option (List Char × List (List Char))
  | [] => some ([], offered)
  | (text, plain) :: rest =>
      let (written, left) := fit offered plain text
      if left.any offered.contains then
        (fitAll? left rest).map fun (more, left) => (written ++ more, left)
      else none

/-- A text between three single quotes. It is escaped as if a double quote
stood in front of it, so single ones are escaped whatever else it holds. -/
def tripled (text : List CodePoint) : List Char :=
  ((Text.quotedPoints (.char '"' :: text)).drop 2).dropLast

/-- The parts of a formatted string in the best quotes for all of them, or
between three single quotes where there are none. -/
def joined (parts : List (List CodePoint × Bool)) : List Char :=
  match fitAll? quotes parts with
  | some (body, left) => left.headD [] ++ body ++ left.headD []
  | none => "'''".toList ++ parts.flatMap (tripled ·.1) ++ "'''".toList

/-- A text with its braces doubled, so that they are not taken for fields. -/
def doubled (text : List CodePoint) : List CodePoint :=
  text.flatMap fun p =>
    if p = .char '\x7b' || p = .char '\x7d' then [p, p] else [p]

/-- A replacement field with its braces: the value as written, the mark of
a conversion, and a format. -/
def field (value : String) (conversion : Option Char)
    (format : Option (List CodePoint)) :
    List CodePoint :=
  let value := value.toList
  -- two braces side by side would be read as one character
  let blank := if value.head? = some '\x7b' then [' '] else []
  let mark := conversion.toList.flatMap fun c => ['!', c]
  let spec := format.toList.flatMap fun text => .char ':' :: text
  Text.points ('\x7b' :: blank ++ value ++ mark) ++ spec ++ [.char '\x7d']

/-- How one byte is written between quotes. -/
def escapeByte (quote : Char) (b : UInt8) : List Char :=
  let c := Char.ofNat b.toNat
  if b.toNat < 0x7f then Text.escapeChar quote c else Text.codeEscape b.toNat

/-- The written form of bytes. -/
def bytes (bs : List UInt8) : List Char :=
  let quote := Text.quoteFor (bs.map fun b => Char.ofNat b.toNat)
  'b' :: quote :: bs.flatMap (escapeByte quote) ++ [quote]

end StringText

/-- The written form of a literal. Inside a replacement field the text of
strings avoids backslashes. -/
def Constant.render (avoid : Bool) : Constant → String
  | none => "None"
  | bool b => if b then "True" else "False"
  | ellipsis => "..."
  | int n => toString n
  | float x => x.render ".0"
  | imaginary x => x.render "" ++ "j"
  | text value marked =>
      (if marked then "u" else "")
        ++ String.ofList
          (if avoid then StringText.avoiding value
           else Text.quotedPoints value)
  | bytes value => String.ofList (StringText.bytes value)

-- ============================================================ listings

/-- Texts with commas between them. -/
def commas (texts : List String) : String := ", ".intercalate texts

/-- The items of a tuple: a single one has a comma behind it. -/
def tupleItems : List String → String
  | [one] => one ++ ","
  | texts => commas texts

/-- A parameter and its default. -/
def withDefault (name : String) : Option String → String
  | none => name
  | some default => name ++ "=" ++ default

/-- The parameters of a lambda, which have no annotations. The defaults
are given as written. -/
def paramListing (ps : Params Expr) (defaults : List String)
    (keywordDefaults : List (Option String)) :
    String :=
  let positional := (ps.positionalOnly ++ ps.regular).map Param.name
  let aligned :=
    List.replicate (positional.length - defaults.length) none ++
      defaults.map some
  let written :=
    (positional.zip aligned).map fun (name, default) =>
      withDefault name default
  let sign := if ps.positionalOnly.isEmpty then [] else ["/"]
  let star :=
    if ps.rest.isSome || !ps.keywordOnly.isEmpty then
      ["*" ++ (ps.rest.map Param.name).getD ""]
    else []
  let keywordOnly :=
    (ps.keywordOnly.zip keywordDefaults).map fun (p, default) =>
      withDefault p.name default
  commas (written.take ps.positionalOnly.length ++ sign
    ++ written.drop ps.positionalOnly.length ++ star ++ keywordOnly
    ++ (ps.keywordRest.toList.map fun p => "**" ++ p.name))

/-- Does a literal need a blank before a dot? A number would take it for a
decimal point. -/
def needsBlank : Expr → Bool
  | .constant _ (.int _) | .constant _ (.bool _) => true
  | _ => false

-- ========================================================== expressions

mutual

/-- The written form of an expression at a place that asks for a binding.
Inside a replacement field backslashes are avoided. -/
def Expr.print (avoid : Bool) (place : Binding) : Expr → String
  | .name _ id => id
  | .constant _ value => value.render avoid
  | .member _ value attr =>
      value.print avoid .atom ++
        (if needsBlank value then " ." else ".") ++ attr
  | .subscript _ value (.tuple _ (item :: items)) =>
      value.print avoid .atom ++ "["
        ++ tupleItems (item.print avoid .test :: items.map fun e =>
          e.print avoid .test) ++ "]"
  | .subscript _ value index =>
      value.print avoid .atom ++ "[" ++ index.print avoid .test ++ "]"
  | .slice _ lower upper step =>
      let lower := match lower with
        | none => ""
        | some e => e.print avoid .test
      let upper := match upper with
        | none => ""
        | some e => e.print avoid .test
      let step := match step with
        | none => ""
        | some e => ":" ++ e.print avoid .test
      lower ++ ":" ++ upper ++ step
  | .starred _ value => "*" ++ value.print avoid .bitOr
  | .call _ func args keywords =>
      func.print avoid .atom ++ "("
        ++ commas ((args.map fun e => e.print avoid .test) ++
          Expr.printKeywords avoid keywords) ++ ")"
  | .unary _ op operand =>
      bracketed place op.binding (op.sign ++ operand.print avoid op.binding)
  | .binary _ left op right =>
      let own := op.binding
      let (leftPlace, rightPlace) :=
        if op = .pow then (own.next, own) else (own, own.next)
      bracketed place own
        (left.print avoid leftPlace ++ " " ++ op.sign ++ " " ++
          right.print avoid rightPlace)
  | .boolean _ op values =>
      bracketed place op.binding
        ((" " ++ op.sign ++ " ").intercalate
          (Expr.printOperands avoid op.binding values))
  | .compare _ left ops comparators =>
      let written :=
        comparators.map fun e => e.print avoid Binding.comparison.next
      bracketed place .comparison
        (left.print avoid Binding.comparison.next
          ++ String.join ((ops.zip written).map fun (o, text) =>
            " " ++ o.sign ++ " " ++ text))
  | .conditional _ test body orelse =>
      bracketed place .test
        (body.print avoid Binding.test.next
          ++ " if " ++ test.print avoid Binding.test.next
          ++ " else " ++ orelse.print avoid .test)
  | .lambda _ ⟨positionalOnly, regular, rest, keywordOnly, keywordDefaults,
      keywordRest, defaults⟩ body =>
      let params := paramListing
        ⟨positionalOnly, regular, rest, keywordOnly, keywordDefaults,
          keywordRest, defaults⟩
        (defaults.map fun e => e.print avoid .test)
        (Expr.printDefaults avoid keywordDefaults)
      bracketed place .test
        ("lambda" ++ (if params = "" then "" else " ") ++ params ++ ": " ++
          body.print avoid .test)
  | .assignment _ target value =>
      bracketed place .assignment (target.print avoid .atom ++ " := " ++
        value.print avoid .atom)
  | .tuple _ items =>
      let own : Binding := if items.isEmpty then 0 else .tuple
      bracketed place own (tupleItems (items.map fun e => e.print avoid .test))
  | .list _ items =>
      "[" ++ commas (items.map fun e => e.print avoid .test) ++ "]"
  | .set _ items =>
      if items.isEmpty then "\x7b*()\x7d"
      else "\x7b" ++ commas (items.map fun e => e.print avoid .test) ++ "\x7d"
  | .dict _ entries =>
      "\x7b" ++ commas (Expr.printEntries avoid entries) ++ "\x7d"
  | .comprehension _ kind item clauses =>
      let inside :=
        item.print avoid .test ++
          String.join (clauses.map fun c => c.print avoid)
      match kind with
      | .list => "[" ++ inside ++ "]"
      | .set => "\x7b" ++ inside ++ "\x7d"
      | .generator => "(" ++ inside ++ ")"
  | .dictComprehension _ key value clauses =>
      "\x7b" ++ key.print avoid .test ++ ": " ++ value.print avoid .test
        ++ String.join (clauses.map fun c => c.print avoid) ++ "\x7d"
  | .await _ value =>
      bracketed place .await ("await " ++ value.print avoid .atom)
  | .yield _ none => bracketed place .yield "yield"
  | .yield _ (some value) =>
      bracketed place .yield ("yield " ++ value.print avoid .atom)
  | .yieldFrom _ value =>
      bracketed place .yield ("yield from " ++ value.print avoid .atom)
  | .formatted _ value conversion none =>
      let field :=
        StringText.field (value.print true Binding.test.next) conversion none
      "f" ++ String.ofList (StringText.avoiding field)
  | .formatted _ value conversion (some format) =>
      let field :=
        StringText.field (value.print true Binding.test.next) conversion
          (some format.printPart)
      "f" ++ String.ofList (StringText.avoiding field)
  | .joined _ parts =>
      let written := parts.map fun e => (e.printPart, e matches .constant ..)
      let text :=
        if avoid then StringText.avoiding (written.map Prod.fst).flatten
        else StringText.joined written
      "f" ++ String.ofList text
termination_by e => sizeOf e
decreasing_by all_goals grind [→ List.sizeOf_lt_of_mem]

/-- The operands of a connective. Each has to bind one step tighter than
the one before it. -/
def Expr.printOperands (avoid : Bool) (place : Binding) :
    List Expr → List String
  | [] => []
  | e :: rest =>
      e.print avoid place.next :: Expr.printOperands avoid place.next rest
termination_by es => sizeOf es
decreasing_by all_goals grind [→ List.sizeOf_lt_of_mem]

/-- The arguments that are given by name. -/
def Expr.printKeywords (avoid : Bool) : List (Keyword Expr) → List String
  | [] => []
  | ⟨_, none, value⟩ :: rest =>
      ("**" ++ value.print avoid .test) :: Expr.printKeywords avoid rest
  | ⟨_, some name, value⟩ :: rest =>
      (name ++ "=" ++ value.print avoid .test) :: Expr.printKeywords avoid rest
termination_by ks => sizeOf ks
decreasing_by all_goals grind [→ List.sizeOf_lt_of_mem]

/-- The defaults of keyword-only parameters. -/
def Expr.printDefaults (avoid : Bool) :
    List (Option Expr) → List (Option String)
  | [] => []
  | none :: rest => none :: Expr.printDefaults avoid rest
  | some e :: rest =>
      some (e.print avoid .test) :: Expr.printDefaults avoid rest
termination_by ds => sizeOf ds
decreasing_by all_goals grind [→ List.sizeOf_lt_of_mem]

/-- The entries of a mapping. -/
def Expr.printEntries (avoid : Bool) : List (Option Expr × Expr) → List String
  | [] => []
  | (some key, value) :: rest =>
      (key.print avoid .test ++ ": " ++ value.print avoid .test) ::
        Expr.printEntries avoid rest
  | (none, value) :: rest =>
      ("**" ++ value.print avoid .bitOr) :: Expr.printEntries avoid rest
termination_by es => sizeOf es
decreasing_by all_goals grind [→ List.sizeOf_lt_of_mem]

/-- A clause of a comprehension. -/
def Clause.print (avoid : Bool) : Clause Expr → String
  | ⟨isAsync, target, iterable, conditions⟩ =>
      (if isAsync then " async for "
        else " for ") ++ target.print avoid .tuple ++ " in "
        ++ iterable.print avoid Binding.test.next
        ++ String.join (conditions.map fun e =>
          " if " ++ e.print avoid Binding.test.next)
termination_by c => sizeOf c
decreasing_by all_goals grind [→ List.sizeOf_lt_of_mem]

/-- A part of a formatted string, before it is quoted. -/
def Expr.printPart : Expr → List Text.CodePoint
  | .constant _ (.text value _) => StringText.doubled value
  | .formatted _ value conversion none =>
      StringText.field (value.print true Binding.test.next) conversion none
  | .formatted _ value conversion (some format) =>
      StringText.field (value.print true Binding.test.next) conversion
        (some format.printPart)
  | .joined _ parts => (parts.map fun e => e.printPart).flatten
  | _ => []
termination_by e => sizeOf e
decreasing_by all_goals grind [→ List.sizeOf_lt_of_mem]

end

/-- The written form of an expression that stands alone. -/
def Expr.render (e : Expr) : String := e.print false .test

-- ================================================= expressions with none

/-- Can a node be written, when the nodes below it can? -/
def Node.isWritable : Node → Bool
  | .expr (.constant _ (.int n)) => Decimal.isWritable n
  | .expr (.formatted _ value _ _) =>
      !(value.print true Binding.test.next).toList.contains '\\'
  | _ => true

/-- Has an expression a written form? -/
def Expr.isWritable (e : Expr) : Bool := (Node.expr e).walk.all Node.isWritable

end Purity
