/-
The lexer: source text to tokens. Lines are joined inside brackets and
after a backslash; indentation is compared with the blocks around it, once
with tabs to columns of eight and once with tabs as one column, and the
two must agree. Blank lines and comments leave no trace.

A text that cannot be cut into tokens ends in a failure token. Reading is
bounded by a number of steps, one for each character. Consumed by the
grammar.
-/
import Purity.Syntax.Token
import Purity.Text.Compatibility
import Purity.Text.Identifier
import Purity.Text.CharClass

namespace Purity.Lexer

-- ========================================================= line endings

/-- Both other kinds of line ending become the plain one. -/
def unifyNewlines : List Char → List Char
  | [] => []
  | '\r' :: '\n' :: cs => '\n' :: unifyNewlines cs
  | '\r' :: cs => '\n' :: unifyNewlines cs
  | c :: cs => c :: unifyNewlines cs

/-- Does a text end in a line ending of one character? -/
def endsInNewline (cs : List Char) : Bool :=
  match cs.reverse with
  | '\n' :: '\r' :: _ => false
  | '\n' :: _ | '\r' :: _ => true
  | _ => false

/-- The lines of a source text, the last one ended. Behind a line ending of
two characters one more empty line follows. -/
def sourceLines (cs : List Char) : List Char :=
  if endsInNewline cs then unifyNewlines cs else unifyNewlines cs ++ ['\n']

/-- The number of bytes of a text. -/
def byteLength (cs : List Char) : Nat :=
  cs.foldr (fun c bytes => c.utf8Size + bytes) 0

-- ============================================================== numbers

/-- The value of a digit in bases up to sixteen. -/
def digitValue (c : Char) : Nat :=
  if c.isDigit then c.toNat - 48
  else if 'a' ≤ c ∧ c ≤ 'f' then c.toNat - 87
  else c.toNat - 55

/-- The number that digits stand for in a base. Underscores are skipped. -/
def digitsValue (base : Nat) (cs : List Char) : Nat :=
  cs.foldl (fun n c => if c = '_' then n else n * base + digitValue c) 0

/-- Is it a hexadecimal digit? -/
def isHexDigit (c : Char) : Bool :=
  c.isDigit || ('a' ≤ c && c ≤ 'f') || ('A' ≤ c && c ≤ 'F')

/-- Is it a digit below eight? -/
def isOctalDigit (c : Char) : Bool := '0' ≤ c && c ≤ '7'

/-- Is it a zero or a one? -/
def isBinaryDigit (c : Char) : Bool := c = '0' || c = '1'

/-- Could the character belong to an identifier? Any character outside
ASCII could. -/
def isNameChar (c : Char) : Bool := c.isAlphanum || c = '_' || c.toNat ≥ 128

/-- Could the character start an identifier? -/
def isNameStart (c : Char) : Bool := c.isAlpha || c = '_' || c.toNat ≥ 128

/-- Digits in groups that single underscores divide, and the rest. Nothing
is returned for an underscore without a digit behind it. -/
def digitGroups (isDigit : Char → Bool) (cs : List Char) :
    Option (List Char × List Char) :=
  let rec go : List Char → List Char → Option (List Char × List Char)
    | acc, [] => some (acc.reverse, [])
    | acc, c :: cs =>
        if isDigit c then go (c :: acc) cs
        else if c = '_' then match cs with
          | d :: rest => if isDigit d then go (d :: acc) rest else none
          | [] => none
        else some (acc.reverse, c :: cs)
  go [] cs

/-- Does a text start with a character that could belong to an identifier? -/
def startsInName (cs : List Char) : Bool := cs.head?.any isNameChar

/-- Words that may stand directly behind a number. -/
def wordsAfterNumber : List (List Char) :=
  ["and", "else", "for", "or", "not"].map String.toList

/-- Pairs of letters that may stand directly behind a number, whatever
follows them. -/
def lettersAfterNumber : List (List Char) :=
  ["if", "in", "is"].map String.toList

/-- May a number end before this text? -/
def numberMayEnd (cs : List Char) : Bool :=
  !startsInName cs || lettersAfterNumber.any (·.isPrefixOf cs)
    || wordsAfterNumber.any fun word =>
        word.isPrefixOf cs && !startsInName (cs.drop word.length)

/-- An integer literal, unless it is too long. -/
def decimalConstant (digits : List Char) : Option Constant :=
  if Decimal.isTooLong digits then none
  else some (.int (digitsValue 10 digits))

/-- A number in a base other than ten, behind its two-character mark. -/
def basedNumber (base : Nat) (isDigit : Char → Bool) (cs : List Char) :
    Option (Option Constant × List Char) := do
  let cs := match cs with
    | '_' :: rest => rest
    | _ => cs
  let (digits, rest) ← digitGroups isDigit cs
  -- an underscore that opens a group needs its digit too
  if digits.isEmpty then none
  else if rest.head?.any Char.isDigit then none
  else if numberMayEnd rest then
    some (some (.int (digitsValue base digits)), rest)
  else none

/-- The exponent part of a number: its value, or nothing when the letter
does not start an exponent, and the rest. No result is a malformed one. -/
def exponentPart (cs : List Char) : Option (Option Int × List Char) :=
  match cs with
  | e :: rest =>
      if e = 'e' || e = 'E' then
        match rest with
        | '+' :: d :: _ => if d.isDigit then signed 1 (rest.drop 1) else none
        | '-' :: d :: _ =>
            if d.isDigit then signed (-1) (rest.drop 1)
            else none
        | '+' :: [] | '-' :: [] => none
        | d :: _ => if d.isDigit then signed 1 rest else some (none, cs)
        | [] => some (none, cs)
      else some (none, cs)
  | [] => some (none, cs)
where
  signed (sign : Int) (cs : List Char) : Option (Option Int × List Char) :=
    (digitGroups Char.isDigit cs).map fun (digits, rest) =>
      (some (sign * digitsValue 10 digits), rest)

/-- The digits behind the point of a number, if there is a point, and the
rest. -/
def fractionPart (cs : List Char) :
    Option (Option (List Char) × List Char) :=
  match cs with
  | '.' :: rest =>
      (if rest.head?.any Char.isDigit then digitGroups Char.isDigit rest
        else some ([], rest)).map
        fun (digits, rest) => (some digits, rest)
  | _ => some (none, cs)

/-- Everything of a decimal number behind its integer digits. -/
def decimalTail (whole : List Char) (cs : List Char) :
    Option (Option Constant × List Char) := do
  let (fraction, cs) ← fractionPart cs
  let (exponent, cs) ← exponentPart cs
  let digits := whole ++ fraction.getD []
  let value := Binary64.ofDecimal (digitsValue 10 digits)
    (exponent.getD 0 - ((fraction.getD []).length : Int))
  match cs with
  | c :: rest =>
      if c = 'j' || c = 'J' then
        if numberMayEnd rest then some (some (.imaginary value), rest)
        else none
      else finish fraction exponent whole value cs
  | [] => finish fraction exponent whole value cs
where
  finish (fraction : Option (List Char)) (exponent : Option Int)
      (whole : List Char) (value : Binary64) (cs : List Char) :
      Option (Option Constant × List Char) :=
    if !numberMayEnd cs then none
    else if fraction.isNone && exponent.isNone then
      -- zeros may not lead an integer other than zero; before `else` the
      -- number is no integer
      if whole.head? = some '0' && whole.any (· ≠ '0') then
        if cs.head? = some 'e' then some (some (.float value), cs) else none
      else some (decimalConstant whole, cs)
    else some (some (.float value), cs)

/-- Reads a number that starts with a digit, or with a point and a digit.
No result is a malformed one. -/
def number (cs : List Char) : Option (Option Constant × List Char) :=
  match cs with
  | '0' :: x :: rest =>
      if x = 'x' || x = 'X' then basedNumber 16 isHexDigit rest
      else if x = 'o' || x = 'O' then basedNumber 8 isOctalDigit rest
      else if x = 'b' || x = 'B' then basedNumber 2 isBinaryDigit rest
      else decimal cs
  | '.' :: _ => decimalTail [] cs
  | _ => decimal cs
where
  decimal (cs : List Char) : Option (Option Constant × List Char) :=
    (digitGroups Char.isDigit cs).bind fun (whole, rest) =>
      decimalTail whole rest

-- ============================================================== strings

/-- May these letters stand before a quote? -/
def isStringMark (marks : List Char) : Bool :=
  (marks.map Char.toLower) ∈
    [[], ['b'], ['r'], ['u'], ['f'], ['b', 'r'], ['r', 'b'], ['f', 'r'],
      ['r', 'f']]

/-- The body of a string up to its closing quotes, and the rest. A
backslash keeps the next character from ending it. -/
def stringBody (quote : Char) (long : Bool) :
    List Char → List Char → Option (List Char × List Char)
  | _, [] => none
  | acc, c :: cs =>
      if c = quote then
        if !long then some (acc.reverse, cs)
        else match cs with
          | c1 :: c2 :: rest =>
              if c1 = quote && c2 = quote then some (acc.reverse, rest)
              else stringBody quote long (c :: acc) cs
          | _ => stringBody quote long (c :: acc) cs
      else if c = '\n' && !long then none
      else if c = '\\' then match cs with
        | e :: rest => stringBody quote long (e :: c :: acc) rest
        | [] => none
      else stringBody quote long (c :: acc) cs

/-- A string behind its letters: whether it has long quotes, its body, and
the rest. -/
def string (cs : List Char) : Option (Bool × List Char × List Char) :=
  match cs with
  | q :: q1 :: q2 :: rest =>
      if q1 = q && q2 = q then
        (stringBody q true [] rest).map fun (b, r) => (true, b, r)
      else (stringBody q false [] (q1 :: q2 :: rest)).map fun (b, r) =>
        (false, b, r)
  | q :: rest => (stringBody q false [] rest).map fun (b, r) => (false, b, r)
  | [] => none

-- ============================================================ operators

/-- Operators of three characters. -/
def longOps : List (List Char) :=
  ["**=", "//=", ">>=", "<<=", "..."].map String.toList

/-- Operators of two characters. -/
def twoCharOps : List (List Char) :=
  ["!=", "%=", "&=", "**", "*=", "+=", "-=", "->", "//", "/=", ":=", "<<",
    "<=", "<>", "==", ">=",
   ">>", "@=", "^=", "|="].map String.toList

/-- The operator at the start of a text. -/
def operator (cs : List Char) : List Char :=
  match (longOps ++ twoCharOps).find? (·.isPrefixOf cs) with
  | some op => op
  | none => cs.take 1

-- ================================================================ state

/-- What the lexer remembers between tokens. -/
structure State where
  line : Nat := 1
  column : Nat := 0
  /-- The indentation of the current line has not been read yet. -/
  atLineStart : Bool := true
  /-- The indentation of the enclosing blocks, the innermost first: the
  column with tabs to eight, and with tabs as one. -/
  indents : List (Nat × Nat) := [(0, 0)]
  /-- The open brackets and their lines, the innermost first. -/
  brackets : List (Char × Nat) := []
  /-- The number of tokens made. -/
  count : Nat := 0

namespace State

/-- The line of the innermost open bracket. -/
def openBracket (s : State) : Option Nat := s.brackets.head?.map Prod.snd

/-- The line that the end of the text is reported on: behind the last line
break this is the line before. -/
def endLine (s : State) : Nat := if s.column = 0 then s.line - 1 else s.line

/-- A token of one line that starts here. -/
def token (s : State) (kind : TokenKind) : Token where
  kind
  line := s.line
  endLine := s.line
  column := s.column
  depth := s.brackets.length
  index := s.count

/-- A failure token. -/
def fail (s : State) (line : Nat) (decisive : Bool) : Token :=
  { s.token (.failure { line, decisive, openBracket := s.openBracket })
    with line, endLine := line }

/-- Moves over characters of the current line. -/
def past (s : State) (cs : List Char) : State :=
  { s with column := s.column + byteLength cs }

/-- Moves to the start of the next line. -/
def nextLine (s : State) : State := { s with line := s.line + 1, column := 0 }

end State

-- ========================================================== indentation

/-- The most blocks that can be nested. -/
def indentLimit : Nat := 100

/-- The most brackets that can be nested. -/
def bracketLimit : Nat := 200

/-- The blanks that start a line. -/
structure Margin where
  /-- Columns with tabs to eight. -/
  width : Nat := 0
  /-- Columns with tabs as one. -/
  altWidth : Nat := 0
  /-- The width before the first backslash, which fixes it. -/
  fixed : Nat := 0

/-- How reading the start of a line ends. -/
inductive MarginResult where
  | found (margin : Margin) (s : State) (rest : List Char)
  | failed (t : Token)

/-- Reads the blanks at the start of a line. A form feed starts over, and a
backslash joins the next line. -/
def readMargin (m : Margin) (s : State) : List Char → MarginResult
  | ' ' :: cs =>
      readMargin { m with
        width := m.width + 1,
        altWidth := m.altWidth + 1 } (s.past [' ']) cs
  | '\t' :: cs =>
      readMargin { m with
        width := (m.width / 8 + 1) * 8,
        altWidth := m.altWidth + 1 } (s.past ['\t']) cs
  | '\x0c' :: cs =>
      readMargin { m with width := 0, altWidth := 0 } (s.past ['\x0c']) cs
  | '\\' :: '\n' :: cs =>
      let m := { m with fixed := if m.fixed = 0 then m.width else m.fixed }
      if cs.isEmpty then .failed (s.fail (s.openBracket.getD s.line) false)
      else readMargin m s.nextLine cs
  | '\\' :: _ => .failed (s.fail s.line false)
  | cs => .found m s cs

/-- Closes the blocks that are indented more than the line: the blocks
left, and the number closed. -/
def closeBlocks (width : Nat) : List (Nat × Nat) → Nat → List (Nat × Nat) × Nat
  | [], closed => ([], closed)
  | (w, a) :: outer, closed =>
      if width < w && !outer.isEmpty then closeBlocks width outer (closed + 1)
      else ((w, a) :: outer, closed)

/-- The tokens that a change of indentation gives, the last first, and the
state behind them. The sign says that the last of them is a failure. -/
def indentTokens (line : Nat) (m : Margin) (s : State) :
    List Token × State × Bool :=
  let width := if m.fixed = 0 then m.width else m.fixed
  let altWidth := if m.fixed = 0 then m.altWidth else m.fixed
  let failed := ([s.fail line false], s, true)
  let here (kind : TokenKind) : Token :=
    { s.token kind with line, endLine := line }
  match s.indents with
  | [] => failed
  | (w, a) :: _ =>
      if width = w then
        if altWidth = a then ([], s, false) else failed
      else if width > w then
        if s.indents.length ≥ indentLimit || altWidth ≤ a then failed
        else
          ([here .indent],
           { s with
             indents := (width, altWidth) :: s.indents,
             count := s.count + 1 }, false)
      else
        let (left, closed) := closeBlocks width s.indents 0
        if left.head? = some (width, altWidth) then
          ((List.range closed).reverse.map fun i =>
            { here .dedent with index := s.count + i },
           { s with indents := left, count := s.count + closed }, false)
        else failed

-- ============================================================ one token

/-- What one step of the lexer gives. -/
inductive Step where
  /-- No token; go on. -/
  | skip (s : State) (rest : List Char)
  /-- A token; go on. -/
  | emit (t : Token) (s : State) (rest : List Char)
  /-- The last token. -/
  | stop (t : Token)

/-- Is the bracket closed by this one? -/
def matches? (opening closing : Char) : Bool :=
  (opening, closing) ∈ [('(', ')'), ('[', ']'), ('\x7b', '\x7d')]

/-- Reads a name or a reserved word. -/
def name (s : State) (cs : List Char) : Step :=
  let word := cs.takeWhile isNameChar
  let rest := cs.dropWhile isNameChar
  let text := String.ofList word
  let next := { s.past word with count := s.count + 1 }
  if word.all fun c => c.toNat < 128 then
    if text ∈ Token.keywords then .emit (s.token (.keyword text)) next rest
    else .emit (s.token (.name text text)) next rest
  else if Text.isIdentifier word then
    let id := String.ofList (Text.Compatibility.normalize word)
    .emit (s.token (.name text id)) next rest
  else .stop (s.fail s.line true)

/-- Reads a string whose letters are `marks`; the text starts behind them. -/
def stringToken (s : State) (marks : List Char) (cs : List Char) : Step :=
  match string cs with
  | none => .stop (s.fail s.line true)
  | some (long, body, rest) =>
      let quotes := List.replicate (if long then 3 else 1) '"'
      let opened := marks ++ quotes
      let lines := body.countP (· = '\n')
      let token :=
        { s.token (.string marks body (s.column + byteLength opened)) with
        endLine := s.line + lines }
      let behind :=
        if lines = 0 then s.past (opened ++ body ++ quotes)
        else
          { s with line := s.line + lines,
                   column :=
                     byteLength ((body.reverse.takeWhile (· ≠ '\n')).reverse ++
                       quotes) }
      .emit token { behind with count := s.count + 1 } rest

/-- Reads an operator or a bracket. -/
def punctuation (s : State) (cs : List Char) : Step :=
  let op := operator cs
  let rest := cs.drop op.length
  let next := { s.past op with count := s.count + 1 }
  let emit (next : State) : Step :=
    .emit { s.token (.op (String.ofList op)) with
      depth := next.brackets.length } next rest
  match op with
  | [c] =>
      if c = '(' || c = '[' || c = '\x7b' then
        if s.brackets.length ≥ bracketLimit then .stop (s.fail s.line true)
        else emit { next with brackets := (c, s.line) :: s.brackets }
      else if c = ')' || c = ']' || c = '\x7d' then
        match s.brackets with
        | (opening, _) :: outer =>
            if matches? opening c then emit { next with brackets := outer }
            else .stop (s.fail s.line true)
        | [] => .stop (s.fail s.line true)
      else if Text.isPrintable c then emit next
      else .stop (s.fail s.line true)
  | _ => emit next

/-- Is this a blank inside a line? -/
def isBlank (c : Char) : Bool := c = ' ' || c = '\t' || c = '\x0c'

/-- Moves over blanks and a comment behind them. -/
def skipBlanks (s : State) (cs : List Char) : State × List Char :=
  let s := s.past (cs.takeWhile isBlank)
  let cs := cs.dropWhile isBlank
  match cs with
  | '#' :: _ => (s.past (cs.takeWhile (· ≠ '\n')), cs.dropWhile (· ≠ '\n'))
  | _ => (s, cs)

/-- Reads the next token of a line. `blank` says that nothing but a
comment stands on it. -/
def step (s : State) (blank : Bool) (cs : List Char) : Step :=
  let (s, cs) := skipBlanks s cs
  match cs with
  | [] =>
      match s.openBracket with
      | some line => .stop (s.fail line false)
      | none =>
          .stop { s.token .endOfText with
            line := s.endLine,
            endLine := s.endLine }
  | '\n' :: rest =>
      let next := { s.nextLine with atLineStart := true }
      if blank || !s.brackets.isEmpty then .skip next rest
      else .emit (s.token .newline) { next with count := s.count + 1 } rest
  | '\\' :: '\n' :: rest =>
      if rest.isEmpty then .stop (s.fail (s.openBracket.getD s.line) false)
      else .skip s.nextLine rest
  | '\\' :: _ => .stop (s.fail s.line false)
  | c :: rest =>
      let marks := cs.takeWhile fun c => c.isAlpha
      let behind := cs.drop marks.length
      if (behind.head? = some '"' || behind.head? = some '\'') &&
        isStringMark marks then
        stringToken s marks behind
      else if isNameStart c then name s cs
      else if c.isDigit || (c = '.' && rest.head?.any Char.isDigit) then
        match number cs with
        | none => .stop (s.fail s.line true)
        | some (value, rest) =>
            .emit (s.token (.number value))
              { s.past (cs.take (cs.length - rest.length))
                with count := s.count + 1 } rest
      else punctuation s cs

-- ================================================================= text

/-- Cuts a text into tokens, at most one per step. The tokens made so far
come the last first. -/
def run : (steps : Nat) → State → List Char → List Token → List Token
  | 0, s, _, made => s.fail s.line true :: made
  | steps + 1, s, cs, made =>
      if s.atLineStart then
        match readMargin {} s cs with
        | .failed t => t :: made
        | .found m s rest =>
            let s := { s with atLineStart := false }
            let blank := rest.head? = some '#' || rest.head? = some '\n'
            if blank || !s.brackets.isEmpty then go steps s blank rest made
            else
              let line := if rest.isEmpty then s.endLine else s.line
              let (tokens, s, stopped) := indentTokens line m s
              if stopped then tokens ++ made
              else go steps s false rest (tokens ++ made)
      else go steps s false cs made
where
  go (steps : Nat) (s : State) (blank : Bool) (cs : List Char)
    (made : List Token) : List Token :=
    match step s blank cs with
    | .skip s rest => run steps s rest made
    | .emit t s rest => run steps s rest (t :: made)
    | .stop t => t :: made

/-- The tokens of a text that starts in a given state. -/
def tokensFrom (s : State) (cs : List Char) : List Token :=
  (run (cs.length + 1) s cs []).reverse

/-- The tokens of a source file. -/
def fileTokens (text : String) : List Token :=
  tokensFrom {} (sourceLines text.toList)

/-- The tokens of a single expression, whose last line need not be ended. -/
def expressionTokens (text : String) : List Token :=
  tokensFrom {} (unifyNewlines text.toList)

end Purity.Lexer
