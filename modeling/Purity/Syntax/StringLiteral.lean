/-
String literals: what a literal's text stands for. Escapes are resolved
for texts and for bytes; a formatted string is cut into texts and
replacement fields, whose expressions are left as located characters for
the grammar. No result means a malformed literal.

Consumed by the grammar of expressions.
-/
import Purity.Syntax.Lexer
import Purity.Text.CharName
import Purity.Text.CodePoint

namespace Purity.StringLiteral

open Text (CodePoint)

-- ============================================================== escapes

/-- The escapes of one letter. -/
def simpleEscape : Char → Option Char
  | '\\' => some '\\'
  | '\'' => some '\''
  | '"' => some '"'
  | 'a' => some '\x07'
  | 'b' => some '\x08'
  | 'f' => some '\x0c'
  | 'n' => some '\n'
  | 'r' => some '\r'
  | 't' => some '\t'
  | 'v' => some '\x0b'
  | _ => none

/-- Exactly `count` hexadecimal digits at the start of a text. -/
def hexNumber (count : Nat) (cs : List Char) : Option Nat :=
  let digits := cs.take count
  if digits.length = count && digits.all Lexer.isHexDigit then
    some (Lexer.digitsValue 16 digits)
  else none

/-- The character that a name in braces stands for, and the length of the
name. -/
def namedEscape (cs : List Char) : Option (Char × Nat) :=
  match cs with
  | '\x7b' :: rest => do
      let name := rest.takeWhile (· ≠ '\x7d')
      if name.length = rest.length then none
      else return (← Text.charNamed? name, name.length)
  | _ => none

/-- What one escape gives: the code points it stands for and how many
characters behind the backslash it takes. -/
def escape (bytes : Bool) (cs : List Char) : Option (List CodePoint × Nat) :=
  match cs with
  | [] => none
  | '\n' :: _ => some ([], 1)
  | c :: rest =>
      if let some plain := simpleEscape c then some ([.char plain], 1)
      else if Lexer.isOctalDigit c then
        let digits := (cs.take 3).takeWhile Lexer.isOctalDigit
        let value := Lexer.digitsValue 8 digits
        some ([.char (Char.ofNat (if bytes then value % 256 else value))],
          digits.length)
      else if c = 'x' then
        (hexNumber 2 rest).map fun n => ([.char (Char.ofNat n)], 3)
      else if bytes then some (Text.points ['\\', c], 1)
      else if c =
        'u' then do return ([← CodePoint.ofNat? (← hexNumber 4 rest)], 5)
      else if c =
        'U' then do return ([← CodePoint.ofNat? (← hexNumber 8 rest)], 9)
      else if c = 'N' then (namedEscape rest).map fun (named, length) =>
        ([.char named], length + 3)
      else some (Text.points ['\\', c], 1)

/-- Resolves the escapes of a text, at most one per step. -/
def resolve (bytes : Bool) :
    (steps : Nat) → List Char → Option (List CodePoint)
  | 0, _ => some []
  | _, [] => some []
  -- before a field, a backslash can be the last character
  | _, ['\\'] => some [.char '\\']
  | steps + 1, '\\' :: cs => do
      let (plain, taken) ← escape bytes cs
      return plain ++ (← resolve bytes steps (cs.drop taken))
  | steps + 1, c :: cs => do return .char c :: (← resolve bytes steps cs)

/-- The text that the body of a literal stands for. -/
def textOf (raw : Bool) (body : List Char) : Option (List CodePoint) :=
  if raw then some (Text.points body) else resolve false (body.length + 1) body

/-- The bytes that the body of a literal stands for. Only ASCII may be
written. -/
def bytesOf (raw : Bool) (body : List Char) : Option (List UInt8) :=
  if body.any fun c => c.toNat ≥ 128 then none
  else (if raw then some (Text.points body)
    else resolve true (body.length + 1) body).map
    fun text => text.map fun p => p.code.toUInt8

-- ==================================================== formatted strings

/-- A character and its place in the source. -/
structure Located where
  char : Char
  line : Nat
  column : Nat

/-- Gives every character of a text its place. -/
def locate (line column : Nat) : List Char → List Located
  | [] => []
  | c :: cs =>
      ⟨c, line, column⟩ ::
        (if c = '\n' then locate (line + 1) 0 cs
          else locate line (column + c.utf8Size) cs)

/-- The characters without their places. -/
def chars (cs : List Located) : List Char := cs.map Located.char

/-- The tokens of a field's expression behind its brace. Brackets around it
let it start with blanks and go over several lines. -/
def fieldTokens (brace : Located) (expression : List Located) : List Token :=
  Lexer.tokensFrom { line := brace.line,
                     column := brace.column,
                     atLineStart := false }
    ('(' :: chars expression ++ [')'])

/-- A piece of a formatted string. -/
inductive Piece where
  | text (value : List CodePoint)
  /-- A replacement field: the brace that opens it, the text of its
  expression, a conversion, and the pieces of its format. -/
  | field (brace : Located) (expression : List Located)
      (conversion : Option Char)
      (format : Option (List Piece))

/-- How a piece of literal text ends. -/
structure Scanned where
  text : List Char
  /-- A doubled brace was passed, and more literal text may follow. -/
  doubled : Bool
  rest : List Located

/-- Reads literal text up to a brace. Outside formats a doubled brace
stands for one, and a closing brace alone is malformed. -/
def scanText (raw top : Bool) :
    (steps : Nat) → List Char → List Located → Option Scanned
  | 0, acc, rest => some ⟨acc.reverse, false, rest⟩
  | _, acc, [] => some ⟨acc.reverse, false, []⟩
  | steps + 1, acc, c :: cs =>
      if c.char = '\\' && !raw then
        match cs with
        | [] => some ⟨(c.char :: acc).reverse, false, []⟩
        | d :: ds =>
            if d.char = 'N' then
              match ds with
              | ⟨'\x7b', _, _⟩ :: _ =>
                  let name := ds.takeWhile (·.char ≠ '\x7d')
                  let taken := ds.take (name.length + 1)
                  scanText raw top steps
                    ((chars taken).reverse ++ d.char :: c.char :: acc)
                    (ds.drop (name.length + 1))
              | e :: es =>
                  scanText raw top steps (e.char :: d.char :: c.char :: acc) es
              | [] => some ⟨(d.char :: c.char :: acc).reverse, false, []⟩
            else if d.char = '\x7b' || d.char = '\x7d' then
              brace (c.char :: acc) d ds
            else scanText raw top steps (d.char :: c.char :: acc) ds
      else if c.char = '\x7b' || c.char = '\x7d' then brace acc c cs
      else scanText raw top steps (c.char :: acc) cs
where
  brace (acc : List Char) (b : Located) (rest : List Located) :
      Option Scanned :=
    if top then
      match rest with
      | b' :: rest' =>
          if b'.char = b.char then some ⟨(b.char :: acc).reverse, true, rest'⟩
          else if b.char = '\x7d' then none
          else some ⟨acc.reverse, false, b :: rest⟩
      | [] => if b.char = '\x7d' then none else some ⟨acc.reverse, false, [b]⟩
    else some ⟨acc.reverse, false, b :: rest⟩

/-- Where the reading of a field's expression stands: inside a string with
this quote (long or not), and inside these brackets. -/
structure FieldState where
  quote : Option (Char × Bool) := none
  brackets : List Char := []

/-- The number of brackets that a field's expression can nest. -/
def fieldBracketLimit : Nat := 200

/-- Do two more characters like this one follow it? -/
def isTripled (c : Located) : List Located → Bool
  | d :: e :: _ => d.char == c.char && e.char == c.char
  | _ => false

/-- Reads the expression of a field up to what ends it: a conversion, a
format, an equals sign or the closing brace, outside strings and brackets.
Backslashes and comment signs are malformed. -/
def scanExpression : (steps : Nat) → FieldState → List Located → List Located →
    Option (List Located × List Located)
  | 0, _, _, _ => none
  | _, _, _, [] => none
  | steps + 1, s, acc, c :: cs =>
      let go (s : FieldState) := scanExpression steps s (c :: acc) cs
      let skipTwo (s : FieldState) := scanExpression steps s
        ((cs.take 2).reverse ++ c :: acc) (cs.drop 2)
      if c.char = '\\' then none
      else match s.quote with
      | some (q, long) =>
          if c.char ≠ q then go s
          else if !long then go { s with quote := none }
          else if isTripled c cs then skipTwo { s with quote := none }
          else go s
      | none =>
          if c.char = '\'' || c.char = '"' then
            if isTripled c cs then
              skipTwo { s with quote := some (c.char, true) }
            else go { s with quote := some (c.char, false) }
          else if c.char = '[' || c.char = '\x7b' || c.char = '(' then
            if s.brackets.length ≥ fieldBracketLimit then none
            else go { s with brackets := c.char :: s.brackets }
          else if c.char = '#' then none
          else if s.brackets.isEmpty && "!:\x7d=><".toList.contains c.char then
            match cs with
            | d :: ds =>
                if d.char = '=' && "!=<>".toList.contains c.char then
                  scanExpression steps s (d :: c :: acc) ds
                else if c.char = '>' || c.char = '<' then go s
                else some (acc.reverse, c :: cs)
            | [] =>
                if c.char = '>' || c.char = '<' then go s
                else some (acc.reverse, c :: cs)
          else if c.char = ']' || c.char = '\x7d' || c.char = ')' then
            match s.brackets with
            | opening :: outer =>
                if Lexer.matches? opening c.char then
                  go { s with brackets := outer }
                else none
            | [] => none
          else go s

/-- Is it a blank between an equals sign and what follows? -/
def isSpace (c : Char) : Bool :=
  c = ' ' || c = '\t' || c = '\n' || c = '\r' || c = '\x0b' || c = '\x0c'

/-- What the body of a formatted string was cut into. -/
structure Cut where
  pieces : List Piece
  /-- What is left, which outside a format is nothing. -/
  rest : List Located
  /-- Nothing behind the pieces is malformed. -/
  sound : Bool

/-- Puts pieces in front. -/
def Cut.after (pieces : List Piece) (cut : Cut) : Cut :=
  { cut with pieces := pieces ++ cut.pieces }

/-- An equals sign behind the expression of a field shows it: the text to
show, and what follows the sign and its blanks. -/
def shownText (expression : List Char) :
    List Located → Option (List Char) × List Located
  | ⟨'=', _, _⟩ :: cs =>
      let blanks := cs.takeWhile fun (c : Located) => isSpace c.char
      (some (expression ++ '=' :: chars blanks), cs.drop blanks.length)
  | cs => (none, cs)

/-- The text of a field up to its closing brace or its format: the sign that
its expression is shown, and a conversion. Nothing is returned for an
unknown conversion. -/
def fieldMarks (expression : List Char) (cs : List Located) :
    Option (Option (List Char) × Option Char × List Located) :=
  let (shown, cs) := shownText expression cs
  match cs with
  | ⟨'!', _, _⟩ :: c :: rest =>
      if c.char = 's' || c.char = 'r' || c.char = 'a' then
        some (shown, some c.char, rest)
      else none
  | ⟨'!', _, _⟩ :: [] => none
  | _ => some (shown, none, cs)

/-- Cuts the body of a formatted string into pieces. `level` counts the
formats around it; fields nest one level deep. The cut ends where something
is malformed, behind the expression of a field that is not closed. -/
def pieces (raw : Bool) : (steps level : Nat) → List Located → Cut
  | 0, _, cs => ⟨[], cs, false⟩
  | steps + 1, level, cs =>
      match scanText raw (level == 0) (cs.length + 1) [] cs with
      | none => ⟨[], cs, false⟩
      | some scanned =>
          match textOf raw scanned.text with
          | none => ⟨[], cs, false⟩
          | some text =>
              let literal : List Piece :=
                if text.isEmpty then [] else [.text text]
              if scanned.doubled then
                (pieces raw steps level scanned.rest).after literal
              else match scanned.rest with
                | [] => ⟨literal, [], true⟩
                | b :: cs =>
                    if b.char = '\x7d' then ⟨literal, b :: cs, true⟩
                    else if level ≥ 2 then ⟨literal, cs, false⟩
                    else match scanExpression (cs.length + 1) {} [] cs with
                      | none => ⟨literal, cs, false⟩
                      | some (expression, cs) =>
                          if (chars expression).all isBlank then
                            ⟨literal, cs, false⟩
                          else field steps level b expression cs literal
where
  /-- An expression of these alone is none. -/
  isBlank (c : Char) : Bool := c = ' ' || c = '\t' || c = '\n' || c = '\x0c'
  field (steps level : Nat) (brace : Located) (expression cs : List Located)
    (before : List Piece) :
      Cut :=
    let plain := Piece.field brace expression none none
    match fieldMarks (chars expression) cs with
    | none => ⟨before ++ [plain], cs, false⟩
    | some (shown, conversion, cs) =>
        let before :=
          before ++ shown.toList.map fun cs => Piece.text (Text.points cs)
        let whole := Piece.field brace expression
        match cs with
        | [⟨':', _, _⟩] => ⟨before ++ [plain], [], false⟩
        | ⟨':', _, _⟩ :: rest =>
            let format := pieces raw steps (level + 1) rest
            let before := before ++ [whole conversion (some format.pieces)]
            if format.sound then closed steps level before format.rest
            else ⟨before, [], false⟩
        | _ =>
            let conversion :=
              if shown.isSome && conversion.isNone then some 'r'
              else conversion
            closed steps level (before ++ [whole conversion none]) cs
  /-- Goes on behind the brace that closes a field. -/
  closed (steps level : Nat) (before : List Piece) : List Located → Cut
    | ⟨'\x7d', _, _⟩ :: cs => (pieces raw steps level cs).after before
    | cs => ⟨before, cs, false⟩

/-- The pieces of a whole formatted string. -/
def formatCut (raw : Bool) (line column : Nat) (body : List Char) : Cut :=
  let cut := pieces raw (2 * body.length + 2) 0 (locate line column body)
  { cut with sound := cut.sound && cut.rest.isEmpty }

/-- The pieces of a formatted string that is well formed. -/
def formatPieces (raw : Bool) (line column : Nat) (body : List Char) :
    Option (List Piece) :=
  let cut := formatCut raw line column body
  if cut.sound then some cut.pieces else none

end Purity.StringLiteral
