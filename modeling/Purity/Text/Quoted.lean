/-
Quoted text, as shown in messages. A text stands between single quotes,
or between double quotes when it holds a single quote and no double one.
The quote in use, backslashes and characters that cannot be printed are
written as escapes, so the written form tells two texts apart whatever
they hold.

Consumed by diagnostics, by log records and by the expression printer.
-/
import Purity.Text.CharClass

namespace Purity.Text

-- ======================================================== hexadecimal

/-- The digit of a number below sixteen. -/
def hexDigit (n : Nat) : Char :=
  if n < 10 then Char.ofNat (48 + n) else Char.ofNat (87 + n)

/-- Exactly `width` hexadecimal digits, the highest first. -/
def hexDigits : (width : Nat) → (n : Nat) → List Char
  | 0, _ => []
  | width + 1, n => hexDigits width (n / 16) ++ [hexDigit (n % 16)]

/-- The escape of a code point: two, four or eight digits, as few as
hold it. -/
def codeEscape (code : Nat) : List Char :=
  if code < 0x100 then '\\' :: 'x' :: hexDigits 2 code
  else if code < 0x10000 then '\\' :: 'u' :: hexDigits 4 code
  else '\\' :: 'U' :: hexDigits 8 code

-- ============================================================= quoting

/-- How one character is written between quotes of the given kind. -/
def escapeChar (quote c : Char) : List Char :=
  if c = quote ∨ c = '\\' then ['\\', c]
  else if c = '\n' then ['\\', 'n']
  else if c = '\r' then ['\\', 'r']
  else if c = '\t' then ['\\', 't']
  else if isPrintable c then [c]
  else codeEscape c.toNat

/-- The quote a text is written with. -/
def quoteFor (text : List Char) : Char :=
  if '\'' ∈ text ∧ '"' ∉ text then '"' else '\''

/-- The written form of a text. -/
def quotedChars (text : List Char) : List Char :=
  let quote := quoteFor text
  quote :: text.flatMap (escapeChar quote) ++ [quote]

/-- The written form of a text. -/
def quoted (text : String) : String := String.ofList (quotedChars text.toList)

end Purity.Text
