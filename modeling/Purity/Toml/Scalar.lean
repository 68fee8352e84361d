/-
The small parts of TOML text: blanks and comments, strings, numbers, dates
and times, and keys. A reader takes the text from some place on and gives
what it has read and the rest, or nothing when the text is not TOML there.
Numbers can fail in a second way, by their length.

Consumed by the reader of whole documents.
-/
import Purity.Config.Value

namespace Purity.Toml

-- =============================================================== faults

/-- Why a text is not read. -/
inductive Fault where
  /-- It is not TOML. -/
  | malformed
  /-- It holds a decimal integer with too many digits. -/
  | longInteger

/-- Reading gives a value or a fault. -/
abbrev Reading := Except Fault

/-- A reader that gives nothing says that the text is not TOML. -/
instance : MonadLift Option Reading where
  monadLift
    | some a => .ok a
    | none => .error .malformed

-- =========================================================== characters

/-- Is it a blank inside a line? -/
def isBlank (c : Char) : Bool := c = ' ' || c = '\t'

/-- Is it a blank or a line end? -/
def isSpace (c : Char) : Bool := isBlank c || c = '\n'

/-- May a character not stand in strings and comments of one line? These
are the control characters, apart from the tab. -/
def isIllegal (c : Char) : Bool := (c.toNat < 32 && c ≠ '\t') || c.toNat = 127

/-- The same for strings of several lines. -/
def isIllegalInLines (c : Char) : Bool := isIllegal c && c ≠ '\n'

/-- Can a character stand in a key without quotes? -/
def isKeyChar (c : Char) : Bool := c.isAlphanum || c = '-' || c = '_'

/-- Is it a hexadecimal digit? -/
def isHex (c : Char) : Bool :=
  c.isDigit || ('a' ≤ c && c ≤ 'f') || ('A' ≤ c && c ≤ 'F')

/-- The value of a hexadecimal digit. -/
def hexValue (c : Char) : Nat :=
  if c.isDigit then c.toNat - 48 else if c.toNat ≥ 97 then c.toNat - 87
  else c.toNat - 55

/-- The text behind a beginning that it may have. -/
def stripStart? (start : String) (cs : List Char) : Option (List Char) :=
  if start.toList.isPrefixOf cs then some (cs.drop start.length) else none

/-- Skips blanks. -/
def skipBlanks (cs : List Char) : List Char := cs.dropWhile isBlank

/-- Skips a comment up to the end of its line. -/
def skipComment : List Char → Option (List Char)
  | '#' :: cs =>
      if (cs.takeWhile (· ≠ '\n')).any isIllegal then none
      else some (cs.dropWhile (· ≠ '\n'))
  | cs => some cs

/-- Skips blanks, line ends and comments, as between the items of a list. -/
def skipLines : (steps : Nat) → List Char → Option (List Char)
  | 0, cs => some cs
  | steps + 1, cs => do
      let after ← skipComment (cs.dropWhile isSpace)
      if after.length = cs.length then some after else skipLines steps after

-- ============================================================== strings

/-- A code point given by a number of hexadecimal digits. -/
def codePoint (count : Nat) (cs : List Char) : Option (Char × List Char) :=
  let digits := cs.take count
  let code := digits.foldl (fun n c => n * 16 + hexValue c) 0
  if digits.length = count && digits.all isHex &&
    (code < 0xD800 || (0xE000 ≤ code && code < 0x110000))
  then some (Char.ofNat code, cs.drop count)
  else none

/-- What an escape stands for, from the character behind the backslash on.
In a string of several lines a backslash at the end of a line joins it with
the next text. -/
def escape (lines : Bool) (c : Char) (cs : List Char) :
    Option (List Char × List Char) :=
  if lines && isSpace c then
    let cs := if c = '\n' then some cs else match skipBlanks cs with
      | [] => some []
      | '\n' :: cs => some cs
      | _ => none
    cs.map fun cs => ([], cs.dropWhile isSpace)
  else match c with
    | 'u' => (codePoint 4 cs).map fun (c, cs) => ([c], cs)
    | 'U' => (codePoint 8 cs).map fun (c, cs) => ([c], cs)
    | 'b' => some (['\x08'], cs)
    | 't' => some (['\t'], cs)
    | 'n' => some (['\n'], cs)
    | 'f' => some (['\x0c'], cs)
    | 'r' => some (['\r'], cs)
    | '"' => some (['"'], cs)
    | '\\' => some (['\\'], cs)
    | _ => none

/-- A string with escapes, behind its opening quotes. What was read comes
the last first. -/
def basicBody (lines : Bool) : (steps : Nat) → (read : List Char) → List Char →
    Option (List Char × List Char)
  | 0, _, _ => none
  | _, _, [] => none
  | steps + 1, read, c :: cs =>
      if c = '"' then
        if !lines then some (read.reverse, cs)
        else match cs with
          | '"' :: '"' :: rest => some (read.reverse, rest)
          | _ => basicBody lines steps (c :: read) cs
      else if c = '\\' then match cs with
        | [] => none
        | e :: cs => do
            let (written, rest) ← escape lines e cs
            basicBody lines steps (written.reverse ++ read) rest
      else if (if lines then isIllegalInLines c else isIllegal c) then none
      else basicBody lines steps (c :: read) cs

/-- A string without escapes, behind its opening quote. -/
def literalBody (cs : List Char) : Option (List Char × List Char) :=
  let body := cs.takeWhile (· ≠ '\'')
  match cs.drop body.length with
  | [] => none
  | _ :: rest => if body.any isIllegal then none else some (body, rest)

/-- A string of several lines without escapes, behind its opening quotes. -/
def literalLines (read : List Char) :
    List Char → Option (List Char × List Char)
  | [] => none
  | '\'' :: '\'' :: '\'' :: rest =>
      if read.any isIllegalInLines then none else some (read.reverse, rest)
  | c :: cs => literalLines (c :: read) cs

/-- Up to two quotes directly before the closing ones belong to the text. -/
def extraQuotes (quote : Char) (text : List Char) (cs : List Char) :
    List Char × List Char :=
  let extra := (cs.takeWhile (· = quote)).take 2
  (text ++ extra, cs.drop extra.length)

/-- A string of several lines. A line end directly behind the opening
quotes is left out. -/
def longString (quote : Char) (cs : List Char) :
    Option (List Char × List Char) := do
  let cs := match cs with
    | '\n' :: rest => rest
    | _ => cs
  let (text, rest) ←
    if quote = '"' then basicBody true (cs.length + 1) [] cs
    else literalLines [] cs
  return extraQuotes quote text rest

/-- A string of one line, behind its opening quote. -/
def shortString (quote : Char) (cs : List Char) :
    Option (List Char × List Char) :=
  if quote = '"' then basicBody false (cs.length + 1) [] cs else literalBody cs

/-- A string of either kind, behind its first quote. -/
def string (quote : Char) (cs : List Char) : Option (Value × List Char) := do
  let (text, rest) ← match cs with
    | q1 :: q2 :: rest =>
        if q1 = quote && q2 = quote then longString quote rest
        else shortString quote cs
    | _ => shortString quote cs
  return (.text (String.ofList text), rest)

-- ================================================================= keys

/-- One part of a key. -/
def keyPart (cs : List Char) : Option (String × List Char) :=
  match cs with
  | '"' :: rest =>
      (shortString '"' rest).map fun (text, rest) => (String.ofList text, rest)
  | '\'' :: rest =>
      (shortString '\'' rest).map fun (text, rest) =>
        (String.ofList text, rest)
  | _ =>
      let word := cs.takeWhile isKeyChar
      if word.isEmpty then none
      else some (String.ofList word, cs.drop word.length)

/-- A key: parts with dots between them, and blanks behind. -/
def key : (steps : Nat) → List Char → Option (List String × List Char)
  | 0, _ => none
  | steps + 1, cs => do
      let (part, cs) ← keyPart cs
      match skipBlanks cs with
      | '.' :: rest =>
          let (parts, cs) ← key steps (skipBlanks rest)
          return (part :: parts, cs)
      | cs => return ([part], cs)

-- ====================================================== dates and times

/-- A number of exactly so many digits in a range. -/
def digitsIn (count low high : Nat) (cs : List Char) :
    Option (Nat × List Char) :=
  let digits := cs.take count
  let n := digits.foldl (fun n c => n * 10 + hexValue c) 0
  if digits.length = count && digits.all Char.isDigit && low ≤ n
      && n ≤ high then
    some (n, cs.drop count)
  else none

/-- The text behind one character. -/
def passChar (c : Char) : List Char → Option (List Char)
  | d :: cs => if c = d then some cs else none
  | [] => none

/-- The text behind a time of day. -/
def time (cs : List Char) : Option (List Char) := do
  let (_, cs) ← digitsIn 2 0 23 cs
  let (_, cs) ← digitsIn 2 0 59 (← passChar ':' cs)
  let (_, cs) ← digitsIn 2 0 59 (← passChar ':' cs)
  match cs with
  | '.' :: rest => if rest.head?.any Char.isDigit then
      some (rest.dropWhile Char.isDigit) else some cs
  | _ => some cs

/-- The text behind the distance to the time at the prime meridian, if
there is one. -/
def offset (cs : List Char) : List Char :=
  match cs with
  | c :: rest =>
      if c = 'Z' || c = 'z' then rest
      else if c = '+' || c = '-' then
        (do
          let (_, cs) ← digitsIn 2 0 23 rest
          let (_, cs) ← digitsIn 2 0 59 (← passChar ':' cs)
          return cs).getD cs
      else cs
  | [] => cs

/-- The number of days of a month. -/
def daysIn (year month : Nat) : Nat :=
  if month = 2 then
    if year % 4 = 0 && (year % 100 ≠ 0 || year % 400 = 0) then 29 else 28
  else if month ∈ [4, 6, 9, 11] then 30
  else 31

/-- The text behind a date, and whether the date exists. -/
def date (cs : List Char) : Option (Bool × List Char) := do
  let (year, cs) ← digitsIn 4 0 9999 cs
  let (month, cs) ← digitsIn 2 1 12 (← passChar '-' cs)
  let (day, cs) ← digitsIn 2 1 31 (← passChar '-' cs)
  return (year ≠ 0 && day ≤ daysIn year month, cs)

/-- The text behind the time that may follow a date. -/
def timeAfterDate (cs : List Char) : List Char :=
  match cs with
  | c :: rest =>
      if c = 'T' || c = 't' || c = ' ' then match time rest with
        | some cs => offset cs
        | none => cs
      else cs
  | [] => cs

/-- A date, a time or both. The outer answer says whether the text has that
form at all. -/
def moment (cs : List Char) : Option (Option (Value × List Char)) :=
  match date cs with
  | some (true, rest) => some (some (.moment, timeAfterDate rest))
  | some (false, _) => some none
  | none => (time cs).map fun rest => some (.moment, rest)

-- ============================================================== numbers

/-- Digits that single underscores may divide. -/
def digitRun (isDigit : Char → Bool) : List Char → List Char × List Char
  | '_' :: d :: cs =>
      if isDigit d then
        let (ds, rest) := digitRun isDigit cs
        (d :: ds, rest)
      else ([], '_' :: d :: cs)
  | d :: cs =>
      if isDigit d then
        let (ds, rest) := digitRun isDigit cs
        (d :: ds, rest)
      else ([], d :: cs)
  | [] => ([], [])

/-- At least one digit, and more. -/
def digits (isDigit : Char → Bool) (cs : List Char) :
    Option (List Char × List Char) :=
  if cs.head?.any isDigit then some (digitRun isDigit cs) else none

/-- The number that digits stand for. -/
def valueOf (base : Nat) (ds : List Char) : Nat :=
  ds.foldl (fun n c => n * base + hexValue c) 0

/-- An integer in a base other than ten. -/
def basedInteger (cs : List Char) : Option (Value × List Char) :=
  match cs with
  | '0' :: 'x' :: rest => based 16 isHex rest
  | '0' :: 'o' :: rest => based 8 (fun c => '0' ≤ c && c ≤ '7') rest
  | '0' :: 'b' :: rest => based 2 (fun c => c = '0' || c = '1') rest
  | _ => none
where
  based (base : Nat) (isDigit : Char →
    Bool) (cs : List Char) : Option (Value × List Char) :=
    (digits isDigit cs).map fun (ds, rest) => (.int (valueOf base ds), rest)

/-- The digits before the point: a zero, or digits that start with none. -/
def wholePart (cs : List Char) : Option (List Char × List Char) :=
  match cs with
  | '0' :: rest => some (['0'], rest)
  | _ => digits Char.isDigit cs

/-- The sign of a number, and the rest. -/
def sign (cs : List Char) : Bool × List Char :=
  match cs with
  | '+' :: rest => (false, rest)
  | '-' :: rest => (true, rest)
  | _ => (false, cs)

/-- The digits behind the point, if there are any. -/
def fractionPart (cs : List Char) : Option (List Char × List Char) :=
  match cs with
  | '.' :: rest => digits Char.isDigit rest
  | _ => none

/-- The exponent, if there is one. -/
def exponentPart (cs : List Char) : Option (Int × List Char) :=
  match cs with
  | e :: rest =>
      if e = 'e' || e = 'E' then
        let (negative, rest) := sign rest
        (digits Char.isDigit rest).map fun (ds, rest) =>
          let n : Int := valueOf 10 ds
          (if negative then -n else n, rest)
      else none
  | [] => none

/-- An integer in base ten, unless it is too long. -/
def decimalInteger (negative : Bool) (digits : List Char) : Reading Value :=
  if Decimal.isTooLong digits then .error .longInteger
  else
    let n : Int := valueOf 10 digits
    .ok (.int (if negative then -n else n))

/-- A number in base ten. The outer answer says whether there is one. -/
def decimal (cs : List Char) : Option (Reading (Value × List Char)) := do
  let (negative, cs) := sign cs
  let (whole, cs) ← wholePart cs
  let fraction := fractionPart cs
  let cs := (fraction.map Prod.snd).getD cs
  let exponent := exponentPart cs
  let cs := (exponent.map Prod.snd).getD cs
  if fraction.isNone && exponent.isNone then
    return (decimalInteger negative whole).map fun value => (value, cs)
  else
    let tail := (fraction.map Prod.fst).getD []
    let magnitude := Binary64.ofDecimal (valueOf 10 (whole ++ tail))
      ((exponent.map Prod.fst).getD 0 - (tail.length : Int))
    return .ok (.float negative magnitude, cs)

/-- Infinity, or the sign that a number is undefined. -/
def specialNumber (cs : List Char) : Option (Value × List Char) :=
  let (negative, cs) := sign cs
  match stripStart? "inf" cs with
  | some rest => some (.float negative .infinite, rest)
  | none => (stripStart? "nan" cs).map fun rest => (.notANumber, rest)

/-- A number. -/
def number (cs : List Char) : Reading (Value × List Char) :=
  match basedInteger cs, decimal cs with
  | some found, _ => .ok found
  | none, some reading => reading
  | none, none => specialNumber cs

end Purity.Toml
