/-
Text from bytes, by the rules of UTF-8: no overlong forms, no surrogates,
nothing above the last code point. Bytes that follow no rule are reported
with their place: the first broken sequence, as far as it is the start of
a valid one.

Consumed by the reading of source files and of configuration files.
-/
import Purity.Text.Quoted

namespace Purity.Text

/-- What is wrong with a sequence of bytes. -/
inductive Utf8Reason where
  /-- The byte starts no sequence. -/
  | invalidStart
  /-- A byte does not continue the sequence before it. -/
  | invalidContinuation
  /-- The bytes end inside a sequence. -/
  | unexpectedEnd
  deriving DecidableEq

/-- A place where bytes are not UTF-8. -/
structure Utf8Fault where
  /-- The position of the broken sequence. -/
  start : Nat
  /-- The bytes of it that could start a valid one, at least one. -/
  bytes : List UInt8
  reason : Utf8Reason
  deriving DecidableEq

namespace Utf8Fault

/-- The wording of a reason. -/
def reasonText (f : Utf8Fault) : String :=
  match f.reason with
  | .invalidStart => "invalid start byte"
  | .invalidContinuation => "invalid continuation byte"
  | .unexpectedEnd => "unexpected end of data"

/-- The wording of a fault. -/
def message (f : Utf8Fault) : String :=
  let place := match f.bytes with
    | [b] =>
        "byte 0x" ++ String.ofList (hexDigits 2 b.toNat) ++ " in position " ++
          toString f.start
    | bs =>
        "bytes in position " ++ toString f.start ++ "-" ++
          toString (f.start + bs.length - 1)
  "'utf-8' codec can't decode " ++ place ++ ": " ++ f.reasonText

end Utf8Fault

/-- Does a byte continue a sequence? -/
def isContinuation (b : UInt8) : Bool := 0x80 ≤ b && b < 0xC0

/-- The bytes that may follow the first byte of a sequence directly. -/
def maySecond (first second : UInt8) : Bool :=
  isContinuation second
    && (first != 0xE0 || 0xA0 ≤ second) && (first != 0xED || second < 0xA0)
    && (first != 0xF0 || 0x90 ≤ second) && (first != 0xF4 || second < 0x90)

/-- The number of bytes that follow the first byte of a sequence. -/
def followers (first : UInt8) : Option Nat :=
  if first < 0x80 then some 0
  else if first < 0xC2 then none
  else if first < 0xE0 then some 1
  else if first < 0xF0 then some 2
  else if first < 0xF5 then some 3
  else none

/-- The bits that the first byte of a sequence contributes. -/
def leadBits (first : UInt8) (count : Nat) : Nat :=
  match count with
  | 0 => first.toNat
  | 1 => first.toNat % 32
  | 2 => first.toNat % 16
  | _ => first.toNat % 8

/-- Reads `count` more bytes of a sequence. `taken` are those read so far,
the last first. -/
def continueSequence (start : Nat) :
    (count : Nat) → (code : Nat) → (taken : List UInt8) →
    List UInt8 → Except Utf8Fault (Nat × List UInt8)
  | 0, code, _, rest => .ok (code, rest)
  | _ + 1, _, taken, [] =>
      .error { start, bytes := taken.reverse, reason := .unexpectedEnd }
  | count + 1, code, taken, b :: rest =>
      let fits := match taken with
        | [first] => maySecond first b
        | _ => isContinuation b
      if fits then
        continueSequence start count (code * 64 + b.toNat % 64) (b :: taken)
          rest
      else
        .error {
          start, bytes := taken.reverse, reason := .invalidContinuation }

/-- Reads all sequences, one per step at most. -/
def decodeFrom : (steps : Nat) → (start : Nat) → List UInt8 → List Char →
    Except Utf8Fault (List Char)
  | 0, _, _, made => .ok made.reverse
  | _ + 1, _, [], made => .ok made.reverse
  | steps + 1, start, b :: rest, made =>
      match followers b with
      | none => .error { start, bytes := [b], reason := .invalidStart }
      | some count =>
          match continueSequence start count (leadBits b count) [b] rest with
          | .error f => .error f
          | .ok (code, rest) =>
              decodeFrom steps (start + count + 1) rest
                (Char.ofNat code :: made)

/-- The text that bytes stand for. -/
def decodeUtf8 (bytes : List UInt8) : Except Utf8Fault String :=
  (decodeFrom bytes.length 0 bytes []).map String.ofList

end Purity.Text
