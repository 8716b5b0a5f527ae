import Periscope.Json.Input

/-!
# Reading texts

A text stands between quotes. A backslash starts an escape; a character outside the
basic plane takes two escapes in a row. A kept text must be proper Unicode, while a
text that is only skipped may hold any bytes and halves of escape pairs.
-/

namespace Periscope.Json

/-- What comes next inside a text. -/
inductive Piece where
  /-- The quote at the end. -/
  | close
  /-- A character. -/
  | char (c : Char)
  /-- A byte that belongs to no character. -/
  | broken
  deriving Repr, DecidableEq

/-- The value of a hexadecimal digit. -/
def hexValue? : Symbol → Option Nat
  | some c =>
    if '0' ≤ c ∧ c ≤ '9' then some (c.toNat - '0'.toNat)
    else if 'a' ≤ c ∧ c ≤ 'f' then some (c.toNat - 'a'.toNat + 10)
    else if 'A' ≤ c ∧ c ≤ 'F' then some (c.toNat - 'A'.toNat + 10)
    else none
  | none => none

/-- The number of bytes of a symbol. -/
def symbolBytes : Symbol → Nat
  | some c => c.utf8Size
  | none => 1

/-- The number of bytes of an input. -/
def inputBytes (input : Input) : Nat := input.foldl (fun count s => count + symbolBytes s) 0

/-- Reads the four digits of an escape. With less than four bytes left the text has
ended, whatever these bytes are. -/
def readUnit (input : Input) : Except Fault (Nat × Input) :=
  if inputBytes (input.take 4) < 4 then .error .ended
  else
    match input with
    | a :: b :: c :: d :: rest =>
      match hexValue? a, hexValue? b, hexValue? c, hexValue? d with
      | some a, some b, some c, some d => .ok (((a * 16 + b) * 16 + c) * 16 + d, rest)
      | _, _, _, _ => .error .invalid
    | _ => .error .invalid

/-- The first of the pair of units of a character outside the basic plane. -/
def isLeading (unit : Nat) : Bool := 0xD800 ≤ unit && unit ≤ 0xDBFF

/-- The second of such a pair. -/
def isTrailing (unit : Nat) : Bool := 0xDC00 ≤ unit && unit ≤ 0xDFFF

/-- The character of a pair. -/
def pairedChar (leading trailing : Nat) : Char :=
  Char.ofNat (0x10000 + (leading - 0xD800) * 0x400 + (trailing - 0xDC00))

/-- Reads the digits of an escape and, if they are the first of a pair, the second
escape. -/
def readEscapedUnit (input : Input) : Except Fault (Piece × Input) := do
  let (unit, rest) ← readUnit input
  if isTrailing unit then .error .invalid
  else if isLeading unit then
    match rest with
    | [] => .error .ended
    | some '\\' :: [] => .error .ended
    | some '\\' :: some 'u' :: rest =>
      let (second, rest) ← readUnit rest
      if isTrailing second then .ok (.char (pairedChar unit second), rest) else .error .invalid
    | _ => .error .invalid
  else .ok (.char (Char.ofNat unit), rest)

/-- The character of an escape of one letter. -/
def escapedChar? : Symbol → Option Char
  | some '"' => some '"'
  | some '\\' => some '\\'
  | some '/' => some '/'
  | some 'b' => some '\x08'
  | some 'f' => some '\x0c'
  | some 'n' => some '\n'
  | some 'r' => some '\r'
  | some 't' => some '\t'
  | _ => none

/-- Reads one piece. `unit` reads what follows the letter of a numeric escape. -/
def readPiece (unit : Input → Except Fault (Piece × Input)) : Input → Except Fault (Piece × Input)
  | [] => .error .ended
  | some '"' :: rest => .ok (.close, rest)
  | some '\\' :: [] => .error .ended
  | some '\\' :: some 'u' :: rest => unit rest
  | some '\\' :: s :: rest =>
    match escapedChar? s with
    | some c => .ok (.char c, rest)
    | none => .error .invalid
  | some c :: rest => if c.toNat < 0x20 then .error .invalid else .ok (.char c, rest)
  | none :: rest => .ok (.broken, rest)

/-- Reads pieces up to the closing quote, at most one for each symbol of `bound`, onto the
characters read so far in reverse. A byte that belongs to no character is noticed at the
end. -/
def readPieces : Input → List Char → Bool → Input → Except Fault (List Char × Input)
  | [], _, _, _ => .error .ended
  | _ :: bound, read, sound, input => do
    match ← readPiece readEscapedUnit input with
    | (.close, rest) => if sound then .ok (read.reverse, rest) else .error .invalid
    | (.char c, rest) => readPieces bound (c :: read) sound rest
    | (.broken, rest) => readPieces bound read false rest

/-- Reads a text behind its opening quote. -/
def readQuoted : Reader String := fun input => do
  let (read, rest) ← readPieces (none :: input) [] true input
  .ok (String.ofList read, rest)

/-- Reads the digits of an escape and forgets them. -/
def skipUnit (input : Input) : Except Fault (Piece × Input) := do
  let (_, rest) ← readUnit input
  .ok (.broken, rest)

/-- Drops pieces up to the closing quote, at most one for each symbol of `bound`. -/
def skipPieces : Input → Input → Except Fault Input
  | [], _ => .error .ended
  | _ :: bound, input => do
    match ← readPiece skipUnit input with
    | (.close, rest) => .ok rest
    | (_, rest) => skipPieces bound rest

/-- Drops a text behind its opening quote. -/
def skipQuoted : Reader Unit := fun input => do
  .ok ((), ← skipPieces (none :: input) input)

end Periscope.Json
