/-!
# What a JSON reader reads

A document is a list of symbols: its characters, with a mark for each byte that belongs
to no character. A reader takes symbols from the front and reports the first problem
from the left, which is either that the text ended or that it is not what was wanted.
-/

namespace Periscope.Json

/-- A character, or `none` for a byte that belongs to no character. -/
abbrev Symbol := Option Char

/-- The symbols that are left to read. -/
abbrev Input := List Symbol

/-- Why reading stopped. `nullNumber` is a `null` where a number was wanted, with the
count of the symbols behind it. -/
inductive Fault where
  /-- The text ended. -/
  | ended
  /-- The text is not what was wanted. -/
  | invalid
  /-- There is a `null` where a number was wanted. -/
  | nullNumber (left : Nat)
  deriving Repr, DecidableEq

/-- Reads a value from the front of the input. -/
abbrev Reader (α : Type) := StateT Input (Except Fault) α

/-- The symbols of bytes, from a position on, at most `fuel` of them. -/
def symbolsFrom (bytes : ByteArray) : Nat → Nat → Input
  | 0, _ => []
  | fuel + 1, position =>
    if position < bytes.size then
      match bytes.utf8DecodeChar? position with
      | some c => some c :: symbolsFrom bytes fuel (position + c.utf8Size)
      | none => none :: symbolsFrom bytes fuel (position + 1)
    else []

/-- The symbols of a text. -/
def symbolsOf (s : String) : Input := s.toList.map some

/-- The symbols of bytes. -/
def symbolsOfBytes (bytes : ByteArray) : Input :=
  match String.fromUTF8? bytes with
  | some s => symbolsOf s
  | none => symbolsFrom bytes bytes.size 0

/-- The blanks between the parts of a document. -/
def isSpace (s : Symbol) : Bool :=
  s = some ' ' || s = some '\n' || s = some '\t' || s = some '\r'

/-- The input behind its leading blanks. -/
def skipSpaces (input : Input) : Input := input.dropWhile isSpace

/-- The next symbol behind blanks, which are dropped. -/
def peek : Reader (Option Symbol) := fun input =>
  .ok ((skipSpaces input).head?, skipSpaces input)

/-- Like `peek`, where the text must not end. -/
def peekValue : Reader Symbol := do
  match ← peek with
  | some s => pure s
  | none => throw .ended

/-- Drops the next symbol. -/
def advance : Reader Unit := modify List.tail

/-- Takes a word from the front; a text that ends inside the word has ended too early. -/
def takeWord : List Char → Reader Unit
  | [], input => .ok ((), input)
  | _ :: _, [] => .error .ended
  | c :: word, s :: rest => if s = some c then takeWord word rest else .error .invalid

/-- The value of a digit. -/
def digit? : Symbol → Option Nat
  | some c => if '0' ≤ c ∧ c ≤ '9' then some (c.toNat - '0'.toNat) else none
  | none => none

/-- Whether the input starts with a digit. -/
def startsWithDigit : Input → Bool
  | [] => false
  | s :: _ => (digit? s).isSome

end Periscope.Json
