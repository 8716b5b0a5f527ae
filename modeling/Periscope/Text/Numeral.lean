/-!
# Decimal numerals

A numeral is an optional sign and at least one ASCII digit. Leading zeros and a
leading `+` are accepted, `-` only where the type has negative values. The reading
function says which of the three things that can go wrong did.
-/

namespace Periscope

/-- Why a text is not a numeral of the wanted range. -/
inductive NumeralError where
  /-- There are no digits at all. -/
  | empty
  /-- A character is no digit. -/
  | invalidDigit
  /-- The number is above the range. -/
  | tooLarge
  /-- The number is below the range. -/
  | tooSmall
  deriving Repr, DecidableEq

/-- The wording of the reason. -/
def NumeralError.message : NumeralError → String
  | .empty => "cannot parse integer from empty string"
  | .invalidDigit => "invalid digit found in string"
  | .tooLarge => "number too large to fit in target type"
  | .tooSmall => "number too small to fit in target type"

/-- The value of an ASCII digit. -/
def digitValue? (c : Char) : Option Nat :=
  if '0' ≤ c ∧ c ≤ '9' then some (c.toNat - '0'.toNat) else none

/-- Reads digits onto the value read so far and stops as soon as `bound` is passed,
so that the first problem from the left is the one reported. -/
def readDigits (bound : Nat) (acc : Nat) : List Char → Except NumeralError Nat
  | [] => .ok acc
  | c :: rest =>
    match digitValue? c with
    | none => .error .invalidDigit
    | some d =>
      if acc * 10 + d ≤ bound then readDigits bound (acc * 10 + d) rest
      else .error .tooLarge

/-- Reads a numeral up to `bound`, without negative values. -/
def readUnsigned (bound : Nat) : List Char → Except NumeralError Nat
  | [] => .error .empty
  | ['+'] => .error .invalidDigit
  | '+' :: digits => readDigits bound 0 digits
  | digits => readDigits bound 0 digits

/-- Reads a numeral between `-magnitude` and `magnitude - 1`. -/
def readSigned (magnitude : Nat) : List Char → Except NumeralError Int
  | [] => .error .empty
  | ['+'] => .error .invalidDigit
  | ['-'] => .error .invalidDigit
  | '+' :: digits => (readDigits (magnitude - 1) 0 digits).map Int.ofNat
  | '-' :: digits =>
    match readDigits magnitude 0 digits with
    | .ok n => .ok (-(n : Int))
    | .error .tooLarge => .error .tooSmall
    | .error e => .error e
  | digits => (readDigits (magnitude - 1) 0 digits).map Int.ofNat

namespace Text

/-- Reads an unsigned 64-bit numeral. -/
def readWord (s : String) : Except NumeralError UInt64 :=
  (readUnsigned (UInt64.size - 1) s.toList).map UInt64.ofNat

/-- Reads a signed 32-bit numeral. -/
def readInt32 (s : String) : Except NumeralError Int32 :=
  (readSigned 2147483648 s.toList).map Int32.ofInt

end Text

end Periscope
