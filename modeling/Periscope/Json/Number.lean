import Periscope.Json.Input

/-!
# Reading numbers

A number without point and power of ten that fits 64 bits is an integer. Any other is
a double: as many leading digits as fit 64 bits, times or divided by a power of ten.
Minus zero is a double.
-/

namespace Periscope.Json

/-- A number as it was written. -/
inductive Number where
  /-- An integer that fits 64 bits. -/
  | whole (value : Int)
  /-- Any other number. -/
  | real (value : Float)

/-- A number as a double. -/
def Number.toFloat : Number → Float
  | .whole n => if n < 0 then -(UInt64.ofNat n.natAbs).toFloat else (UInt64.ofNat n.toNat).toFloat
  | .real x => x

/-- Reads digits onto a value for as long as it fits 64 bits. Returns the value, how
many digits were taken and the rest. -/
def takeSignificand (value taken : Nat) : Input → Nat × Nat × Input
  | [] => (value, taken, [])
  | s :: rest =>
    match digit? s with
    | none => (value, taken, s :: rest)
    | some d =>
      if value * 10 + d < UInt64.size then takeSignificand (value * 10 + d) (taken + 1) rest
      else (value, taken, s :: rest)

/-- Drops digits. Returns how many there were and the rest. -/
def dropDigits (dropped : Nat) : Input → Nat × Input
  | [] => (dropped, [])
  | s :: rest => if (digit? s).isSome then dropDigits (dropped + 1) rest else (dropped, s :: rest)

/-- Reads all digits onto a value. -/
def takeDigits (value : Nat) : Input → Nat × Input
  | [] => (value, [])
  | s :: rest =>
    match digit? s with
    | none => (value, s :: rest)
    | some d => takeDigits (value * 10 + d) rest

/-- A power of ten as a double. -/
def powerOfTen (n : Nat) : Float := Float.ofScientific 1 false n

/-- The greatest power of ten that is a double. -/
def greatestPower : Nat := 308

/-- Multiplies by a power of ten, in steps of at most `greatestPower` downwards, and
refuses infinite results. -/
def scaleByTen : Nat → Float → Int → Option Float
  | 0, x, _ => some x
  | fuel + 1, x, exponent =>
    if exponent.natAbs ≤ greatestPower then
      if exponent < 0 then some (x / powerOfTen exponent.natAbs)
      else
        let scaled := x * powerOfTen exponent.natAbs
        if scaled.isInf then none else some scaled
    else if x == 0.0 then some x
    else if exponent < 0 then
      scaleByTen fuel (x / powerOfTen greatestPower) (exponent + greatestPower)
    else none

/-- The double with the given significand and power of ten. -/
def realNumber (negative : Bool) (significand : Nat) (exponent : Int) (rest : Input) :
    Except Fault (Number × Input) :=
  match scaleByTen 4 (UInt64.ofNat significand).toFloat exponent with
  | some x => .ok (.real (if negative then -x else x), rest)
  | none => .error .invalid

/-- The greatest power of ten that is read as a number. -/
def exponentLimit : Nat := 2147483647

/-- Reads what follows the letter of a power of ten. -/
def readPower (negative : Bool) (significand : Nat) (exponent : Int) (input : Input) :
    Except Fault (Number × Input) :=
  let (down, digits) := match input with
    | some '+' :: rest => (false, rest)
    | some '-' :: rest => (true, rest)
    | rest => (false, rest)
  match digits with
  | [] => .error .ended
  | s :: _ =>
    if (digit? s).isNone then .error .invalid
    else
      let (power, rest) := takeDigits 0 digits
      if power ≤ exponentLimit then
        realNumber negative significand (exponent + (if down then -Int.ofNat power else power)) rest
      else if significand ≠ 0 ∧ ¬ down then .error .invalid
      else realNumber negative 0 0 rest

/-- Goes on with a power of ten, if there is one. -/
def readPower? (negative : Bool) (significand : Nat) (exponent : Int) :
    Input → Except Fault (Number × Input)
  | some 'e' :: rest => readPower negative significand exponent rest
  | some 'E' :: rest => readPower negative significand exponent rest
  | rest => realNumber negative significand exponent rest

/-- Reads what follows the point. Digits that no longer fit the significand are
dropped. -/
def readFraction (negative : Bool) (significand : Nat) (exponent : Int) (input : Input) :
    Except Fault (Number × Input) :=
  let (value, taken, rest) := takeSignificand significand 0 input
  if startsWithDigit rest then
    readPower? negative value (exponent - taken) (dropDigits 0 rest).2
  else if taken = 0 then .error (if rest = [] then .ended else .invalid)
  else readPower? negative value (exponent - taken) rest

/-- An integer that fits 64 bits; minus zero and what is below the range are doubles. -/
def wholeNumber (negative : Bool) (value : Nat) : Number :=
  if negative then
    if value = 0 ∨ 9223372036854775808 < value then .real (-(UInt64.ofNat value).toFloat)
    else .whole (-(Int.ofNat value))
  else .whole value

/-- Goes on behind the digits before the point, `dropped` of which did not fit. -/
def readBehindWhole (negative : Bool) (significand dropped : Nat) :
    Input → Except Fault (Number × Input)
  | some '.' :: rest => readFraction negative significand dropped rest
  | some 'e' :: rest => readPower negative significand dropped rest
  | some 'E' :: rest => readPower negative significand dropped rest
  | rest =>
    if dropped = 0 then .ok (wholeNumber negative significand, rest)
    else realNumber negative significand dropped rest

/-- Reads the digits of a number and what follows them. A leading zero stands alone. -/
def readMagnitude (negative : Bool) : Input → Except Fault (Number × Input)
  | [] => .error .ended
  | some '0' :: rest =>
    if startsWithDigit rest then .error .invalid else readBehindWhole negative 0 0 rest
  | input =>
    if startsWithDigit input then
      let (significand, _, rest) := takeSignificand 0 0 input
      let (dropped, rest) := dropDigits 0 rest
      readBehindWhole negative significand dropped rest
    else .error .invalid

/-- Reads a number. -/
def readNumber : Reader Number
  | some '-' :: rest => readMagnitude true rest
  | input => readMagnitude false input

/-- Drops at least one digit. -/
def skipDigits (input : Input) : Except Fault Input :=
  if startsWithDigit input then .ok (dropDigits 0 input).2 else .error .invalid

/-- Drops a power of ten, if there is one. -/
def skipPower : Input → Except Fault Input
  | some 'e' :: some '+' :: rest => skipDigits rest
  | some 'e' :: some '-' :: rest => skipDigits rest
  | some 'e' :: rest => skipDigits rest
  | some 'E' :: some '+' :: rest => skipDigits rest
  | some 'E' :: some '-' :: rest => skipDigits rest
  | some 'E' :: rest => skipDigits rest
  | rest => .ok rest

/-- Drops what may follow the digits before the point. -/
def skipBehindWhole : Input → Except Fault Input
  | some '.' :: rest => do skipPower (← skipDigits rest)
  | rest => skipPower rest

/-- Drops a number whose value does not matter, so that any magnitude will do. A number
that is cut off is invalid here. -/
def skipNumber (input : Input) : Except Fault Input :=
  let digits := match input with
    | some '-' :: rest => rest
    | rest => rest
  match digits with
  | some '0' :: rest => if startsWithDigit rest then .error .invalid else skipBehindWhole rest
  | _ => do skipBehindWhole (← skipDigits digits)

end Periscope.Json
