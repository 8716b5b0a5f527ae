import Periscope.Decimal.Binary

/-!
# The shortest decimal of a double

Of all decimals that read back as the same double, the one with the fewest digits is
chosen, and of those the nearest to the exact value; a tie goes to the even last digit.
The search tries 1, 2, … 17 digits and looks at the two neighbours of the exact value
on each decimal grid.
-/

namespace Periscope

/-- A decimal `digits * 10 ^ exponent`. -/
structure Decimal where
  /-- The digits as a whole number. -/
  digits : Nat
  /-- The power of ten that they count. -/
  exponent : Int
  deriving Repr, DecidableEq

namespace Decimal

/-- The exact value. -/
def quotient (d : Decimal) : Quotient := (⟨d.digits, 1⟩ : Quotient).scale 10 d.exponent

/-- Removes zeros at the end of the digits, at most `fuel` of them. -/
def stripZeros : Nat → Decimal → Decimal
  | 0, d => d
  | fuel + 1, d =>
    if d.digits ≠ 0 ∧ d.digits % 10 = 0 then stripZeros fuel ⟨d.digits / 10, d.exponent + 1⟩
    else d

end Decimal

namespace Shortest

/-- The numbers that round to a double lie between these two bounds. -/
structure Interval where
  /-- Half way to the double below. -/
  lower : Quotient
  /-- Half way to the double above. -/
  upper : Quotient
  /-- Whether both bounds round to the double too. -/
  closed : Bool

/-- The rounding interval of a positive double. Below a power of two the neighbour is
only half as far away. -/
def interval (d : Magnitude) : Interval :=
  let lowerGap := if d.mantissa = leadingBit ∧ d.exponent ≠ -1074 then 1 else 2
  { lower := (⟨4 * d.mantissa - lowerGap, 1⟩ : Quotient).scale 2 (d.exponent - 2)
    upper := (⟨4 * d.mantissa + 2, 1⟩ : Quotient).scale 2 (d.exponent - 2)
    closed := d.mantissa % 2 = 0 }

/-- Whether a number rounds to the double of the interval. -/
def Interval.holds (i : Interval) (r : Quotient) : Bool :=
  match i.lower.order r, r.order i.upper with
  | .lt, .lt => true
  | .eq, .lt => i.closed
  | .lt, .eq => i.closed
  | _, _ => false

/-- The exponent of the leading digit of a positive number, found from an estimate of
its binary length and corrected by at most `fuel` steps. -/
def leadingExponent (value : Quotient) : Nat → Int → Int
  | 0, guess => guess
  | fuel + 1, guess =>
    let scaled := value.scale 10 (-guess)
    if scaled.floor = 0 then leadingExponent value fuel (guess - 1)
    else if 10 ≤ scaled.floor then leadingExponent value fuel (guess + 1)
    else guess

/-- The neighbours of a number on the grid of multiples of `10 ^ exponent` that read
back, the preferred one first. -/
def candidate (value : Quotient) (bounds : Interval) (exponent : Int) : Option Decimal :=
  let scaled := value.scale 10 (-exponent)
  let below : Decimal := ⟨scaled.floor, exponent⟩
  let above : Decimal := ⟨scaled.floor + 1, exponent⟩
  let nearest : Decimal := ⟨scaled.round, exponent⟩
  if bounds.holds nearest.quotient then some nearest
  else if bounds.holds below.quotient then some below
  else if bounds.holds above.quotient then some above
  else none

/-- Tries the grids with `digits`, `digits + 1`, … digits, at most `fuel` of them. -/
def search (value : Quotient) (bounds : Interval) (leading : Int) : Nat → Nat → Decimal
  | 0, digits => ⟨(value.scale 10 (digits - 1 - leading)).round, leading - digits + 1⟩
  | fuel + 1, digits =>
    match candidate value bounds (leading - digits + 1) with
    | some found => found
    | none => search value bounds leading fuel (digits + 1)

/-- The shortest decimal of a finite magnitude. -/
def decimal (d : Magnitude) : Decimal :=
  if d.mantissa = 0 then ⟨0, 0⟩
  else
    let value := d.quotient
    let estimate : Int := ((Nat.log2 d.mantissa : Int) + d.exponent) * 3 / 10
    let leading := leadingExponent value 50 estimate
    (search value (interval d) leading 16 1).stripZeros 20

end Shortest

end Periscope
