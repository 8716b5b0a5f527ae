/-!
# Exact values of floating-point numbers

A finite double is a sign, a whole number and a power of two. Decimal texts are made
from this exact value with whole-number arithmetic.
-/

namespace Periscope

/-- A non-negative number `mantissa * 2 ^ exponent`. -/
structure Magnitude where
  /-- The whole number. -/
  mantissa : Nat
  /-- The power of two that it counts. -/
  exponent : Int
  deriving Repr, DecidableEq

/-- A double taken apart. -/
inductive DoubleValue where
  | notANumber
  | infinite (negative : Bool)
  | finite (negative : Bool) (magnitude : Magnitude)
  deriving Repr, DecidableEq

/-- The bit of a normal double's mantissa that is not stored. -/
def leadingBit : Nat := Nat.pow 2 52

/-- Reads sign, exponent and fraction from the 64 bits of a double. -/
def DoubleValue.ofBits (bits : UInt64) : DoubleValue :=
  let word := bits.toNat
  let negative := decide (Nat.pow 2 63 ≤ word)
  let biased := word / leadingBit % 2048
  let fraction := word % leadingBit
  if biased = 2047 then
    if fraction = 0 then .infinite negative else .notANumber
  else if biased = 0 then .finite negative ⟨fraction, -1074⟩
  else .finite negative ⟨leadingBit + fraction, Int.ofNat biased - 1075⟩

/-- The double taken apart. -/
def DoubleValue.of (x : Float) : DoubleValue := .ofBits x.toBits

/-- A non-negative fraction of whole numbers, not necessarily in lowest terms. -/
structure Quotient where
  /-- What is divided. -/
  numerator : Nat
  /-- What it is divided by. -/
  denominator : Nat
  deriving Repr, DecidableEq

namespace Quotient

/-- Multiplies by a power of `base`, which may be negative. -/
def scale (base : Nat) (power : Int) (r : Quotient) : Quotient :=
  match power with
  | .ofNat k => ⟨r.numerator * base.pow k, r.denominator⟩
  | .negSucc k => ⟨r.numerator, r.denominator * base.pow (k + 1)⟩

/-- The greatest whole number that is not larger. -/
def floor (r : Quotient) : Nat := r.numerator / r.denominator

/-- Compares by cross multiplication. -/
def order (a b : Quotient) : Ordering :=
  compare (a.numerator * b.denominator) (b.numerator * a.denominator)

/-- The nearest whole number; of two equally near ones, the even one. -/
def round (r : Quotient) : Nat :=
  let below := r.numerator / r.denominator
  match compare (2 * (r.numerator % r.denominator)) r.denominator with
  | .lt => below
  | .eq => if below % 2 = 0 then below else below + 1
  | .gt => below + 1

end Quotient

/-- The exact value as a fraction. -/
def Magnitude.quotient (d : Magnitude) : Quotient := (⟨d.mantissa, 1⟩ : Quotient).scale 2 d.exponent

end Periscope
