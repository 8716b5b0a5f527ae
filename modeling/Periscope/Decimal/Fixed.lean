import Periscope.Decimal.Binary

/-!
# Numbers with one decimal place

Tables show figures with one place after the point. The exact value is rounded to the
nearest tenth, and a value halfway between two tenths goes to the even one.
-/

namespace Periscope

/-- A non-negative number of tenths. -/
def tenthsText (tenths : Nat) : String :=
  toString (tenths / 10) ++ "." ++ toString (tenths % 10)

/-- A double with one place after the point. -/
def oneDecimal (x : Float) : String :=
  match DoubleValue.of x with
  | .notANumber => "NaN"
  | .infinite negative => if negative then "-inf" else "inf"
  | .finite negative magnitude =>
    (if negative then "-" else "") ++ tenthsText ((magnitude.quotient.scale 10 1).round)

end Periscope
