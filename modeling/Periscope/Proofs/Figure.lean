import Mathlib.Algebra.Field.Rat
import Mathlib.Algebra.Order.Ring.Rat
import Mathlib.Data.Nat.Cast.Order.Field
import Mathlib.Tactic.FieldSimp
import Mathlib.Tactic.Linarith
import Mathlib.Tactic.Positivity
import Mathlib.Tactic.Ring
import Periscope.Cgroup.Cpu

/-!
# Exact figures

Percentages are computed for any numbers. Read over the rationals the computation is exact: no
step of it rounds, and what it comes to can be compared with what it should come to.
-/

namespace Periscope

/-- Percentages without rounding. -/
instance : Figure ℚ where
  ofWord n := n.toNat
  tenth := 1 / 10
  atMost bound x := min x bound
  isPositive x := decide (0 < x)
  isZero x := decide (x = 0)

namespace Figure

theorem ofWord_rat (n : UInt64) : (ofWord n : ℚ) = n.toNat := rfl

/-- A number that is a word stands for itself. -/
theorem ofWord_ofNat {n : Nat} (h : n < UInt64.size) : (ofWord (UInt64.ofNat n) : ℚ) = n := by
  rw [ofWord_rat, UInt64.toNat_ofNat_of_lt' h]

end Figure

/-- A duration in seconds, to the nanosecond. -/
theorem Duration.inSeconds_rat (d : Duration) : (d.inSeconds : ℚ) = d.nanos / 1000000000 := by
  have hlimit : d.nanos < UInt64.size * nanosPerSecond := d.nanos_lt
  have hseconds : d.seconds < UInt64.size := (Nat.div_lt_iff_lt_mul (by decide)).mpr hlimit
  have hsubsecond : d.subsecond < UInt64.size :=
    Nat.lt_trans (Nat.mod_lt _ (by decide)) (by decide)
  have hsplit : nanosPerSecond * d.seconds + d.subsecond = d.nanos := Nat.div_add_mod _ _
  have hfigure : (d.inSeconds : ℚ) = (d.seconds : ℚ) + d.subsecond / 1000000000 := by
    show Figure.ofWord (UInt64.ofNat d.seconds) + Figure.ofWord (UInt64.ofNat d.subsecond) /
      Figure.ofWord 1000000000 = _
    rw [Figure.ofWord_ofNat hseconds, Figure.ofWord_ofNat hsubsecond]
    rfl
  have hsplit' : (d.nanos : ℚ) = 1000000000 * d.seconds + d.subsecond := by
    rw [← hsplit, nanosPerSecond]
    push_cast
    ring
  rw [hfigure, hsplit']
  ring

end Periscope
