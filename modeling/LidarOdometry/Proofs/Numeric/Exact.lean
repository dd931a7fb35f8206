import Mathlib
import LidarOdometry.Numeric.Scalar

/-!
# Exact Arithmetic

The real numbers are scalars, too. Over them the definitions of the library compute what they
stand for: nothing is rounded, every value is a number, and cells reach as far as the integers do.
There is no rounding error that a spread could be lost in, so the least spread that counts is
zero.

## Main definitions

* `Scalar ℝ`: exact arithmetic.
-/

namespace LidarOdometry

/-- **Exact arithmetic.** -/
noncomputable instance : Scalar ℝ where
  decLt := inferInstance
  decLe := inferInstance
  sqrt := Real.sqrt
  sin := Real.sin
  cos := Real.cos
  arccos := Real.arccos
  pow := fun x y => x ^ y
  floor := Int.floor
  epsilon := 0
  isFinite _ := true

namespace Scalar

/-- The root of a real scalar is the root of the reals. -/
theorem sqrt_real (x : ℝ) : Scalar.sqrt x = Real.sqrt x := rfl

/-- The floor of a real scalar is the floor of the reals. -/
theorem floor_real (x : ℝ) : Scalar.floor x = ⌊x⌋ := rfl

/-- The lesser of two by the scalar's own comparison is their minimum. -/
theorem min_real (x y : ℝ) : Scalar.min x y = min x y := by
  rw [Scalar.min]
  split
  · next hle => exact (min_eq_left hle).symm
  · next hlt => rw [if_pos le_rfl, min_eq_right (le_of_not_ge hlt)]

/-- The greater of two by the scalar's own comparison is their maximum. -/
theorem max_real (x y : ℝ) : Scalar.max x y = max x y := by
  rw [Scalar.max]
  split
  · next hle => exact (max_eq_left hle).symm
  · next hlt => rw [if_pos le_rfl, max_eq_right (le_of_not_ge hlt)]

end Scalar

end LidarOdometry
