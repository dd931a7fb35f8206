import LidarOdometry.Numeric.Binary64

/-!
# Scalars

The library is written once, over any type that offers the arithmetic of `Scalar`. `Float` is
the type that runs; the same definitions read over an exact field are what statements "in exact
arithmetic" are about.

Comparisons are those of the type itself, and a value that is not a number compares false with
everything. The derived operations below are therefore written as comparisons whose outcome on
such a value is deliberate: `Scalar.min` and `Scalar.max` ignore it.

## Main definitions

* `Scalar`: the operations the library computes with.
* `Scalar.min`, `Scalar.max`: extrema that ignore a value that is not a number.
* `Scalar Float`: 64-bit floating point.
-/

namespace LidarOdometry

/-- **The arithmetic the library computes with**: a field's operations, the order, the few
elementary functions that rotations and weights need, and the passage to integer cells. -/
class Scalar (α : Type) extends Add α, Sub α, Mul α, Div α, Neg α, Zero α, One α, NatCast α,
    OfScientific α, LT α, LE α where
  /-- Strict comparison can be tested. -/
  decLt : DecidableLT α
  /-- Comparison can be tested. -/
  decLe : DecidableLE α
  /-- The square root. -/
  sqrt : α → α
  /-- The sine of an angle in radians. -/
  sin : α → α
  /-- The cosine of an angle in radians. -/
  cos : α → α
  /-- The angle in `[0, π]` with the given cosine. -/
  arccos : α → α
  /-- The first argument raised to the second. -/
  pow : α → α → α
  /-- The greatest integer not above a value, as far as the type's integers reach. -/
  floor : α → Int
  /-- The spread below which a set of points counts as a single point. -/
  epsilon : α
  /-- Neither infinite nor undefined. -/
  isFinite : α → Bool

namespace Scalar

variable {α : Type} [Scalar α]

instance (a b : α) : Decidable (a < b) :=
  decLt a b

instance (a b : α) : Decidable (a ≤ b) :=
  decLe a b

/-- The smaller of two values, or the one that is a number. -/
@[inline] protected def min (a b : α) : α :=
  if a ≤ b then a else if b ≤ b then b else a

/-- The larger of two values, or the one that is a number. -/
@[inline] protected def max (a b : α) : α :=
  if b ≤ a then a else if b ≤ b then b else a

/-- The absolute value. -/
@[inline] protected def abs (a : α) : α :=
  if a < 0 then -a else a

/-- The smallest and the largest of some values, `none` if there are none. Values that are not
numbers count only where there is nothing else. -/
def range? : List α → Option (α × α)
  | [] => none
  | a :: as => some (as.foldl (fun r x => (Scalar.min r.1 x, Scalar.max r.2 x)) (a, a))

end Scalar

/-- 64-bit floating point. Cells saturate at the ends of 64-bit integer range. -/
instance : Scalar Float where
  zero := 0
  one := 1
  natCast n := n.toFloat
  decLt := inferInstance
  decLe := inferInstance
  sqrt := Float.sqrt
  sin := Float.sin
  cos := Float.cos
  arccos := Float.acos
  pow := Float.pow
  floor x := (Binary64.ofFloat x).floor
  epsilon := 2.220446049250313e-16
  isFinite := Float.isFinite

end LidarOdometry
