import LidarOdometry.Geometry.Eigen
import LidarOdometry.Geometry.Moments

/-!
# Planes Fitted to Points

The plane of least squared distance through a neighbourhood of points: it passes through their
centroid, across the direction in which they vary least.

## Main definitions

* `Plane.fit?`: the fitted plane, `none` where the points have no spread.
* `Plane.signedDistance`: how far a point lies from the plane, along its normal.
-/

namespace LidarOdometry

/-- **A plane with a measure of confidence.** The planarity is `(σ₂ - σ₃) / σ₁`, with the
standard deviations along the principal axes in decreasing order: near `1` for points spread
over a flat patch, near `0` for points along a line or filling a ball. -/
@[ext]
structure Plane (α : Type) where
  center : Vec3 α
  /-- The direction of least variance, of length one. -/
  normal : Vec3 α
  planarity : α
deriving DecidableEq, Repr

namespace Plane

variable {α : Type} [Scalar α] [EigenSolver α]

/-- The standard deviation of an eigenvalue of the covariance. Rounding can leave the smallest
eigenvalue slightly negative. -/
def deviation (p : EigenPair α) : α :=
  Scalar.sqrt (Scalar.max p.value 0)

/-- **The least-squares plane** of some points, `none` with fewer than three of them or if they
all but coincide. -/
def fit? (points : List (Vec3 α)) : Option (Plane α) := do
  let moments := Moments.ofList points
  if moments.count < 3 then none
  else
    let (center, covariance) ← moments.summary?
    let axes := (EigenSolver.decompose covariance).descending
    let σ₁ := deviation axes.first
    let σ₂ := deviation axes.second
    let σ₃ := deviation axes.third
    if σ₁ ≤ Scalar.epsilon then none
    else some ⟨center, axes.third.vector.normalize, (σ₂ - σ₃) / σ₁⟩

omit [EigenSolver α] in
/-- The distance of a point from the plane, positive on the side the normal points to. -/
def signedDistance (plane : Plane α) (p : Vec3 α) : α :=
  plane.normal.dot (p - plane.center)

end Plane

end LidarOdometry
