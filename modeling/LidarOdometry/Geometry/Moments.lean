import LidarOdometry.Geometry.Vector

/-!
# Moments of a Point Set

The count, the sum and the sum of outer products of some vectors, gathered in one pass, and the
centroid and covariance that they determine.

## Main definitions

* `Moments.ofList`: the accumulated moments.
* `Moments.centroid`, `Moments.covariance`: mean and biased covariance.
* `Moments.summary?`: both, where there is at least one vector.
-/

namespace LidarOdometry

/-- The first and second moments of a list of vectors. -/
structure Moments (α : Type) where
  count : Nat
  sum : Vec3 α
  products : Mat3 α

namespace Moments

variable {α : Type} [Scalar α]

/-- The moments of no vectors. -/
def empty : Moments α :=
  ⟨0, 0, 0⟩

/-- One vector more. -/
def add (m : Moments α) (v : Vec3 α) : Moments α :=
  ⟨m.count + 1, m.sum + v, m.products + v.outer v⟩

/-- The moments of a list, its vectors added in order. -/
def ofList (vs : List (Vec3 α)) : Moments α :=
  vs.foldl add empty

/-- The mean of the vectors. -/
def centroid (m : Moments α) : Vec3 α :=
  m.sum.divide (m.count : α)

/-- The mean of the outer products less the outer product of the mean. -/
def covariance (m : Moments α) : Mat3 α :=
  m.products.divide (m.count : α) - m.centroid.outer m.centroid

/-- Centroid and covariance, `none` for no vectors. -/
def summary? (m : Moments α) : Option (Vec3 α × Mat3 α) :=
  if m.count = 0 then none else some (m.centroid, m.covariance)

end Moments

end LidarOdometry
