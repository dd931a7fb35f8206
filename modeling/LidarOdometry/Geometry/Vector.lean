import LidarOdometry.Numeric.Scalar

/-!
# Vectors and Matrices of Space

Three-dimensional vectors and 3 × 3 matrices over a scalar type, with the products the library
needs. Sums of three products are formed from the left, so that a result is fixed to the last
digit wherever rounding makes the order visible.

A matrix is kept by rows; its rows are named by the axis of the result that they produce.

## Main definitions

* `Vec3`, with `dot`, `cross`, `norm` and the outer product `Vec3.outer`.
* `Mat3`, with its action `mulVec` on vectors, products and transposes.
-/

namespace LidarOdometry

/-- A vector of space, or the coordinates of a point. -/
@[ext]
structure Vec3 (α : Type) where
  x : α
  y : α
  z : α
deriving DecidableEq, Repr

/-- A 3 × 3 matrix, by rows. -/
@[ext]
structure Mat3 (α : Type) where
  x : Vec3 α
  y : Vec3 α
  z : Vec3 α
deriving DecidableEq, Repr

variable {α : Type} [Scalar α]

namespace Vec3

instance : Zero (Vec3 α) := ⟨⟨0, 0, 0⟩⟩
instance : Add (Vec3 α) := ⟨fun v w => ⟨v.x + w.x, v.y + w.y, v.z + w.z⟩⟩
instance : Sub (Vec3 α) := ⟨fun v w => ⟨v.x - w.x, v.y - w.y, v.z - w.z⟩⟩
instance : Neg (Vec3 α) := ⟨fun v => ⟨-v.x, -v.y, -v.z⟩⟩

/-- Every coordinate multiplied by `k`. -/
def scale (v : Vec3 α) (k : α) : Vec3 α :=
  ⟨v.x * k, v.y * k, v.z * k⟩

/-- Every coordinate divided by `k`. -/
def divide (v : Vec3 α) (k : α) : Vec3 α :=
  ⟨v.x / k, v.y / k, v.z / k⟩

/-- The inner product. -/
def dot (v w : Vec3 α) : α :=
  v.x * w.x + v.y * w.y + v.z * w.z

/-- The vector product. -/
def cross (v w : Vec3 α) : Vec3 α :=
  ⟨v.y * w.z - v.z * w.y, v.z * w.x - v.x * w.z, v.x * w.y - v.y * w.x⟩

/-- The squared length. -/
def normSq (v : Vec3 α) : α :=
  v.dot v

/-- The length. -/
def norm (v : Vec3 α) : α :=
  Scalar.sqrt v.normSq

/-- The direction of a vector, of length one. -/
def normalize (v : Vec3 α) : Vec3 α :=
  v.divide v.norm

/-- The matrix `v wᵀ`. -/
def outer (v w : Vec3 α) : Mat3 α :=
  ⟨w.scale v.x, w.scale v.y, w.scale v.z⟩

/-- The coordinates in axis order. -/
def toList (v : Vec3 α) : List α :=
  [v.x, v.y, v.z]

/-- The point reached from `v` towards `w` after the fraction `t` of the way: `v (1 - t) + w t`.
At `t = 1` this is `w t` alone, so that nothing of `v`, were it infinite, remains. -/
def lerp (v w : Vec3 α) (t : α) : Vec3 α :=
  let rest := 1 - t
  if rest ≤ 0 ∧ 0 ≤ rest then w.scale t else w.scale t + v.scale rest

end Vec3

namespace Mat3

/-- The identity matrix. -/
def identity : Mat3 α :=
  ⟨⟨1, 0, 0⟩, ⟨0, 1, 0⟩, ⟨0, 0, 1⟩⟩

instance : Zero (Mat3 α) := ⟨⟨0, 0, 0⟩⟩
instance : Add (Mat3 α) := ⟨fun m n => ⟨m.x + n.x, m.y + n.y, m.z + n.z⟩⟩
instance : Sub (Mat3 α) := ⟨fun m n => ⟨m.x - n.x, m.y - n.y, m.z - n.z⟩⟩

/-- Every entry divided by `k`. -/
def divide (m : Mat3 α) (k : α) : Mat3 α :=
  ⟨m.x.divide k, m.y.divide k, m.z.divide k⟩

/-- The matrix with rows and columns exchanged. -/
def transpose (m : Mat3 α) : Mat3 α :=
  ⟨⟨m.x.x, m.y.x, m.z.x⟩, ⟨m.x.y, m.y.y, m.z.y⟩, ⟨m.x.z, m.y.z, m.z.z⟩⟩

/-- The image of a vector. -/
def mulVec (m : Mat3 α) (v : Vec3 α) : Vec3 α :=
  ⟨m.x.dot v, m.y.dot v, m.z.dot v⟩

/-- The matrix product: column by column, the images of the columns of `n`. -/
def mul (m n : Mat3 α) : Mat3 α :=
  let columns := n.transpose
  ⟨columns.mulVec m.x, columns.mulVec m.y, columns.mulVec m.z⟩

instance : Mul (Mat3 α) := ⟨mul⟩

/-- The sum of the diagonal entries. -/
def trace (m : Mat3 α) : α :=
  m.x.x + m.y.y + m.z.z

end Mat3

end LidarOdometry
