import LidarOdometry.Geometry.Vector

/-!
# Rotations

Rotations are 3 × 3 matrices. Two other descriptions serve the operations that a matrix is
awkward for: a *rotation vector* (axis times angle, in radians), from which solver updates are
built, and a *versor* (a unit quaternion), along whose great circles orientations are
interpolated.

Nothing here checks that a matrix is a rotation; on other matrices the formulas are taken as
they stand.

## Main definitions

* `Mat3.ofRotationVector`: the rotation about an axis.
* `Mat3.angle`: the angle by which a rotation turns.
* `Versor.ofMat3`, `Versor.toMat3`: between the two descriptions.
* `Mat3.slerp`: interpolation at constant angular speed along the shorter way round.
-/

namespace LidarOdometry

variable {α : Type} [Scalar α]

/-! ### Axis and angle -/

/-- The rotation about the unit vector `u` with the given sine and cosine of the angle. -/
def Mat3.ofAxis (u : Vec3 α) (sin cos : α) : Mat3 α :=
  let versine := 1 - cos
  let xx := u.x * u.x
  let yy := u.y * u.y
  let zz := u.z * u.z
  ⟨⟨xx + (1 - xx) * cos, u.x * u.y * versine - u.z * sin, u.x * u.z * versine + u.y * sin⟩,
   ⟨u.x * u.y * versine + u.z * sin, yy + (1 - yy) * cos, u.y * u.z * versine - u.x * sin⟩,
   ⟨u.x * u.z * versine - u.y * sin, u.y * u.z * versine + u.x * sin, zz + (1 - zz) * cos⟩⟩

/-- **The rotation of a rotation vector**: about the vector's direction, by its length in
radians. The zero vector, which has no direction, gives the identity. -/
def Mat3.ofRotationVector (v : Vec3 α) : Mat3 α :=
  let angle := v.norm
  if angle ≤ 0 then Mat3.identity
  else Mat3.ofAxis (v.divide angle) (Scalar.sin angle) (Scalar.cos angle)

/-- The angle by which a rotation turns, from its trace. The cosine is used as it comes out: a
trace that rounding has pushed beyond the range of a rotation has no angle. -/
def Mat3.angle (m : Mat3 α) : α :=
  Scalar.arccos ((m.trace - 1) / 2.0)

/-! ### Versors -/

/-- A quaternion with real part `w` and imaginary part `(i, j, k)`; of length one wherever it
stands for a rotation. -/
@[ext]
structure Versor (α : Type) where
  i : α
  j : α
  k : α
  w : α
deriving DecidableEq, Repr

namespace Versor

instance : Neg (Versor α) := ⟨fun p => ⟨-p.i, -p.j, -p.k, -p.w⟩⟩

/-- The inner product of the four coordinates. -/
def dot (p q : Versor α) : α :=
  (p.i * q.i + p.k * q.k) + (p.j * q.j + p.w * q.w)

/-- The combination `p a + q b`. -/
def combine (p q : Versor α) (a b : α) : Versor α :=
  ⟨p.i * a + q.i * b, p.j * a + q.j * b, p.k * a + q.k * b, p.w * a + q.w * b⟩

/-- **The versor of a rotation matrix.** Of the four coordinates the one that the diagonal
shows to be large is found first, from a square root; the others follow by division by it, which
is therefore never a division by a small number. -/
def ofMat3 (m : Mat3 α) : Versor α :=
  let quarter : α := 0.25
  if 0 < m.trace then
    let d := Scalar.sqrt (m.trace + 1) * 2.0
    ⟨(m.z.y - m.y.z) / d, (m.x.z - m.z.x) / d, (m.y.x - m.x.y) / d, quarter * d⟩
  else if m.y.y < m.x.x ∧ m.z.z < m.x.x then
    let d := Scalar.sqrt (1 + m.x.x - m.y.y - m.z.z) * 2.0
    ⟨quarter * d, (m.x.y + m.y.x) / d, (m.x.z + m.z.x) / d, (m.z.y - m.y.z) / d⟩
  else if m.z.z < m.y.y then
    let d := Scalar.sqrt (1 + m.y.y - m.x.x - m.z.z) * 2.0
    ⟨(m.x.y + m.y.x) / d, quarter * d, (m.y.z + m.z.y) / d, (m.x.z - m.z.x) / d⟩
  else
    let d := Scalar.sqrt (1 + m.z.z - m.x.x - m.y.y) * 2.0
    ⟨(m.x.z + m.z.x) / d, (m.y.z + m.z.y) / d, quarter * d, (m.y.x - m.x.y) / d⟩

/-- The rotation matrix of a versor. -/
def toMat3 (q : Versor α) : Mat3 α :=
  let two : α := 2.0
  let ww := q.w * q.w
  let ii := q.i * q.i
  let jj := q.j * q.j
  let kk := q.k * q.k
  let ij := q.i * q.j * two
  let wk := q.w * q.k * two
  let wj := q.w * q.j * two
  let ik := q.i * q.k * two
  let jk := q.j * q.k * two
  let wi := q.w * q.i * two
  ⟨⟨ww + ii - jj - kk, ij - wk, wj + ik⟩,
   ⟨wk + ij, ww - ii + jj - kk, jk - wi⟩,
   ⟨ik - wj, wi + jk, ww - ii - jj + kk⟩⟩

/-- The versor at the fraction `t` of the arc from `p` to `q`, which have a non-negative inner
product. An arc too short to have a direction stays at `p`. -/
def arc (p q : Versor α) (t : α) : Versor α :=
  let cosine := p.dot q
  if 1 ≤ cosine then p
  else
    let angle := Scalar.arccos cosine
    let sine := Scalar.sqrt (1 - cosine * cosine)
    if sine ≤ Scalar.epsilon then p
    else combine p q (Scalar.sin ((1 - t) * angle) / sine) (Scalar.sin (t * angle) / sine)

/-- **Spherical interpolation.** Of the two versors that stand for the target orientation the
nearer one is taken, so that the arc goes the shorter way round. -/
def slerp (p q : Versor α) (t : α) : Versor α :=
  if p.dot q < 0 then arc p (-q) t else arc p q t

end Versor

/-- The orientation at the fraction `t` of the way from `m` to `n`, turning at constant speed. -/
def Mat3.slerp (m n : Mat3 α) (t : α) : Mat3 α :=
  ((Versor.ofMat3 m).slerp (Versor.ofMat3 n) t).toMat3

end LidarOdometry
