import LidarOdometry.Geometry.Vector

/-!
# Principal Axes of a Symmetric Matrix

Fitting a plane to points needs the principal axes of their covariance. What the fit relies on
is only that the three axes are orthonormal and diagonalise the matrix, in whatever order they
come; so the decomposition is an operation of the class `EigenSolver`, and statements about the
fit can assume that property of any solver.

The solver that runs is the cyclic Jacobi method. A plane rotation cancels one off-diagonal
entry; turning the names of the axes round by one place brings the next entry into the same
position, so one rotation formula serves for all three.

## Main definitions

* `EigenPair`, `Eigensystem`: eigenvalues with their unit vectors.
* `EigenSolver`: the operation `decompose`.
* `Eigensystem.descending`: the same pairs, largest eigenvalue first.
* `Mat3.jacobi`: the cyclic Jacobi method.
-/

namespace LidarOdometry

/-- An eigenvalue and a vector that the matrix scales by it. -/
structure EigenPair (α : Type) where
  value : α
  vector : Vec3 α
deriving DecidableEq, Repr

/-- The three eigenpairs of a symmetric matrix, in no particular order. -/
structure Eigensystem (α : Type) where
  first : EigenPair α
  second : EigenPair α
  third : EigenPair α
deriving DecidableEq, Repr

/-- **A decomposition of symmetric matrices** into eigenvalues and eigenvectors. -/
class EigenSolver (α : Type) where
  /-- The eigenpairs of a symmetric matrix. -/
  decompose : Mat3 α → Eigensystem α

variable {α : Type} [Scalar α]

/-- The pairs ordered by decreasing eigenvalue. Pairs are inserted one after the other, each in
front of those with a strictly smaller eigenvalue, so equal eigenvalues keep their order. -/
def Eigensystem.descending (e : Eigensystem α) : Eigensystem α :=
  let (a, b) := if e.first.value < e.second.value then (e.second, e.first) else (e.first, e.second)
  let c := e.third
  if b.value < c.value then
    if a.value < c.value then ⟨c, a, b⟩ else ⟨a, c, b⟩
  else ⟨a, b, c⟩

/-! ### The Jacobi method -/

/-- A symmetric matrix on its way to diagonal form, with the axes reached so far. -/
structure JacobiState (α : Type) where
  xx : α
  yy : α
  zz : α
  xy : α
  yz : α
  zx : α
  axisX : Vec3 α
  axisY : Vec3 α
  axisZ : Vec3 α

namespace JacobiState

/-- The given matrix, with the coordinate axes. -/
def ofMat3 (m : Mat3 α) : JacobiState α :=
  ⟨m.x.x, m.y.y, m.z.z, m.y.x, m.z.y, m.z.x, ⟨1, 0, 0⟩, ⟨0, 1, 0⟩, ⟨0, 0, 1⟩⟩

/-- The sum of the absolute off-diagonal entries. -/
def offDiagonal (s : JacobiState α) : α :=
  Scalar.abs s.xy + Scalar.abs s.yz + Scalar.abs s.zx

/-- Turns the first two axes in their plane so that the entry between them vanishes. Of the two
angles that do so the smaller one is taken. -/
def rotate (s : JacobiState α) : JacobiState α :=
  if s.xy ≤ 0 ∧ 0 ≤ s.xy then s
  else
    let ratio := (s.yy - s.xx) / (s.xy * 2.0)
    let magnitude := 1 / (Scalar.abs ratio + Scalar.sqrt (ratio * ratio + 1))
    let tangent := if ratio < 0 then -magnitude else magnitude
    let cosine := 1 / Scalar.sqrt (tangent * tangent + 1)
    let sine := tangent * cosine
    { xx := s.xx - tangent * s.xy
      yy := s.yy + tangent * s.xy
      zz := s.zz
      xy := 0
      yz := s.zx * sine + s.yz * cosine
      zx := s.zx * cosine - s.yz * sine
      axisX := s.axisX.scale cosine - s.axisY.scale sine
      axisY := s.axisX.scale sine + s.axisY.scale cosine
      axisZ := s.axisZ }

/-- The same matrix with its axes renamed: the second first, the first last. -/
def cycle (s : JacobiState α) : JacobiState α :=
  ⟨s.yy, s.zz, s.xx, s.yz, s.zx, s.xy, s.axisY, s.axisZ, s.axisX⟩

/-- One rotation in each of the three coordinate planes; the names come back to where they
were. -/
def sweep (s : JacobiState α) : JacobiState α :=
  s.rotate.cycle.rotate.cycle.rotate.cycle

/-- At most the given number of sweeps, until nothing of note is left off the diagonal. -/
def sweeps : Nat → JacobiState α → JacobiState α
  | 0, s => s
  | n + 1, s => if s.offDiagonal ≤ 1e-30 then s else sweeps n s.sweep

end JacobiState

/-- The largest absolute value of an entry. -/
def Mat3.largestEntry (m : Mat3 α) : α :=
  let entries := m.x.toList ++ m.y.toList ++ m.z.toList
  entries.foldl (fun largest e => Scalar.max largest (Scalar.abs e)) 0

/-- **The cyclic Jacobi method.** The matrix is brought to entries of at most one first, so that
no product of two of them overflows. The off-diagonal entries shrink quadratically; a dozen
sweeps are more than any matrix needs. -/
def Mat3.jacobi (m : Mat3 α) : Eigensystem α :=
  let largest := m.largestEntry
  let unit := if 0 < largest then largest else 1
  let s := (JacobiState.ofMat3 (m.divide unit)).sweeps 12
  ⟨⟨s.xx * unit, s.axisX⟩, ⟨s.yy * unit, s.axisY⟩, ⟨s.zz * unit, s.axisZ⟩⟩

instance : EigenSolver Float where
  decompose := Mat3.jacobi

end LidarOdometry
