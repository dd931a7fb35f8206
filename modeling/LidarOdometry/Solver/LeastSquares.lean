import LidarOdometry.Numeric.Scalar

/-!
# Damped Least Squares

A Gauss-Newton step minimises a weighted sum of squared linearised residuals. The normal
equations gather the residuals; adding a damping term to their diagonal and solving them gives
the step.

The solver is Cholesky's, written as a recursion on the number of unknowns: eliminate the first
unknown, solve what is left, substitute back. It succeeds exactly on systems all of whose
pivots are positive.

## Main definitions

* `NormalEquations`: the matrix and the right-hand side gathered so far.
* `NormalEquations.add`: one more weighted residual.
* `solvePositiveDefinite`: the solution of a symmetric positive definite system.
* `NormalEquations.solve`: the damped step.
-/

namespace LidarOdometry

variable {α : Type} [Scalar α]

/-! ### Symmetric positive definite systems -/

/-- A square matrix, by rows. -/
abbrev Square (α : Type) (n : Nat) := Vector (Vector α n) n

/-- Whether a value is above zero; a value that is not a number is not. -/
def isPivot (a : α) : Bool :=
  decide (0 < a)

/-- **The solution of a symmetric positive definite system**, `none` if a pivot is not positive.
Only the lower triangle of the matrix is read.

With the first unknown eliminated, the remaining ones satisfy a system of one dimension less;
their solution gives the first one by substitution. -/
def solvePositiveDefinite : (n : Nat) → Square α n → Vector α n → Option (Vector α n)
  | 0, _, b => some b
  | n + 1, a, b =>
      let pivot := a[0][0]
      if isPivot pivot then do
        let root := Scalar.sqrt pivot
        let column : Vector α n := Vector.ofFn fun i => a[i.val + 1][0] / root
        let head := b[0] / root
        let reduced : Square α n := Vector.ofFn fun i => Vector.ofFn fun j =>
          a[i.val + 1][j.val + 1] - column[j.val] * column[i.val]
        let rest : Vector α n := Vector.ofFn fun i => b[i.val + 1] - head * column[i.val]
        let tail ← solvePositiveDefinite n reduced rest
        let product := (column.zip tail).foldl (fun sum (c, x) => sum + c * x) 0
        return Vector.ofFn fun i : Fin (n + 1) =>
          if h : i.val = 0 then (head - product) / root
          else tail.get ⟨i.val - 1, by omega⟩
      else none

/-! ### Normal equations -/

/-- **The normal equations** `H δ = -g` of a least-squares problem in `n` unknowns. -/
structure NormalEquations (α : Type) (n : Nat) where
  matrix : Square α n
  gradient : Vector α n

namespace NormalEquations

variable {n : Nat}

/-- The equations of no residuals. -/
def zero : NormalEquations α n :=
  ⟨Vector.replicate n (Vector.replicate n 0), Vector.replicate n 0⟩

/-- **One more residual**: adds `weight * (residual + row · δ)²` to the problem. -/
def add (e : NormalEquations α n) (row : Vector α n) (residual weight : α) :
    NormalEquations α n :=
  let scaled := residual * weight
  { matrix := e.matrix.zipWith (fun entries r =>
      entries.zipWith (fun h c => h + r * c * weight) row) row
    gradient := e.gradient.zipWith (fun g r => g + r * scaled) row }

/-- The matrix with the damping added to its diagonal. -/
def damped (e : NormalEquations α n) (damping : α) : Square α n :=
  e.matrix.mapFinIdx fun i entries hi => entries.set i (entries[i] + damping)

/-- **The damped step**, `none` if the damped system is not positive definite. -/
def solve (e : NormalEquations α n) (damping : α) : Option (Vector α n) :=
  (solvePositiveDefinite n (e.damped damping) e.gradient).map fun δ => δ.map (- ·)

end NormalEquations

end LidarOdometry
