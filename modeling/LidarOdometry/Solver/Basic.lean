import LidarOdometry.Scan.Motion
import LidarOdometry.Solver.Options
import LidarOdometry.Voxel.Map

/-!
# Solvers

A solver estimates the motion of the sensor over a scan from the scan's keypoints, the map and
a first guess. The rest of the library knows solvers only by this interface, so it works alike
with any of them. A solver may keep a memory between calls; one that does not has the memory
`Unit`. It answers in a monad: in `Id` it always does, and in `Option` it may give no answer, which
is not one of its failures and ends the registration.

## Main definitions

* `Problem`: what a solver reads.
* `Registered`: what it finds.
* `SolverError`: why it may fail.
* `Solver`: the interface.
* `Solver.pure`: a solver without memory.
-/

namespace LidarOdometry

/-- **Everything a solver may read** to register one scan. -/
structure Problem (α : Type) where
  map : VoxelMap α
  /-- The points to align, in raw coordinates with their phases. -/
  keypoints : List (ScanPoint α)
  guess : ScanMotion α
  /-- The motion over the last registered scan, if any. -/
  previous : Option (ScanMotion α)
  /-- The number of scans registered before. -/
  index : Nat

/-- **A registered scan.** -/
structure Registered (α : Type) where
  motion : ScanMotion α
  /-- The keypoints, placed with the motion. -/
  keypoints : List (ScanPoint α)
  /-- The number of residuals in the last iteration. -/
  residuals : Nat
deriving DecidableEq, Repr

/-- **Why a solver fails.** -/
inductive SolverError where
  | tooFewResiduals (found required : Nat)
  /-- The normal equations are not positive definite. -/
  | degenerate
  /-- The step is not finite. -/
  | diverged
deriving DecidableEq, Repr

/-- The wording of a failure. -/
def SolverError.message : SolverError → String
  | tooFewResiduals found required => s!"too few residuals: {found} < {required}"
  | degenerate => "degenerate normal equations"
  | diverged => "pose update diverged"

/-- **A registration solver** with a memory of type `σ`. -/
abbrev Solver (σ α : Type) (M : Type → Type := Id) :=
  Problem α → SolverOptions α → StateT σ M (Except SolverError (Registered α))

/-- A solver without memory: equal questions get equal answers. -/
def Solver.pure {α : Type}
    (answer : Problem α → SolverOptions α → Except SolverError (Registered α)) : Solver Unit α :=
  fun problem options => Pure.pure (answer problem options)

end LidarOdometry
