import LidarOdometry.Numeric.Scalar

/-!
# Solver Options

What a registration solver is told besides the scan and the map.

## Main definitions

* `Metric`: which poses a residual depends on.
* `SolverOptions`: the options, with their standard values `SolverOptions.standard`.
-/

namespace LidarOdometry

/-- **What the solver estimates.** -/
inductive Metric where
  /-- One rigid motion for the whole scan. -/
  | rigid
  /-- The poses at the start and at the finish of the scan, jointly. -/
  | continuous
deriving DecidableEq, Repr

/-- **The options of a solver.** -/
@[ext]
structure SolverOptions (α : Type) where
  /-- The voxel size of the map that is searched. -/
  voxelSize : α
  /-- The most iterations. -/
  iterations : Nat
  /-- The radius, in voxels, of the neighbourhood searched around a keypoint. -/
  neighborhood : Nat
  /-- Fewer neighbours than this give no plane. -/
  minNeighbors : Nat
  /-- The most neighbours a plane is fitted to. -/
  maxNeighbors : Nat
  /-- A residual is weighted by the planarity of its plane raised to this power. -/
  planarityPower : α
  /-- Keypoints farther from their plane are dropped. -/
  maxPlaneDistance : α
  /-- The iteration stops once the rotation of a step is below this angle and its shift below
  `shiftThreshold`. -/
  rotationThreshold : α
  shiftThreshold : α
  /-- How strongly the start of the scan is pulled onto the finish of the previous one. -/
  locationWeight : α
  /-- How strongly the displacement during the scan is kept at the previous one. -/
  velocityWeight : α
  /-- Fewer residuals than this fail the registration. -/
  minResiduals : Nat
  /-- The damping added to the diagonal of the normal equations. -/
  damping : α
  /-- Whether keypoints are placed with the pose at their own phase. -/
  compensate : Bool
  metric : Metric
  /-- The number of scans registered with a wider neighbourhood while the map is young. -/
  youngScans : Nat
deriving DecidableEq, Repr

/-- The options that hold where nothing else is said. -/
def SolverOptions.standard {α : Type} [Scalar α] : SolverOptions α where
  voxelSize := 1.0
  iterations := 10
  neighborhood := 1
  minNeighbors := 20
  maxNeighbors := 20
  planarityPower := 2.0
  maxPlaneDistance := 0.3
  rotationThreshold := 1e-4
  shiftThreshold := 1e-3
  locationWeight := 0.001
  velocityWeight := 0.001
  minResiduals := 100
  damping := 1e-6
  compensate := true
  metric := .continuous
  youngScans := 20

/-- The same options with a neighbourhood of at least two voxels. -/
def SolverOptions.widened {α : Type} (o : SolverOptions α) : SolverOptions α :=
  { o with neighborhood := max o.neighborhood 2 }

end LidarOdometry
