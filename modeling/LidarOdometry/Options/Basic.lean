import LidarOdometry.Solver.Options
import LidarOdometry.Voxel.Map

/-!
# Odometry Options

The options of the odometry engine, and the named profiles they start from.

## Main definitions

* `Compensation`, `Initialization`: how motion during a scan is undone, and how it is guessed.
* `OdometryOptions`, with the profiles `OdometryOptions.driving` and
  `OdometryOptions.slowOutdoor`.
* `OdometryOptions.resolvedSolver`, `OdometryOptions.density`, `OdometryOptions.gridSizes`:
  what the parts of the engine are told.
-/

namespace LidarOdometry

/-- **How the motion of the sensor during a scan is undone.** -/
inductive Compensation where
  /-- Not at all. -/
  | none
  /-- Once, before registration, with the guessed motion. -/
  | constantVelocity
  /-- Again after every iteration of the solver. -/
  | iterative
  /-- By estimating the poses at the start and at the finish jointly. -/
  | continuous
deriving DecidableEq, Repr

/-- Whether the solver places keypoints along the scan. -/
def Compensation.placesAlongScan : Compensation → Bool
  | .none | .constantVelocity => false
  | .iterative | .continuous => true

/-- What the solver estimates. -/
def Compensation.metric : Compensation → Metric
  | .none | .constantVelocity | .iterative => .rigid
  | .continuous => .continuous

/-- **How the motion over the next scan is guessed.** -/
inductive Initialization where
  /-- The sensor rests where it was. -/
  | rest
  /-- The sensor moves on as it did between the last two scans. -/
  | constantVelocity
deriving DecidableEq, Repr

/-- **The options of the odometry engine.** -/
@[ext]
structure OdometryOptions (α : Type) where
  /-- The voxel size by which a scan is thinned while the map is young. -/
  youngThinningSize : α
  /-- The voxel size by which keypoints are drawn while the map is young. -/
  youngKeypointSize : α
  /-- The number of scans during which the map counts as young. -/
  youngScans : Nat
  /-- The voxel size by which a scan is thinned afterwards. -/
  thinningSize : α
  /-- The voxel size by which keypoints are drawn afterwards. -/
  keypointSize : α
  /-- Voxels farther than this from the last position are dropped from the map. -/
  maxDistance : α
  /-- The most points a voxel of the map may hold. -/
  maxPointsPerVoxel : Nat
  /-- Whether every scan is reported prominently. -/
  verbose : Bool
  /-- The least distance between two points of a voxel of the map. -/
  minPointDistance : α
  /-- The largest accepted distance between a guessed pose and the registered one. -/
  maxCorrection : α
  /-- Whether a failed registration is tried again with more conservative parameters. -/
  robust : Bool
  /-- The share of keypoints in full voxels below which the overlap with the map is sparse. -/
  sparseOverlap : α
  /-- The guessed shift above which a wider neighbourhood is searched at once. -/
  wideningDistance : α
  /-- The guessed rotation, in radians, above which a wider neighbourhood is searched at once. -/
  wideningRotation : α
  /-- The largest accepted gap to the previous scan, per scan period elapsed. -/
  maxGap : α
  /-- Whether attempts end once one fails by a wide margin. -/
  failEarly : Bool
  /-- The most attempts at registering a scan. -/
  maxAttempts : Nat
  /-- The widest neighbourhood that further attempts go to. -/
  maxNeighborhood : Nat
  /-- How many times over its threshold a measure has to be for a wide margin. -/
  failEarlyRatio : α
  /-- The expected time between two scans, in seconds. -/
  scanPeriod : α
  /-- A scan with fewer keypoints is registered all the same, but counts as thin. -/
  minKeypoints : Nat
  compensation : Compensation
  initialization : Initialization
  solver : SolverOptions α
deriving DecidableEq, Repr

namespace OdometryOptions

variable {α : Type}

/-! ### Profiles -/

/-- **The driving profile**: fast motion with little distortion, such as a car on a road. -/
def driving [Scalar α] : OdometryOptions α where
  youngThinningSize := 0.2
  youngKeypointSize := 1.0
  youngScans := 20
  thinningSize := 0.5
  keypointSize := 1.5
  maxDistance := 100.0
  maxPointsPerVoxel := 20
  verbose := true
  minPointDistance := 0.1
  maxCorrection := 5.0
  robust := false
  sparseOverlap := 0.7
  wideningDistance := 0.10
  wideningRotation := 0.01
  maxGap := 1.0
  failEarly := false
  maxAttempts := 6
  maxNeighborhood := 4
  failEarlyRatio := 2.0
  scanPeriod := 0.1
  minKeypoints := 1
  compensation := .continuous
  initialization := .constantVelocity
  solver := { SolverOptions.standard with
    maxPlaneDistance := 0.5, iterations := 30, neighborhood := 1 }

/-- **The slow outdoor profile**: abrupt motion at low speed, such as a handheld sensor or a
wheeled robot, registered robustly. -/
def slowOutdoor [Scalar α] : OdometryOptions α :=
  { driving with thinningSize := 0.8, robust := true, maxAttempts := 10 }

/-! ### What the parts of the engine are told -/

/-- The options of the solver, with what the compensation mode decides. -/
def resolvedSolver (o : OdometryOptions α) : SolverOptions α :=
  { o.solver with
    compensate := o.compensation.placesAlongScan
    metric := o.compensation.metric
    youngScans := o.youngScans }

/-- The density of the map. -/
def density (o : OdometryOptions α) : Density α :=
  ⟨o.maxPointsPerVoxel, o.minPointDistance⟩

/-- The voxel sizes by which the scan with the given number is thinned and its keypoints are
drawn. -/
def gridSizes (o : OdometryOptions α) (index : Nat) : α × α :=
  if index < o.youngScans then (o.youngThinningSize, o.youngKeypointSize)
  else (o.thinningSize, o.keypointSize)

end OdometryOptions

end LidarOdometry
