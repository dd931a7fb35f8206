import LidarOdometry.Options.Basic

/-!
# Validity of Options

Options are valid if every size is positive, no threshold is negative and the counts leave
something to do. Invalid options are reported by the first requirement that they miss, in a
fixed order. A value that is not a number misses every requirement on values.

## Main definitions

* `Requirement`: what is asked of an option, with the value that misses it.
* `OptionFault`: a requirement missed by a named option.
* `OdometryOptions.validate`: the first fault.
-/

namespace LidarOdometry

/-- **A requirement on an option**, with the value that misses it where that is of interest. -/
inductive Requirement (α : Type) where
  | positive (got : α)
  | nonnegative (got : α)
  | atLeastOne
  | atMostMaxNeighbors
deriving DecidableEq, Repr

/-- **A requirement that an option misses.** The option has its name in settings files. -/
structure OptionFault (α : Type) where
  field : String
  requirement : Requirement α
deriving DecidableEq, Repr

/-- The wording of a requirement, values being written by `write`. -/
def Requirement.message {α : Type} (write : α → String) : Requirement α → String
  | positive got => "must be positive, got " ++ write got
  | nonnegative got => "must not be negative, got " ++ write got
  | atLeastOne => "must be at least 1"
  | atMostMaxNeighbors => "must not exceed solver.max_number_neighbors"

namespace OdometryOptions

variable {α : Type} [Scalar α]

/-- Asks a value to be above zero. -/
def requirePositive (field : String) (value : α) : Except (OptionFault α) Unit :=
  if 0 < value then .ok () else .error ⟨field, .positive value⟩

/-- Asks a value not to be below zero. -/
def requireNonnegative (field : String) (value : α) : Except (OptionFault α) Unit :=
  if 0 ≤ value then .ok () else .error ⟨field, .nonnegative value⟩

/-- Asks a count not to be zero. -/
def requireSome (field : String) (count : Nat) : Except (OptionFault α) Unit :=
  if count = 0 then .error ⟨field, .atLeastOne⟩ else .ok ()

/-- **The first requirement that the options miss**, if any. -/
def validate (o : OdometryOptions α) : Except (OptionFault α) Unit := do
  requirePositive "init_voxel_size" o.youngThinningSize
  requirePositive "init_sample_voxel_size" o.youngKeypointSize
  requirePositive "voxel_size" o.thinningSize
  requirePositive "sample_voxel_size" o.keypointSize
  requirePositive "max_distance" o.maxDistance
  requirePositive "nominal_frame_period" o.scanPeriod
  requirePositive "solver.size_voxel_map" o.solver.voxelSize
  requireNonnegative "min_distance_points" o.minPointDistance
  requireNonnegative "distance_error_threshold" o.maxCorrection
  requireNonnegative "robust_full_voxel_threshold" o.sparseOverlap
  requireNonnegative "robust_neighborhood_min_dist" o.wideningDistance
  requireNonnegative "robust_neighborhood_min_orientation" o.wideningRotation
  requireNonnegative "robust_relative_trans_threshold" o.maxGap
  requireNonnegative "robust_fail_early_ratio" o.failEarlyRatio
  requireNonnegative "solver.max_dist_to_plane" o.solver.maxPlaneDistance
  requireNonnegative "solver.damping" o.solver.damping
  requireSome "max_num_points_in_voxel" o.maxPointsPerVoxel
  requireSome "robust_num_attempts" o.maxAttempts
  if o.solver.maxNeighbors < o.solver.minNeighbors then
    .error ⟨"solver.min_number_neighbors", .atMostMaxNeighbors⟩

end OdometryOptions

end LidarOdometry
