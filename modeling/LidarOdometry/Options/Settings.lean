import LidarOdometry.Options.Basic
import LidarOdometry.Settings.Schema

/-!
# Options in Settings Files

The names of the options in settings files, and the defaults that fill what a file leaves out.
A file that says nothing of the solver keeps the solver options of the driving profile; one that
has a solver section takes the fields missing there from the solver's standard options.

## Main definitions

* `SolverOptions.schema`, `OdometryOptions.schema`: the fields with their names.
* `SolverOptions.read`, `OdometryOptions.read`: options from a settings value.
* `SolverOptions.write`, `OdometryOptions.write`: options as a settings value.
-/

namespace LidarOdometry

/-! ### Names of choices -/

/-- The choice with a given name. -/
def choiceOfName? {β : Type} (all : List β) (nameOf : β → String) (name : String) : Option β :=
  all.find? fun choice => nameOf choice == name

/-- The name of a metric. -/
def Metric.name : Metric → String
  | rigid => "POINT_TO_PLANE"
  | continuous => "CT_POINT_TO_PLANE"

/-- The metric with a given name. -/
def Metric.ofName? : String → Option Metric :=
  choiceOfName? [rigid, continuous] name

/-- The name of a compensation mode. -/
def Compensation.name : Compensation → String
  | none => "NONE"
  | constantVelocity => "CONSTANT_VELOCITY"
  | iterative => "ITERATIVE"
  | continuous => "CONTINUOUS"

/-- The compensation mode with a given name. -/
def Compensation.ofName? : String → Option Compensation :=
  choiceOfName? [none, constantVelocity, iterative, continuous] name

/-- The name of a way to guess motions. -/
def Initialization.name : Initialization → String
  | rest => "INIT_NONE"
  | constantVelocity => "INIT_CONSTANT_VELOCITY"

/-- The way to guess motions with a given name. -/
def Initialization.ofName? : String → Option Initialization :=
  choiceOfName? [rest, constantVelocity] name

/-- The way to guess motions that a settings value names. -/
def Initialization.read (c : Conventions) (v : Setting) : Option Initialization :=
  (v.choice? c).bind ofName?

/-! ### Solver options -/

/-- **The fields of the solver options.** -/
def SolverOptions.schema : Schema (SolverOptions Float) :=
  [.real "size_voxel_map" voxelSize fun x o => { o with voxelSize := x },
   .natural "num_iters_icp" iterations fun n o => { o with iterations := n },
   .natural "voxel_neighborhood" neighborhood fun n o => { o with neighborhood := n },
   .natural "min_number_neighbors" minNeighbors fun n o => { o with minNeighbors := n },
   .natural "max_number_neighbors" maxNeighbors fun n o => { o with maxNeighbors := n },
   .real "power_planarity" planarityPower fun x o => { o with planarityPower := x },
   .real "max_dist_to_plane" maxPlaneDistance fun x o => { o with maxPlaneDistance := x },
   .real "threshold_orientation_norm" rotationThreshold
     fun x o => { o with rotationThreshold := x },
   .real "threshold_translation_norm" shiftThreshold
     fun x o => { o with shiftThreshold := x },
   .real "beta_location_consistency" locationWeight fun x o => { o with locationWeight := x },
   .real "beta_constant_velocity" velocityWeight fun x o => { o with velocityWeight := x },
   .natural "min_number_residuals" minResiduals fun n o => { o with minResiduals := n },
   .real "damping" damping fun x o => { o with damping := x },
   .boolean "point_to_plane_with_distortion" compensate fun b o => { o with compensate := b },
   .choice "distance" Metric.name Metric.ofName? metric fun m o => { o with metric := m },
   .natural "init_num_frames" youngScans fun n o => { o with youngScans := n }]

/-- **Solver options from a settings value**; missing fields have their standard values. -/
def SolverOptions.read (c : Conventions) (v : Setting) : Option (SolverOptions Float) :=
  schema.read c .standard v

/-- Solver options as a settings value. -/
def SolverOptions.write (o : SolverOptions Float) : Setting :=
  Schema.write schema o

/-! ### Odometry options -/

/-- **The fields of the odometry options.** -/
def OdometryOptions.schema : Schema (OdometryOptions Float) :=
  [.real "init_voxel_size" youngThinningSize fun x o => { o with youngThinningSize := x },
   .real "init_sample_voxel_size" youngKeypointSize
     fun x o => { o with youngKeypointSize := x },
   .natural "init_num_frames" youngScans fun n o => { o with youngScans := n },
   .real "voxel_size" thinningSize fun x o => { o with thinningSize := x },
   .real "sample_voxel_size" keypointSize fun x o => { o with keypointSize := x },
   .real "max_distance" maxDistance fun x o => { o with maxDistance := x },
   .natural "max_num_points_in_voxel" maxPointsPerVoxel
     fun n o => { o with maxPointsPerVoxel := n },
   .boolean "debug_print" verbose fun b o => { o with verbose := b },
   .real "min_distance_points" minPointDistance fun x o => { o with minPointDistance := x },
   .real "distance_error_threshold" maxCorrection fun x o => { o with maxCorrection := x },
   .boolean "robust_registration" robust fun b o => { o with robust := b },
   .real "robust_full_voxel_threshold" sparseOverlap fun x o => { o with sparseOverlap := x },
   .real "robust_neighborhood_min_dist" wideningDistance
     fun x o => { o with wideningDistance := x },
   .real "robust_neighborhood_min_orientation" wideningRotation
     fun x o => { o with wideningRotation := x },
   .real "robust_relative_trans_threshold" maxGap fun x o => { o with maxGap := x },
   .boolean "robust_fail_early" failEarly fun b o => { o with failEarly := b },
   .natural "robust_num_attempts" maxAttempts fun n o => { o with maxAttempts := n },
   .natural "robust_max_voxel_neighborhood" maxNeighborhood
     fun n o => { o with maxNeighborhood := n },
   .real "robust_fail_early_ratio" failEarlyRatio fun x o => { o with failEarlyRatio := x },
   .real "nominal_frame_period" scanPeriod fun x o => { o with scanPeriod := x },
   .natural "min_number_keypoints" minKeypoints fun n o => { o with minKeypoints := n },
   .choice "motion_compensation" Compensation.name Compensation.ofName? compensation
     fun m o => { o with compensation := m },
   .choice "initialization" Initialization.name Initialization.ofName? initialization
     fun m o => { o with initialization := m },
   SolverOptions.schema.field .standard "solver" solver fun s o => { o with solver := s }]

/-- **Odometry options from a settings value**; missing fields are those of the driving
profile. -/
def OdometryOptions.read (c : Conventions) (v : Setting) : Option (OdometryOptions Float) :=
  schema.read c .driving v

/-- Odometry options as a settings value. -/
def OdometryOptions.write (o : OdometryOptions Float) : Setting :=
  Schema.write schema o

end LidarOdometry
