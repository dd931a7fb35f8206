import LidarOdometry.Decimal.Read
import LidarOdometry.Decimal.Shortest
import LidarOdometry.Decimal.Text
import LidarOdometry.Engine
import LidarOdometry.Geometry.Eigen
import LidarOdometry.Geometry.Moments
import LidarOdometry.Geometry.Plane
import LidarOdometry.Geometry.Pose
import LidarOdometry.Geometry.Rotation
import LidarOdometry.Geometry.Vector
import LidarOdometry.Numeric.Binary64
import LidarOdometry.Numeric.Scalar
import LidarOdometry.Numeric.Word
import LidarOdometry.Options.Basic
import LidarOdometry.Options.Document
import LidarOdometry.Options.Profile
import LidarOdometry.Options.Settings
import LidarOdometry.Options.Validity
import LidarOdometry.Proofs.Engine.Acceptance
import LidarOdometry.Proofs.Engine.Checked
import LidarOdometry.Proofs.Engine.Consistency
import LidarOdometry.Proofs.Engine.ConstantVelocity
import LidarOdometry.Proofs.Engine.Continuity
import LidarOdometry.Proofs.Engine.Extent
import LidarOdometry.Proofs.Engine.Foundation
import LidarOdometry.Proofs.Engine.LocalMap
import LidarOdometry.Proofs.Engine.Placement
import LidarOdometry.Proofs.Engine.Rejection
import LidarOdometry.Proofs.Engine.Run
import LidarOdometry.Proofs.Engine.Sampling
import LidarOdometry.Proofs.Engine.Stages
import LidarOdometry.Proofs.Geometry.Arc
import LidarOdometry.Proofs.Geometry.Covariance
import LidarOdometry.Proofs.Geometry.Interpolation
import LidarOdometry.Proofs.Geometry.Moments
import LidarOdometry.Proofs.Geometry.Plane
import LidarOdometry.Proofs.Geometry.Pose
import LidarOdometry.Proofs.Geometry.PrincipalAxes
import LidarOdometry.Proofs.Geometry.Rotation
import LidarOdometry.Proofs.Geometry.RotationVector
import LidarOdometry.Proofs.Geometry.Vector
import LidarOdometry.Proofs.Numeric.NotANumber
import LidarOdometry.Proofs.Numeric.Sign
import LidarOdometry.Proofs.Options.Profile
import LidarOdometry.Proofs.Options.Settings
import LidarOdometry.Proofs.Options.Validity
import LidarOdometry.Proofs.Registration.Acceptance
import LidarOdometry.Proofs.Registration.Allowance
import LidarOdometry.Proofs.Registration.Attempts
import LidarOdometry.Proofs.Registration.Counts
import LidarOdometry.Proofs.Registration.Exits
import LidarOdometry.Proofs.Registration.Keypoints
import LidarOdometry.Proofs.Registration.Prediction
import LidarOdometry.Proofs.Registration.Schedule
import LidarOdometry.Proofs.Registration.Session
import LidarOdometry.Proofs.Registration.World
import LidarOdometry.Proofs.Scan.Density
import LidarOdometry.Proofs.Scan.Motion
import LidarOdometry.Proofs.Scan.Nesting
import LidarOdometry.Proofs.Scan.Path
import LidarOdometry.Proofs.Scan.Phases
import LidarOdometry.Proofs.Scan.Sampler
import LidarOdometry.Proofs.Scan.Settling
import LidarOdometry.Proofs.Settings.Schema
import LidarOdometry.Proofs.Solver.Alignment
import LidarOdometry.Proofs.Solver.Checked
import LidarOdometry.Proofs.Solver.Course
import LidarOdometry.Proofs.Solver.Elimination
import LidarOdometry.Proofs.Solver.Iteration
import LidarOdometry.Proofs.Solver.LeastSquares
import LidarOdometry.Proofs.Solver.Linearization
import LidarOdometry.Proofs.Solver.Matching
import LidarOdometry.Proofs.Solver.Order
import LidarOdometry.Proofs.Solver.Steps
import LidarOdometry.Proofs.Voxel.Arena
import LidarOdometry.Proofs.Voxel.Extent
import LidarOdometry.Proofs.Voxel.Fences
import LidarOdometry.Proofs.Voxel.Groups
import LidarOdometry.Proofs.Voxel.Invariants
import LidarOdometry.Proofs.Voxel.KeySpace
import LidarOdometry.Proofs.Voxel.Neighbors
import LidarOdometry.Proofs.Voxel.Packing
import LidarOdometry.Proofs.Voxel.Refinement
import LidarOdometry.Proofs.Voxel.Representation
import LidarOdometry.Registration.Assessment
import LidarOdometry.Registration.Attempt
import LidarOdometry.Registration.Error
import LidarOdometry.Registration.Prediction
import LidarOdometry.Registration.Registrar
import LidarOdometry.Registration.Summary
import LidarOdometry.Scan.Motion
import LidarOdometry.Scan.Point
import LidarOdometry.Scan.Sampler
import LidarOdometry.Settings.Reader
import LidarOdometry.Settings.Schema
import LidarOdometry.Settings.Toml.Document
import LidarOdometry.Settings.Toml.Literal
import LidarOdometry.Settings.Toml.Tree
import LidarOdometry.Settings.Value
import LidarOdometry.Solver.Basic
import LidarOdometry.Solver.LeastSquares
import LidarOdometry.Solver.Options
import LidarOdometry.Solver.PointToPlane
import LidarOdometry.Voxel.Arena
import LidarOdometry.Voxel.Key
import LidarOdometry.Voxel.Map
import LidarOdometry.Voxel.Neighbors
