import LidarOdometry.Options.Validity
import LidarOdometry.Registration.Prediction
import LidarOdometry.Registration.Registrar

/-!
# The Odometry Engine

The engine registers scan after scan against a local map built from the scans registered
before. A scan passes through these stages:

* it is thinned, and the motion over it is guessed from the trajectory, or given from outside;
* its keypoints are registered against the map, which is only read meanwhile;
* if the result is accepted, the placed points enter the map, voxels far from the sensor leave
  it, and the motion joins the trajectory. A rejected scan changes neither.

## Main definitions

* `Engine`: options, solver, trajectory and map.
* `Engine.ofOptions`: an engine, if the options are valid.
* `Engine.registerBy`, `Engine.registerFromBy`: a scan registered from a guess of the engine's own,
  or from a given one, with any kind of sum of counts.
* `Engine.register`, `Engine.registerFrom`: the same, with counts of any size.
-/

namespace LidarOdometry

/-- **An odometry engine** whose solver has a memory of type `σ`. -/
structure Engine (σ α : Type) (M : Type → Type := Id) where
  options : OdometryOptions α
  solver : Solver σ α M
  session : Session σ
  /-- The motions over the registered scans, in order. -/
  trajectory : List (ScanMotion α)
  map : VoxelMap α

namespace Engine

variable {σ α : Type} {M : Type → Type} [Scalar α]

/-- **A new engine**, provided that the options are valid. -/
def ofOptions (options : OdometryOptions α) (solver : Solver σ α M) (memory : σ) :
    Except (OptionFault α) (Engine σ α M) := do
  options.validate
  return {
    options
    solver
    session := ⟨memory, .fresh⟩
    trajectory := []
    map := .empty options.resolvedSolver.voxelSize options.maxPointsPerVoxel }

/-- The pose at the finish of the last registered scan, the origin before the first. -/
def lastPose (e : Engine σ α M) : Pose α :=
  match e.trajectory.getLast? with
  | some motion => motion.finish
  | none => .identity

omit [Scalar α] in
/-- Registration against the map as it stands. -/
def registrar (e : Engine σ α M) : Registrar σ α M :=
  ⟨e.options, e.options.resolvedSolver, e.solver, e.map⟩

/-- The registration of the next scan from a given guess, before anything is kept of it: the
scan is thinned and registered, and all of its points are placed. -/
def registrationBy [Monad M] (e : Engine σ α M) (plus : Nat → Nat → M Nat)
    (points : List (ScanPoint α)) (guess : ScanMotion α) : SessionT σ M (Summary α) := do
  let index := e.trajectory.length
  let (thinningSize, keypointSize) := e.options.gridSizes index
  let thinned ← SessionT.sample thinningSize points
  let summary ← e.registrar.registerBy plus
    ⟨thinned, guess, e.trajectory.getLast?, index, thinningSize, keypointSize⟩
  let compensate := e.options.compensation != .none
  return { summary with allCorrected := summary.motion.place compensate points }

/-- The engine with an accepted scan: its points enter the map, the map is pruned around the
finish, and the motion joins the trajectory. -/
def keep (e : Engine σ α M) (summary : Summary α) : Engine σ α M :=
  let (_, map) := e.map.insert (summary.corrected.map ScanPoint.world) e.options.density
  let (_, map) := map.prune summary.motion.finish.position e.options.maxDistance
  { e with map, trajectory := e.trajectory ++ [summary.motion] }

/-- **Registers a scan** from a given guess of its motion. `plus` adds counts. -/
def registerFromBy [Monad M] (e : Engine σ α M) (plus : Nat → Nat → M Nat)
    (points : List (ScanPoint α)) (guess : ScanMotion α) : M (Summary α × Engine σ α M) := do
  let (summary, session) ← e.registrationBy plus points guess e.session
  let e := { e with session }
  return (summary, if summary.isSuccess then e.keep summary else e)

/-- **Registers a scan**, its motion being guessed from the trajectory. `plus` adds counts. -/
def registerBy [Monad M] (e : Engine σ α M) (plus : Nat → Nat → M Nat)
    (points : List (ScanPoint α)) : M (Summary α × Engine σ α M) :=
  e.registerFromBy plus points (e.options.initialization.predictTimed e.trajectory points)

/-- **Registers a scan** from a given guess, with counts of any size. -/
def registerFrom (e : Engine σ α) (points : List (ScanPoint α)) (guess : ScanMotion α) :
    Summary α × Engine σ α :=
  e.registerFromBy Count.exact points guess

/-- **Registers a scan**, its motion being guessed from the trajectory, with counts of any size. -/
def register (e : Engine σ α) (points : List (ScanPoint α)) : Summary α × Engine σ α :=
  e.registerBy Count.exact points

end Engine

end LidarOdometry
