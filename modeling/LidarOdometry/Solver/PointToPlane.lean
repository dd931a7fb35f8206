import LidarOdometry.Geometry.Plane
import LidarOdometry.Solver.Basic
import LidarOdometry.Solver.LeastSquares
import LidarOdometry.Voxel.Neighbors

/-!
# Point-to-Plane Registration

The iterative solver: place the keypoints with the current motion, match each to a plane fitted
to its neighbours in the map, take a damped Gauss-Newton step that reduces the distances to the
planes, and repeat until the steps are small.

With the rigid metric one step is a rigid motion of the map frame, applied to both poses, or to
the finish alone if keypoints are placed along the scan. With the continuous metric the two
poses get steps of their own, and a keypoint's distance counts towards each in proportion to
its phase; the previous scan, where there is one, adds terms that keep the motion continuous.

Neighbours are searched with any kind of sum of coordinates. Where a sum has no result the whole
registration has none: this is no failure of the solver, which would be reported.

## Main definitions

* `Residual`: a keypoint matched to a plane.
* `PointToPlane.stepRigid`, `PointToPlane.stepContinuous`: one step of either metric.
* `PointToPlane.residualsBy`: the matches of all keypoints.
* `PointToPlane.iterateBy`: the iteration.
* `PointToPlane.registerBy`: the solver.
* `PointToPlane.residuals`, `PointToPlane.iterate`, `PointToPlane.register`: the same, with sums
  that go round.
-/

namespace LidarOdometry

/-- **A keypoint matched to a plane of the map.** -/
structure Residual (α : Type) where
  world : Vec3 α
  normal : Vec3 α
  /-- The signed distance from the plane. -/
  distance : α
  weight : α
  phase : α
deriving DecidableEq, Repr

/-- How large a step was: its angle and its length. -/
structure StepSize (α : Type) where
  rotation : α
  shift : α
deriving DecidableEq, Repr

variable {α : Type} [Scalar α]

/-- Whether a step was small enough to stop. -/
def StepSize.isSmall (size : StepSize α) (options : SolverOptions α) : Bool :=
  decide (size.rotation < options.rotationThreshold) &&
    decide (size.shift < options.shiftThreshold)

namespace PointToPlane

/-! ### Residuals -/

section Residuals

variable [EigenSolver α] {M : Type → Type} [Monad M]

/-- The match of a placed keypoint with its neighbours, `none` where there are too few of them,
where they span no plane, or where the plane is too far away. -/
def matched? (options : SolverOptions α) (keypoint : ScanPoint α) (neighbors : List (Vec3 α)) :
    Option (Residual α) :=
  if neighbors.length < options.minNeighbors then none
  else do
    let plane ← Plane.fit? neighbors
    let distance := plane.signedDistance keypoint.world
    if options.maxPlaneDistance < Scalar.abs distance then none
    else
      let weight := Scalar.pow plane.planarity options.planarityPower
      some ⟨keypoint.world, plane.normal, distance, weight, keypoint.phase⟩

/-- The match of one placed keypoint, if there is one. -/
def residualBy? (word : Int → M Int) (map : VoxelMap α) (neighborhood : Nat)
    (options : SolverOptions α) (keypoint : ScanPoint α) : M (Option (Residual α)) := do
  let neighbors ← map.neighborsBy word keypoint.world neighborhood options.maxNeighbors
  return matched? options keypoint neighbors

/-- The matches of placed keypoints, in their order. -/
def residualsBy (word : Int → M Int) (map : VoxelMap α) (neighborhood : Nat)
    (options : SolverOptions α) (keypoints : List (ScanPoint α)) : M (List (Residual α)) :=
  keypoints.filterMapM (residualBy? word map neighborhood options)

end Residuals

/-! ### Steps -/

/-- The pose turned by `rotation` about `pivot`, then moved by `shift`. -/
def turnAbout (pose : Pose α) (rotation : Mat3 α) (pivot shift : Vec3 α) : Pose α :=
  ⟨rotation * pose.rotation,
    rotation.mulVec (pose.position - pivot) + pivot + shift⟩

/-- The row of a residual in the unknowns of a rigid step: rotation vector, then shift. -/
def rigidRow (pivot : Vec3 α) (r : Residual α) : Vector α 6 :=
  let lever := (r.world - pivot).cross r.normal
  #v[lever.x, lever.y, lever.z, r.normal.x, r.normal.y, r.normal.z]

/-- The normal equations of a rigid step about `pivot`. -/
def rigidEquations (pivot : Vec3 α) (rs : List (Residual α)) : NormalEquations α 6 :=
  rs.foldl (fun e r => e.add (rigidRow pivot r) r.distance r.weight) .zero

/-- The solution of the normal equations, provided that there is one and that it is finite. -/
def finiteStep {n : Nat} (e : NormalEquations α n) (damping : α) :
    Except SolverError (Vector α n) :=
  match e.solve damping with
  | none => .error .degenerate
  | some δ => if δ.all Scalar.isFinite then .ok δ else .error .diverged

/-- **One rigid step**, about the place of the finish. If `finishOnly` holds the start stays. -/
def stepRigid (motion : ScanMotion α) (rs : List (Residual α)) (finishOnly : Bool)
    (damping : α) : Except SolverError (ScanMotion α × StepSize α) := do
  let pivot := motion.finish.position
  let δ ← finiteStep (rigidEquations pivot rs) damping
  let turn : Vec3 α := ⟨δ[0], δ[1], δ[2]⟩
  let shift : Vec3 α := ⟨δ[3], δ[4], δ[5]⟩
  let move (pose : Pose α) := turnAbout pose (Mat3.ofRotationVector turn) pivot shift
  return ({ motion with
    start := if finishOnly then motion.start else move motion.start
    finish := move motion.finish }, ⟨turn.norm, shift.norm⟩)

/-- The row of a residual in the unknowns of a continuous step: rotation vector and shift
of the start, then those of the finish, weighted by how near the phase is to either. -/
def continuousRow (startPivot finishPivot : Vec3 α) (r : Residual α) : Vector α 12 :=
  let finishShare := r.phase
  let startShare := 1 - finishShare
  let startLever := ((r.world - startPivot).cross r.normal).scale startShare
  let finishLever := ((r.world - finishPivot).cross r.normal).scale finishShare
  let startNormal := r.normal.scale startShare
  let finishNormal := r.normal.scale finishShare
  #v[startLever.x, startLever.y, startLever.z, startNormal.x, startNormal.y, startNormal.z,
    finishLever.x, finishLever.y, finishLever.z, finishNormal.x, finishNormal.y, finishNormal.z]

/-- The row that reads off the shift of the start along an axis. -/
def locationRow (axis : Fin 3) : Vector α 12 :=
  Vector.ofFn fun i => if i.val = 3 + axis.val then 1 else 0

/-- The row that reads off, along an axis, by how much the finish shifts more than the start. -/
def velocityRow (axis : Fin 3) : Vector α 12 :=
  Vector.ofFn fun i =>
    if i.val = 3 + axis.val then -1 else if i.val = 9 + axis.val then 1 else 0

/-- How far the start is from the finish of the previous scan. -/
def locationGap (motion previous : ScanMotion α) : Vec3 α :=
  motion.start.position - previous.finish.position

/-- How far the displacement during the scan is from that during the previous scan. -/
def velocityGap (motion previous : ScanMotion α) : Vec3 α :=
  (motion.finish.position - motion.start.position) -
    (previous.finish.position - previous.start.position)

/-- The terms that tie a scan to the previous one, axis by axis. -/
def addContinuity (motion previous : ScanMotion α) (locationWeight velocityWeight : α)
    (e : NormalEquations α 12) : NormalEquations α 12 :=
  let location := locationGap motion previous
  let velocity := velocityGap motion previous
  let add (e : NormalEquations α 12) (axis : Fin 3) (locationGap velocityGap : α) :=
    (e.add (locationRow axis) locationGap locationWeight).add
      (velocityRow axis) velocityGap velocityWeight
  add (add (add e 0 location.x velocity.x) 1 location.y velocity.y) 2 location.z velocity.z

/-- The normal equations of a continuous step. The weights of the ties to the previous scan are
per residual. -/
def continuousEquations (motion : ScanMotion α) (rs : List (Residual α))
    (previous : Option (ScanMotion α)) (options : SolverOptions α) : NormalEquations α 12 :=
  let e := rs.foldl (fun e r => e.add
    (continuousRow motion.start.position motion.finish.position r) r.distance r.weight)
    .zero
  match previous with
  | none => e
  | some previous =>
      let count : α := (rs.length : α)
      addContinuity motion previous (options.locationWeight * count)
        (options.velocityWeight * count) e

/-- **One continuous step**: each pose about its own place. The larger of the two rotations and
of the two shifts count as the size of the step. -/
def stepContinuous (motion : ScanMotion α) (rs : List (Residual α))
    (previous : Option (ScanMotion α)) (options : SolverOptions α) :
    Except SolverError (ScanMotion α × StepSize α) := do
  let δ ← finiteStep (continuousEquations motion rs previous options) options.damping
  let startTurn : Vec3 α := ⟨δ[0], δ[1], δ[2]⟩
  let startShift : Vec3 α := ⟨δ[3], δ[4], δ[5]⟩
  let finishTurn : Vec3 α := ⟨δ[6], δ[7], δ[8]⟩
  let finishShift : Vec3 α := ⟨δ[9], δ[10], δ[11]⟩
  let move (pose : Pose α) (turn shift : Vec3 α) :=
    turnAbout pose (Mat3.ofRotationVector turn) pose.position shift
  return ({ motion with
    start := move motion.start startTurn startShift
    finish := move motion.finish finishTurn finishShift },
    ⟨Scalar.max startTurn.norm finishTurn.norm, Scalar.max startShift.norm finishShift.norm⟩)

/-- One step of the metric that the options ask for. -/
def step (motion : ScanMotion α) (rs : List (Residual α)) (previous : Option (ScanMotion α))
    (options : SolverOptions α) : Except SolverError (ScanMotion α × StepSize α) :=
  match options.metric with
  | .rigid => stepRigid motion rs options.compensate options.damping
  | .continuous => stepContinuous motion rs previous options

/-! ### Iteration -/

section Iteration

variable [EigenSolver α] {M : Type → Type} [Monad M]

/-- The matches of keypoints under a motion, provided that there are enough of them. -/
def enoughResidualsBy (word : Int → M Int) (map : VoxelMap α) (neighborhood : Nat)
    (options : SolverOptions α) (keypoints : List (ScanPoint α)) (motion : ScanMotion α) :
    ExceptT SolverError M (List (Residual α)) := do
  let placed := motion.place options.compensate keypoints
  let rs ← residualsBy (M := M) word map neighborhood options placed
  if rs.length < options.minResiduals then
    throw (.tooFewResiduals rs.length options.minResiduals)
  else return rs

/-- **The iteration**: at most `n` steps from `motion`. The number of residuals of the last one
is returned with the motion reached, or `count` if no step is made. -/
def iterateBy (word : Int → M Int) (map : VoxelMap α) (neighborhood : Nat)
    (options : SolverOptions α) (keypoints : List (ScanPoint α))
    (previous : Option (ScanMotion α)) : (n : Nat) → (motion : ScanMotion α) → (count : Nat) →
    ExceptT SolverError M (ScanMotion α × Nat)
  | 0, motion, count => return (motion, count)
  | n + 1, motion, _ => do
      let rs ← enoughResidualsBy word map neighborhood options keypoints motion
      let (motion, size) ← step motion rs previous options
      if size.isSmall options then return (motion, rs.length)
      else iterateBy word map neighborhood options keypoints previous n motion rs.length

/-- The answer of the solver. While the map is young, the neighbourhood is at least two voxels
wide and the scan is not tied to the previous one. -/
def answerBy (word : Int → M Int) (problem : Problem α) (options : SolverOptions α) :
    ExceptT SolverError M (Registered α) := do
  let isYoung := problem.index < options.youngScans
  let neighborhood := if isYoung then max options.neighborhood 2 else options.neighborhood
  let previous := if isYoung then none else problem.previous
  let (motion, residuals) ← iterateBy word problem.map neighborhood options problem.keypoints
    previous options.iterations problem.guess 0
  return ⟨motion, motion.place options.compensate problem.keypoints, residuals⟩

/-- **The point-to-plane solver.** `word` says what becomes of a sum of coordinates. -/
def registerBy (word : Int → M Int) : Solver Unit α M :=
  fun problem options => StateT.lift (answerBy word problem options).run

end Iteration

/-! ### Sums that go round -/

section Wrapping

variable [EigenSolver α]

/-- The match of one placed keypoint, with sums that go round. -/
def residual? (map : VoxelMap α) (neighborhood : Nat) (options : SolverOptions α)
    (keypoint : ScanPoint α) : Option (Residual α) :=
  residualBy? Word.wrapping map neighborhood options keypoint

/-- The matches of placed keypoints, with sums that go round. -/
def residuals (map : VoxelMap α) (neighborhood : Nat) (options : SolverOptions α)
    (keypoints : List (ScanPoint α)) : List (Residual α) :=
  residualsBy Word.wrapping map neighborhood options keypoints

/-- The matches under a motion if there are enough, with sums that go round. -/
def enoughResiduals (map : VoxelMap α) (neighborhood : Nat) (options : SolverOptions α)
    (keypoints : List (ScanPoint α)) (motion : ScanMotion α) :
    Except SolverError (List (Residual α)) :=
  enoughResidualsBy Word.wrapping map neighborhood options keypoints motion

/-- **The iteration**, with sums that go round. -/
def iterate (map : VoxelMap α) (neighborhood : Nat) (options : SolverOptions α)
    (keypoints : List (ScanPoint α)) (previous : Option (ScanMotion α)) (n : Nat)
    (motion : ScanMotion α) (count : Nat) : Except SolverError (ScanMotion α × Nat) :=
  iterateBy Word.wrapping map neighborhood options keypoints previous n motion count

/-- The answer of the solver, with sums that go round. -/
def answer (problem : Problem α) (options : SolverOptions α) :
    Except SolverError (Registered α) :=
  answerBy Word.wrapping problem options

/-- **The point-to-plane solver**, with sums that go round. -/
def register : Solver Unit α :=
  registerBy Word.wrapping

/-! These equations say what the definitions above come to, without lifting errors and results. -/

variable (map : VoxelMap α) (neighborhood : Nat) (options : SolverOptions α)
  (keypoints : List (ScanPoint α)) (previous : Option (ScanMotion α)) (n : Nat)
  (motion : ScanMotion α) (count : Nat) (problem : Problem α)

/-- A keypoint is matched with what is found around it. -/
theorem residual?_eq (keypoint : ScanPoint α) : residual? map neighborhood options keypoint =
    matched? options keypoint
      (map.neighbors keypoint.world neighborhood options.maxNeighbors) := rfl

/-- The matches are found one by one. -/
theorem residuals_eq : residuals map neighborhood options keypoints =
    keypoints.filterMap (residual? map neighborhood options) := by
  induction keypoints with
  | nil => rfl
  | cons keypoint keypoints ih =>
      rw [List.filterMap_cons, ← ih, residuals, residualsBy, List.filterMapM_cons, residual?]
      cases residualBy? Word.wrapping map neighborhood options keypoint with
      | none => rfl
      | some r => rfl

/-- Whether there are enough matches is seen from their number. -/
theorem enoughResiduals_eq : enoughResiduals map neighborhood options keypoints motion =
    let rs := residuals map neighborhood options (motion.place options.compensate keypoints)
    if rs.length < options.minResiduals then
      .error (.tooFewResiduals rs.length options.minResiduals)
    else .ok rs := rfl

/-- Without steps the guess is returned. -/
theorem iterate_zero : iterate map neighborhood options keypoints previous 0 motion count =
    .ok (motion, count) := rfl

/-- One step, and the steps after it unless it is small. -/
theorem iterate_succ : iterate map neighborhood options keypoints previous (n + 1) motion count =
    enoughResiduals map neighborhood options keypoints motion >>= fun rs =>
      step motion rs previous options >>= fun (motion, size) =>
        if size.isSmall options then pure (motion, rs.length)
        else iterate map neighborhood options keypoints previous n motion rs.length := by
  rw [iterate, iterateBy, enoughResiduals]
  cases (enoughResidualsBy Word.wrapping map neighborhood options keypoints motion :
      Except SolverError (List (Residual α))) with
  | error cause => rfl
  | ok rs =>
      change (liftM (step motion rs previous options) >>= _ : ExceptT SolverError Id _) =
        step motion rs previous options >>= _
      cases step motion rs previous options with
      | error cause => rfl
      | ok moved => rfl

/-- The answer is read off the iteration. -/
theorem answer_eq : answer problem options =
    iterate problem.map
      (if problem.index < options.youngScans then max options.neighborhood 2
        else options.neighborhood) options problem.keypoints
      (if problem.index < options.youngScans then none else problem.previous)
      options.iterations problem.guess 0 >>= fun (motion, residuals) =>
        pure ⟨motion, motion.place options.compensate problem.keypoints, residuals⟩ := by
  rw [answer, answerBy, iterate]
  dsimp only
  cases (iterateBy Word.wrapping _ _ options _ _ _ problem.guess 0 :
      Except SolverError (ScanMotion α × Nat)) with
  | error cause => rfl
  | ok reached => rfl

/-- The memory of the solver does not matter. -/
theorem register_apply : register problem options () = (answer problem options, ()) := rfl

end Wrapping

end PointToPlane

end LidarOdometry
