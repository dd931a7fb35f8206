import LidarOdometry.Proofs.Geometry.Vector
import LidarOdometry.Proofs.Solver.LeastSquares
import LidarOdometry.Solver.PointToPlane

/-!
# The Steps of the Solver

A step of either metric gathers the normal equations of some residuals, solves them, and reads
the solution as rigid updates: one update of the whole scan, or one of each end. So a step is
described by two things, which residuals its equations are those of and what it makes of a
solution.

Over the reals every value is finite; so a step can fail only for want of a solution, and with
damping and weights that are not negative there always is one.

## Main definitions

* `Update`: a rigid update of a pose.
* `rigidUpdate`, `startUpdate`, `finishUpdate`: how a solution is read.
* `moveRigid`, `moveContinuous`: what a step makes of a solution.
* `rigidObservation`, `continuousObservation`, `continuityObservations`: the residuals.

## Main results

* `rigidEquations_eq`, `continuousEquations_eq`: the equations are those of the residuals.
* `stepRigid_eq`, `stepContinuous_eq`: steps from solutions.
* `exists_stepRigid`, `exists_stepContinuous`: with damping no step is degenerate.
* `damped_steps_are_optimal`: damped least squares.
-/

namespace LidarOdometry

namespace PointToPlane

/-! ### Updates -/

section Updates

variable {α : Type} [Scalar α]

/-- **A rigid update**: a rotation vector about a pivot, and a shift. -/
structure Update (α : Type) where
  turn : Vec3 α
  shift : Vec3 α

namespace Update

/-- The updated pose. -/
def move (u : Update α) (pivot : Vec3 α) (pose : Pose α) : Pose α :=
  turnAbout pose (Mat3.ofRotationVector u.turn) pivot u.shift

/-- How large an update is. -/
def size (u : Update α) : StepSize α :=
  ⟨u.turn.norm, u.shift.norm⟩

end Update

/-- Three of the unknowns, from the one with index `i`, as a vector of space. -/
def unknowns {n : ℕ} (δ : Vector α n) (i : ℕ) (h : i + 2 < n) : Vec3 α :=
  ⟨δ[i], δ[i + 1], δ[i + 2]⟩

/-- The update of a rigid step. -/
def rigidUpdate (δ : Vector α 6) : Update α :=
  ⟨unknowns δ 0 (by decide), unknowns δ 3 (by decide)⟩

/-- The update of the start in a continuous step. -/
def startUpdate (δ : Vector α 12) : Update α :=
  ⟨unknowns δ 0 (by decide), unknowns δ 3 (by decide)⟩

/-- The update of the finish in a continuous step. -/
def finishUpdate (δ : Vector α 12) : Update α :=
  ⟨unknowns δ 6 (by decide), unknowns δ 9 (by decide)⟩

/-- **What a rigid step makes of a solution**: the same update for both ends, or for the finish
alone, about the place of the finish. -/
def moveRigid (motion : ScanMotion α) (finishOnly : Bool) (δ : Vector α 6) : ScanMotion α :=
  let move := (rigidUpdate δ).move motion.finish.position
  { motion with
    start := if finishOnly then motion.start else move motion.start
    finish := move motion.finish }

/-- **What a continuous step makes of a solution**: either end is updated about its own place. -/
def moveContinuous (motion : ScanMotion α) (δ : Vector α 12) : ScanMotion α :=
  { motion with
    start := (startUpdate δ).move motion.start.position motion.start
    finish := (finishUpdate δ).move motion.finish.position motion.finish }

/-- How large a continuous step is. -/
def continuousSize (δ : Vector α 12) : StepSize α :=
  let start := (startUpdate δ).size
  let finish := (finishUpdate δ).size
  ⟨Scalar.max start.rotation finish.rotation, Scalar.max start.shift finish.shift⟩

/-- **A rigid step**, from the solution of its equations. -/
theorem stepRigid_eq (motion : ScanMotion α) (rs : List (Residual α)) (finishOnly : Bool)
    (damping : α) : stepRigid motion rs finishOnly damping =
      (finiteStep (rigidEquations motion.finish.position rs) damping).map fun δ =>
        (moveRigid motion finishOnly δ, (rigidUpdate δ).size) := by
  rw [stepRigid]
  cases finiteStep (rigidEquations motion.finish.position rs) damping <;> rfl

/-- **A continuous step**, from the solution of its equations. -/
theorem stepContinuous_eq (motion : ScanMotion α) (rs : List (Residual α))
    (previous : Option (ScanMotion α)) (options : SolverOptions α) :
    stepContinuous motion rs previous options =
      (finiteStep (continuousEquations motion rs previous options) options.damping).map fun δ =>
        (moveContinuous motion δ, continuousSize δ) := by
  rw [stepContinuous]
  cases finiteStep (continuousEquations motion rs previous options) options.damping <;> rfl

/-! ### Residuals -/

/-- A residual of the points, in the unknowns of a rigid step. -/
def rigidObservation (pivot : Vec3 α) (r : Residual α) : Observation α 6 :=
  ⟨rigidRow pivot r, r.distance, r.weight⟩

/-- A residual of the points, in the unknowns of a continuous step. -/
def continuousObservation (motion : ScanMotion α) (r : Residual α) : Observation α 12 :=
  ⟨continuousRow motion.start.position motion.finish.position r, r.distance, r.weight⟩

/-- The residuals that tie the start to the finish of the previous scan, and the displacement to
that of the previous scan, axis by axis. -/
def continuityObservations (motion previous : ScanMotion α) (locationWeight velocityWeight : α) :
    List (Observation α 12) :=
  (List.finRange 3).flatMap fun axis =>
    [⟨locationRow axis, (locationGap motion previous).coordinates axis, locationWeight⟩,
      ⟨velocityRow axis, (velocityGap motion previous).coordinates axis, velocityWeight⟩]

/-- The residuals of a continuous step. -/
def continuousObservations (motion : ScanMotion α) (rs : List (Residual α))
    (previous : Option (ScanMotion α)) (options : SolverOptions α) : List (Observation α 12) :=
  rs.map (continuousObservation motion) ++ previous.elim [] fun previous =>
    continuityObservations motion previous (options.locationWeight * (rs.length : α))
      (options.velocityWeight * (rs.length : α))

/-- The equations of a rigid step are those of its observations. -/
theorem rigidEquations_eq (pivot : Vec3 α) (rs : List (Residual α)) :
    rigidEquations pivot rs = .ofList (rs.map (rigidObservation pivot)) := by
  rw [rigidEquations, NormalEquations.ofList, List.foldl_map]
  rfl

/-- The equations of a continuous step are those of its observations, and of the previous motion.
-/
theorem continuousEquations_eq (motion : ScanMotion α) (rs : List (Residual α))
    (previous : Option (ScanMotion α)) (options : SolverOptions α) :
    continuousEquations motion rs previous options =
      .ofList (continuousObservations motion rs previous options) := by
  rw [continuousObservations, NormalEquations.ofList, List.foldl_append, List.foldl_map]
  cases previous <;> rfl

end Updates

/-! ### Steps over the reals -/

variable {n : ℕ}

/-- Over the reals a solution is always finite. -/
theorem finiteStep_of_solve {e : NormalEquations ℝ n} {damping : ℝ} {δ : Vector ℝ n}
    (h : e.solve damping = some δ) : finiteStep e damping = .ok δ := by
  have hfinite : δ.all Scalar.isFinite = true := by
    rw [Vector.all_eq_true]
    exact fun _ _ => rfl
  rw [finiteStep, h]
  exact if_pos hfinite

/-- **With damping no rigid step is degenerate.** -/
theorem exists_stepRigid (motion : ScanMotion ℝ) {rs : List (Residual ℝ)} (finishOnly : Bool)
    {damping : ℝ} (hdamping : 0 < damping) (hw : ∀ r ∈ rs, 0 ≤ r.weight) :
    ∃ moved, stepRigid motion rs finishOnly damping = .ok moved := by
  have hobservations : ∀ o ∈ rs.map (rigidObservation motion.finish.position), 0 ≤ o.weight :=
    List.forall_mem_map.mpr hw
  obtain ⟨δ, hδ⟩ := exists_solve hobservations hdamping
  rw [stepRigid_eq, rigidEquations_eq, finiteStep_of_solve hδ]
  exact ⟨_, rfl⟩

/-- Continuity has no negative weight. -/
theorem weight_of_mem_continuityObservations {motion previous : ScanMotion ℝ}
    {locationWeight velocityWeight : ℝ} (hlocation : 0 ≤ locationWeight)
    (hvelocity : 0 ≤ velocityWeight) :
    ∀ o ∈ continuityObservations motion previous locationWeight velocityWeight, 0 ≤ o.weight := by
  intro o ho
  obtain ⟨axis, -, ho⟩ := List.mem_flatMap.mp ho
  rcases List.mem_pair.mp ho with rfl | rfl
  · exact hlocation
  · exact hvelocity

/-- No observation of a continuous step has a negative weight. -/
theorem weight_of_mem_continuousObservations (motion : ScanMotion ℝ) {rs : List (Residual ℝ)}
    (previous : Option (ScanMotion ℝ)) {options : SolverOptions ℝ}
    (hlocation : 0 ≤ options.locationWeight) (hvelocity : 0 ≤ options.velocityWeight)
    (hw : ∀ r ∈ rs, 0 ≤ r.weight) :
    ∀ o ∈ continuousObservations motion rs previous options, 0 ≤ o.weight := by
  rw [continuousObservations, List.forall_mem_append]
  refine ⟨List.forall_mem_map.mpr hw, ?_⟩
  cases previous with
  | none => exact List.forall_mem_nil _
  | some previous =>
      exact weight_of_mem_continuityObservations (mul_nonneg hlocation (Nat.cast_nonneg _))
        (mul_nonneg hvelocity (Nat.cast_nonneg _))

/-- **With damping no continuous step is degenerate.** -/
theorem exists_stepContinuous (motion : ScanMotion ℝ) {rs : List (Residual ℝ)}
    (previous : Option (ScanMotion ℝ)) {options : SolverOptions ℝ} (hdamping : 0 < options.damping)
    (hlocation : 0 ≤ options.locationWeight) (hvelocity : 0 ≤ options.velocityWeight)
    (hw : ∀ r ∈ rs, 0 ≤ r.weight) :
    ∃ moved, stepContinuous motion rs previous options = .ok moved := by
  obtain ⟨δ, hδ⟩ := exists_solve
    (weight_of_mem_continuousObservations motion previous hlocation hvelocity hw) hdamping
  rw [stepContinuous_eq, continuousEquations_eq, finiteStep_of_solve hδ]
  exact ⟨_, rfl⟩

/-! ### Damped least squares -/

open Matrix in
/-- **Damped least squares are solved exactly.** For every number of unknowns and all residuals
with weights that are not negative: with damping there is a step, which solves the damped normal
equations, is the only minimum of the damped sum of squares, and leaves a sum of squares that is no
larger than before; and without damping there is none exactly if some direction is not seen by any
residual of positive weight. The order of the residuals does not matter. So with damping the
steps of the solver do not fail. -/
theorem damped_steps_are_optimal :
    (∀ (n : ℕ) (os : List (Observation ℝ n)), (∀ o ∈ os, 0 ≤ o.weight) →
      (∀ damping > 0, ∃ δ, (NormalEquations.ofList os).solve damping = some δ ∧
        (normalMatrix os + damping • 1) *ᵥ δ.get = -pull os ∧
        (∀ x ≠ δ.get, dampedCost os damping δ.get < dampedCost os damping x) ∧
        cost os δ.get ≤ cost os 0) ∧
      ((NormalEquations.ofList os).solve 0 = none ↔
        ∃ v ≠ 0, ∀ o ∈ os, 0 < o.weight → o.row.get ⬝ᵥ v = 0)) ∧
    (∀ (n : ℕ) (os os' : List (Observation ℝ n)) (damping : ℝ), os.Perm os' →
      (NormalEquations.ofList os).solve damping = (NormalEquations.ofList os').solve damping) ∧
    (∀ (motion : ScanMotion ℝ) (rs : List (Residual ℝ)) (finishOnly : Bool), ∀ damping > 0,
      (∀ r ∈ rs, 0 ≤ r.weight) → ∃ moved, stepRigid motion rs finishOnly damping = .ok moved) ∧
    ∀ (motion : ScanMotion ℝ) (rs : List (Residual ℝ)) (previous : Option (ScanMotion ℝ))
      (options : SolverOptions ℝ), 0 < options.damping → 0 ≤ options.locationWeight →
      0 ≤ options.velocityWeight → (∀ r ∈ rs, 0 ≤ r.weight) →
      ∃ moved, stepContinuous motion rs previous options = .ok moved := by
  refine ⟨fun n os hw => ⟨fun damping hdamping => ?_, solve_zero_eq_none_iff hw⟩,
    fun n os os' damping h => ?_, fun motion rs finishOnly damping hdamping hw => ?_,
    fun motion rs previous options hdamping hlocation hvelocity hw => ?_⟩
  · obtain ⟨δ, hδ⟩ := exists_solve hw hdamping
    have hequations := mulVec_of_solve hδ
    have hleast : ∀ x ≠ δ.get, dampedCost os damping δ.get < dampedCost os damping x := fun x hx =>
      dampedCost_lt (posDef_damped hw hdamping) hequations hx
    refine ⟨δ, hδ, hequations, hleast, cost_le_cost_zero hdamping.le ?_⟩
    rcases eq_or_ne 0 δ.get with hzero | hzero
    · rw [hzero]
    · exact (hleast 0 hzero).le
  · rw [NormalEquations.ofList_perm h]
  · exact exists_stepRigid motion finishOnly hdamping hw
  · exact exists_stepContinuous motion previous hdamping hlocation hvelocity hw

open Matrix in
/-- A single residual that sees the first of two unknowns: without damping there is no step, with
damping it goes half the way. -/
theorem damped_steps_are_optimal_one_row :
    let os : List (Observation ℝ 2) := [⟨#v[1, 0], 1, 1⟩]
    let r : Residual ℝ := ⟨⟨1, 0, 0⟩, ⟨0, 0, 1⟩, 1, 1, 1⟩
    (NormalEquations.ofList os).solve 0 = none ∧
      (∃ δ, (NormalEquations.ofList os).solve 1 = some δ ∧ δ.get = ![-1 / 2, 0]) ∧
      (∃ moved, stepRigid .identity [r] false 1 = .ok moved) ∧
      ∃ moved, stepContinuous .identity [r] (some .identity) .standard = .ok moved := by
  intro os r
  obtain ⟨hsolve, -, hrigid, hcontinuous⟩ := damped_steps_are_optimal
  have hw : ∀ o ∈ os, 0 ≤ o.weight := by
    simp [os]
  have hr : ∀ r' ∈ [r], 0 ≤ r'.weight := by
    simp [r]
  obtain ⟨hdamped, hundamped⟩ := hsolve 2 os hw
  refine ⟨hundamped.mpr ⟨![0, 1], ?_, ?_⟩, ?_, hrigid _ _ _ 1 one_pos hr,
    hcontinuous _ _ _ _ ?_ ?_ ?_ hr⟩
  · exact fun h => one_ne_zero (congrFun h 1)
  · simp [os, dotProduct, Vector.get_eq_getElem]
  · obtain ⟨δ, hδ, hequations, -⟩ := hdamped 1 one_pos
    refine ⟨δ, hδ, ?_⟩
    have hfirst := congrFun hequations 0
    have hsecond := congrFun hequations 1
    simp [os, normalMatrix, pull, mulVec, dotProduct, Vector.get_eq_getElem, vecMulVec_apply,
      Matrix.one_apply] at hfirst hsecond
    funext i
    fin_cases i
    · change δ[0] = -1 / 2
      linarith
    · exact hsecond
  · norm_num [SolverOptions.standard]
  · norm_num [SolverOptions.standard]
  · norm_num [SolverOptions.standard]

end PointToPlane

end LidarOdometry
