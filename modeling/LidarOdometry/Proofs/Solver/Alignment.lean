import LidarOdometry.Proofs.Geometry.Pose
import LidarOdometry.Proofs.Registration.Attempts
import LidarOdometry.Proofs.Registration.Placement
import LidarOdometry.Proofs.Solver.Course

/-!
# Aligned Scans

A scan is aligned if every keypoint that is matched lies on its plane, and the motion continues the
previous one where the two are tied. All residuals of a step then vanish, so with damping its only
solution is zero. A zero rotation vector does not turn, whatever the pivot, and so the step leaves
the motion where it is. The next round finds the same residuals; thus it does not matter how many
rounds are made, nor whether a step that moves nothing counts as small.

## Main definitions

* `SolverOptions.Damped`: damping, and no negative weights.
* `Problem.Aligned`: aligned scans.

## Main results

* `PointToPlane.exists_step_self`: a step from residuals that vanish.
* `PointToPlane.exists_round_self`: a round from an aligned motion.
* `PointToPlane.aligned_scan_stays`: aligned scans are fixed points of the solver.
* `PointToPlane.exists_aligned_on_floor`: a keypoint on a floor is aligned with it.
-/

namespace LidarOdometry

/-- **Damping, and no negative weights.** A negative power would weigh a neighbourhood without any
flatness infinitely. -/
structure SolverOptions.Damped (options : SolverOptions ℝ) : Prop where
  damping : 0 < options.damping
  planarityPower : 0 ≤ options.planarityPower
  locationWeight : 0 ≤ options.locationWeight
  velocityWeight : 0 ≤ options.velocityWeight

/-- **An aligned scan**: under the guess there are enough matches, each on its plane, and where the
motion is tied to the previous one it continues it without a gap. -/
structure Problem.Aligned [EigenSolver ℝ] (problem : Problem ℝ) (options : SolverOptions ℝ) :
    Prop where
  enough : options.minResiduals ≤ (problem.found options problem.guess).length
  distance_eq_zero : ∀ r ∈ problem.found options problem.guess, r.distance = 0
  locationGap_eq_zero : options.metric = .continuous → ∀ previous ∈ problem.tie options,
    PointToPlane.locationGap problem.guess previous = 0
  velocityGap_eq_zero : options.metric = .continuous → ∀ previous ∈ problem.tie options,
    PointToPlane.velocityGap problem.guess previous = 0

namespace PointToPlane

/-! ### Steps that move nothing -/

section Steps

/-- A step of zeros has no component. -/
theorem unknowns_zero {n : ℕ} (i : ℕ) (h : i + 2 < n) :
    unknowns (Vector.replicate n (0 : ℝ)) i h = 0 := by
  refine Vec3.ext ?_ ?_ ?_ <;> exact Vector.getElem_replicate _

/-- **A rigid step of zero** moves nothing, whichever ends it moves. -/
theorem moveRigid_zero (motion : ScanMotion ℝ) (finishOnly : Bool) :
    moveRigid motion finishOnly (Vector.replicate 6 0) = motion := by
  have hupdate : rigidUpdate (Vector.replicate 6 (0 : ℝ)) = ⟨0, 0⟩ :=
    congrArg₂ Update.mk (unknowns_zero 0 _) (unknowns_zero 3 _)
  refine ScanMotion.ext ?_ ?_ rfl rfl
  · rw [moveRigid, hupdate, Update.move_zero, ite_self]
  · rw [moveRigid, hupdate]
    exact Update.move_zero _ _

/-- **A continuous step of zero** moves nothing. -/
theorem moveContinuous_zero (motion : ScanMotion ℝ) :
    moveContinuous motion (Vector.replicate 12 0) = motion := by
  have hstart : startUpdate (Vector.replicate 12 (0 : ℝ)) = ⟨0, 0⟩ :=
    congrArg₂ Update.mk (unknowns_zero 0 _) (unknowns_zero 3 _)
  have hfinish : finishUpdate (Vector.replicate 12 (0 : ℝ)) = ⟨0, 0⟩ :=
    congrArg₂ Update.mk (unknowns_zero 6 _) (unknowns_zero 9 _)
  refine ScanMotion.ext ?_ ?_ rfl rfl
  · rw [moveContinuous, hstart, Update.move_zero]
  · rw [moveContinuous, hfinish, Update.move_zero]

/-- Where there are no gaps, the ties to the previous scan vanish. -/
theorem residual_of_mem_continuityObservations {motion previous : ScanMotion ℝ}
    {locationWeight velocityWeight : ℝ} (hlocation : locationGap motion previous = 0)
    (hvelocity : velocityGap motion previous = 0) :
    ∀ o ∈ continuityObservations motion previous locationWeight velocityWeight,
      o.residual = 0 := by
  have hzero : ∀ axis, (0 : Vec3 ℝ).coordinates axis = 0 := fun axis => by
    fin_cases axis <;> rfl
  intro o ho
  obtain ⟨axis, -, ho⟩ := List.mem_flatMap.mp ho
  rw [hlocation, hvelocity, hzero] at ho
  rcases List.mem_pair.mp ho with rfl | rfl
  · rfl
  · rfl

variable {motion : ScanMotion ℝ} {rs : List (Residual ℝ)} {previous : Option (ScanMotion ℝ)}
  {options : SolverOptions ℝ}

/-- Matches that lie on their planes move nothing in a rigid step. -/
theorem exists_stepRigid_self (finishOnly : Bool) {damping : ℝ} (hdamping : 0 < damping)
    (hw : ∀ r ∈ rs, 0 ≤ r.weight) (hdistance : ∀ r ∈ rs, r.distance = 0) :
    ∃ size, stepRigid motion rs finishOnly damping = .ok (motion, size) := by
  have hweight : ∀ o ∈ rs.map (rigidObservation motion.finish.position), 0 ≤ o.weight :=
    List.forall_mem_map.mpr hw
  have hsolve := solve_eq_zero hweight hdamping (List.forall_mem_map.mpr hdistance)
  rw [stepRigid_eq, rigidEquations_eq, finiteStep_of_solve hsolve, Except.map, moveRigid_zero]
  exact ⟨_, rfl⟩

/-- Matches that lie on their planes move nothing in a continuous step either, unless a tie to the
previous scan does. -/
theorem exists_stepContinuous_self (hoptions : options.Damped) (hw : ∀ r ∈ rs, 0 ≤ r.weight)
    (hdistance : ∀ r ∈ rs, r.distance = 0)
    (hlocation : ∀ m ∈ previous, locationGap motion m = 0)
    (hvelocity : ∀ m ∈ previous, velocityGap motion m = 0) :
    ∃ size, stepContinuous motion rs previous options = .ok (motion, size) := by
  have hresidual : ∀ o ∈ continuousObservations motion rs previous options, o.residual = 0 := by
    rw [continuousObservations, List.forall_mem_append]
    refine ⟨List.forall_mem_map.mpr hdistance, ?_⟩
    cases previous with
    | none => exact List.forall_mem_nil _
    | some m => exact residual_of_mem_continuityObservations (hlocation m rfl) (hvelocity m rfl)
  have hweight := weight_of_mem_continuousObservations motion previous hoptions.locationWeight
    hoptions.velocityWeight hw
  rw [stepContinuous_eq, continuousEquations_eq,
    finiteStep_of_solve (solve_eq_zero hweight hoptions.damping hresidual), Except.map,
    moveContinuous_zero]
  exact ⟨_, rfl⟩

/-- **Where all residuals vanish, a step moves nothing**, with either metric. -/
theorem exists_step_self (hoptions : options.Damped) (hw : ∀ r ∈ rs, 0 ≤ r.weight)
    (hdistance : ∀ r ∈ rs, r.distance = 0)
    (hlocation : options.metric = .continuous → ∀ m ∈ previous, locationGap motion m = 0)
    (hvelocity : options.metric = .continuous → ∀ m ∈ previous, velocityGap motion m = 0) :
    ∃ size, step motion rs previous options = .ok (motion, size) := by
  rw [step]
  cases hmetric : options.metric with
  | rigid => exact exists_stepRigid_self options.compensate hoptions.damping hw hdistance
  | continuous =>
      exact exists_stepContinuous_self hoptions hw hdistance (hlocation hmetric)
        (hvelocity hmetric)

end Steps

/-! ### Aligned scans -/

section Aligned

variable [EigenSolver ℝ] {problem : Problem ℝ} {options : SolverOptions ℝ}

/-- **A round from an aligned motion** moves nothing. -/
theorem exists_round_self (hoptions : options.Damped) (h : problem.Aligned options) :
    ∃ size, Round problem options problem.guess problem.guess size := by
  obtain ⟨size, hstep⟩ := exists_step_self hoptions weight_nonneg h.distance_eq_zero
    h.locationGap_eq_zero h.velocityGap_eq_zero
  exact ⟨size, h.enough, hstep⟩

/-- **The solver returns the guess** of an aligned scan. -/
theorem register_of_aligned (hoptions : options.Damped) (h : problem.Aligned options) :
    (register problem options ()).1 = .ok ⟨problem.guess,
      problem.guess.place options.compensate problem.keypoints,
      if options.iterations = 0 then 0 else (problem.found options problem.guess).length⟩ := by
  obtain ⟨size, hround⟩ := exists_round_self hoptions h
  rw [register_eq, hround.iterate_self]
  rfl

/-- **Aligned scans are fixed points of the solver.** With damping and without negative weights,
whatever the map, the keypoints, the metric and the way keypoints are placed: if under the guess
there are enough matches, all on their planes, and no gap to the previous scan where one is tied,
then however many rounds are allowed, the solver returns the guess. A registration that asks about
such a scan finds that its candidate needs no correction; if it stops at this attempt, so says its
summary. -/
theorem aligned_scan_stays :
    (∀ (problem : Problem ℝ) (options : SolverOptions ℝ), options.Damped →
      problem.Aligned options → ∀ n, (register problem { options with iterations := n } ()).1 =
        .ok ⟨problem.guess, problem.guess.place options.compensate problem.keypoints,
          if n = 0 then 0 else (problem.found options problem.guess).length⟩) ∧
    ∀ (r : Registrar Unit ℝ) (scan : Scan ℝ) (previous : ScanMotion ℝ) (i : ℕ),
      r.solver = register → (r.question scan previous i).2.Damped →
      (r.question scan previous i).1.Aligned (r.question scan previous i).2 →
      (∃ registered assessment,
        (r.result scan previous () i).candidate? = some (registered, assessment) ∧
        registered.motion = scan.guess ∧ assessment.correction = 0) ∧
      ∀ session, scan.points ≠ [] → scan.previous = some previous → 0 < r.options.maxAttempts →
        r.StopsAt scan previous () i →
        let summary := (r.register scan session).1
        summary.motion = scan.guess ∧ summary.assessment.correction = 0 := by
  refine ⟨fun problem options hoptions h n => ?_,
    fun r scan previous i hsolver hoptions h => ?_⟩
  · have hoptions' : SolverOptions.Damped { options with iterations := n } :=
      ⟨hoptions.damping, hoptions.planarityPower, hoptions.locationWeight, hoptions.velocityWeight⟩
    have h' : problem.Aligned { options with iterations := n } :=
      ⟨h.enough, h.distance_eq_zero, h.locationGap_eq_zero, h.velocityGap_eq_zero⟩
    exact register_of_aligned hoptions' h'
  · obtain ⟨registered, hregistered, hmotion⟩ : ∃ registered,
        r.answer scan previous () i = .ok registered ∧ registered.motion = scan.guess := by
      rw [Registrar.answer, hsolver]
      exact ⟨_, register_of_aligned hoptions h, rfl⟩
    have hcorrection : (Assessment.ofMotion registered.motion scan.guess (some previous)).correction
        = 0 := by
      rw [hmotion]
      exact scan.guess.departureFrom_self
    refine ⟨⟨_, _, Registrar.candidate?_of_answer hregistered, hmotion, hcorrection⟩,
      fun session hpoints hprevious hattempts hstops => ?_⟩
    obtain ⟨j, hstops', hreports, -⟩ :=
      Registrar.register_reports hpoints hprevious hattempts session
    obtain rfl := Registrar.stopsAt_unique hstops' hstops
    refine ⟨(hreports.motion_of_answer hregistered).trans hmotion, ?_⟩
    rw [hreports.assessment_of_answer hregistered, hcorrection]

end Aligned

/-! ### A scan on the floor -/

section Floor

/-- A pose ahead of the origin, along the first axis. -/
noncomputable def ahead (x : ℝ) : Pose ℝ :=
  ⟨.identity, ⟨x, 0, 0⟩⟩

/-- Halfway between two poses ahead there is another. -/
theorem interpolate_ahead (x y : ℝ) :
    (ahead x).interpolate (ahead y) (1 / 2) = ahead ((x + y) / 2) := by
  refine Pose.ext (Mat3.slerp_self Mat3.IsRotation.identity _) ?_
  rw [Pose.interpolate, Vec3.lerp_eq]
  refine Vec3.ext ?_ ?_ ?_ <;> norm_num [Vec3.scale, ahead]
  ring

/-- The options for the floor are damped. -/
theorem damped_floorOptions : floorOptions.Damped := by
  constructor <;> norm_num [floorOptions, SolverOptions.standard]

/-- **A keypoint on the floor** is aligned with it, if the guess places it there and continues the
previous motion. It is the only match. -/
theorem exists_aligned_on_floor :
    let _ : EigenSolver ℝ := ⟨Mat3.jacobi⟩
    let guess : ScanMotion ℝ := .between (ahead 0) (ahead 2)
    let previous : ScanMotion ℝ := .between (ahead (-2)) (ahead 0)
    let keypoint : ScanPoint ℝ := .sampled ⟨3, 9 / 2, 0⟩ 0 (1 / 2)
    ∃ answers, ∃ map : VoxelMap ℝ,
      VoxelMap.Run (.empty 8 20) [.insert (floorPoints ⟨4, 4, 0⟩ 2 1) ⟨20, 0⟩] answers map ∧
      let problem : Problem ℝ := ⟨map, [keypoint], guess, some previous, 0⟩
      problem.Aligned floorOptions ∧ (problem.found floorOptions guess).length = 1 := by
  intro _ guess previous keypoint
  obtain ⟨answers, map, hrun, hneighbors⟩ := exists_floor
  refine ⟨answers, map, hrun, ?_⟩
  intro problem
  have hworld : guess.locate true keypoint = ⟨4, 9 / 2, 0⟩ := by
    change ((ahead 0).interpolate (ahead 2) (1 / 2)).apply ⟨3, 9 / 2, 0⟩ = _
    rw [interpolate_ahead, Pose.apply, ahead, Mat3.identity_mulVec]
    refine Vec3.ext ?_ ?_ ?_ <;> norm_num
  obtain ⟨r, hfound, hdistance⟩ : ∃ r, problem.found floorOptions guess = [r] ∧
      r.distance = 0 := by
    obtain ⟨weight, -, hresiduals⟩ := residuals_floor le_rfl (by norm_num)
      (hneighbors 0 le_rfl (by norm_num)) { keypoint with world := guess.locate true keypoint }
      hworld
    exact ⟨_, hresiduals, rfl⟩
  refine ⟨⟨hfound ▸ le_rfl, ?_, fun _ _ h => ?_, fun _ _ h => ?_⟩, congrArg List.length hfound⟩
  · change ∀ r ∈ problem.found floorOptions guess, _
    rw [hfound, List.forall_mem_singleton]
    exact hdistance
  · cases h
    refine Vec3.ext ?_ ?_ ?_ <;>
      norm_num [locationGap, problem, guess, previous, ScanMotion.between, ahead]
  · cases h
    refine Vec3.ext ?_ ?_ ?_ <;>
      norm_num [velocityGap, problem, guess, previous, ScanMotion.between, ahead]

/-- The sensor moves two ahead during the scan, as it did during the previous one. A keypoint lies
on the floor halfway, off the centre of the points around it. However many rounds are allowed, the
guess is returned, and registration corrects it by nothing. -/
theorem aligned_scan_stays_on_floor :
    letI : EigenSolver ℝ := ⟨Mat3.jacobi⟩
    let guess : ScanMotion ℝ := .between (ahead 0) (ahead 2)
    let previous : ScanMotion ℝ := .between (ahead (-2)) (ahead 0)
    let keypoint : ScanPoint ℝ := .sampled ⟨3, 9 / 2, 0⟩ 0 (1 / 2)
    ∃ answers, ∃ map : VoxelMap ℝ,
      VoxelMap.Run (.empty 8 20) [.insert (floorPoints ⟨4, 4, 0⟩ 2 1) ⟨20, 0⟩] answers map ∧
      (∀ n, (register ⟨map, [keypoint], guess, some previous, 0⟩
        { floorOptions with iterations := n } ()).1 =
          .ok ⟨guess, guess.place true [keypoint], if n = 0 then 0 else 1⟩) ∧
      ∀ session,
        let registrar : Registrar Unit ℝ := ⟨.driving, floorOptions, register, map⟩
        let summary := (registrar.register ⟨[keypoint], guess, some previous, 0, 1, 1⟩ session).1
        summary.motion = guess ∧ summary.assessment.correction = 0 := by
  let _ : EigenSolver ℝ := ⟨Mat3.jacobi⟩
  intro guess previous keypoint
  obtain ⟨answers, map, hrun, haligned, hcount⟩ := exists_aligned_on_floor
  obtain ⟨hsolver, hregistrar⟩ := aligned_scan_stays
  refine ⟨answers, map, hrun, fun n => ?_, fun session => ?_⟩
  · rw [hsolver _ floorOptions damped_floorOptions haligned n, hcount]
    rfl
  · intro registrar summary
    let scan : Scan ℝ := ⟨[keypoint], guess, some previous, 0, 1, 1⟩
    have hkeypoints : registrar.keypoints scan 0 = [keypoint] := Sampler.thin_singleton _ _
    have hquestion : registrar.question scan previous 0 =
        (⟨map, [keypoint], guess, some previous, 0⟩, floorOptions) := by
      rw [Registrar.question, hkeypoints]
      rfl
    have hstops : registrar.StopsAt scan previous () 0 :=
      ⟨Nat.one_pos, fun j hlt => absurd hlt (Nat.not_lt_zero j), .inr rfl⟩
    have hregistered := hregistrar registrar scan previous 0 rfl
    rw [hquestion] at hregistered
    exact (hregistered damped_floorOptions haligned).2 session (List.cons_ne_nil _ _) rfl
      (Nat.succ_pos 5) hstops

end Floor

end PointToPlane

end LidarOdometry
