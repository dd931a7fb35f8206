import LidarOdometry.Proofs.Options.Profile
import LidarOdometry.Proofs.Scan.Motion
import LidarOdometry.Proofs.Engine.Placement
import LidarOdometry.Proofs.Registration.Attempts

/-!
# Motion Undone before Registration

In one mode the motion during a scan is undone once, with the guess, before the scan is
registered. The thinned cloud is then placed with the pose at the finish alone, while the full
cloud is placed with interpolated poses. The two agree, and what enters the map is compensated,
if registration moves the guess as a whole.

The motion is undone only if a scan was registered before. A first scan is placed with the pose
at the finish all the same, so that its points enter the map where they lie only if the
sensor was at rest.

## Main definitions

* `ScanCall.IsRigid`: rigid guesses.
* `Engine.carrying`: a solver that moves guesses as a whole.

## Main results

* `Engine.undone_clouds_agree`: the two clouds after the first scan, and at the first scan.
* `Engine.exists_first_scan_not_compensated`: a first scan that is not compensated.
-/

namespace LidarOdometry

variable {σ : Type}

/-- **A guess from outside is rigid.** -/
def ScanCall.IsRigid : ScanCall ℝ → Prop
  | predicted _ => True
  | guessed _ guess => guess.IsRigid

namespace Engine

variable {e : Engine σ ℝ} {c : ScanCall ℝ}

/-- Guesses are rigid, wherever they come from. -/
theorem isRigid_guessFor (htrajectory : ∀ m ∈ e.trajectory, m.IsRigid) (hcall : c.IsRigid) :
    (e.guessFor c).IsRigid := by
  cases c with
  | predicted points => exact Initialization.isRigid_predictTimed htrajectory points
  | guessed points guess => exact hcall

/-- The points that are registered: with their motion undone, unless the scan is the first. -/
theorem points_settled_of_constantVelocity (hmode : e.options.compensation = .constantVelocity)
    (c : ScanCall ℝ) : (e.registrar.settled (e.scanFor c)).points =
      if e.trajectory = [] then (e.scanFor c).points
      else (e.guessFor c).settle (e.scanFor c).points := by
  by_cases hfirst : e.trajectory = []
  · have hprevious : ¬ (e.scanFor c).previous.isSome = true := by
      change ¬ e.trajectory.getLast?.isSome = true
      rw [hfirst, List.getLast?_nil]
      exact Bool.false_ne_true
    rw [if_pos hfirst, Registrar.settled, if_neg fun h => hprevious h.2]
  · have hprevious : (e.scanFor c).previous.isSome = true :=
      List.getLast?_isSome.mpr hfirst
    rw [if_neg hfirst, Registrar.settled, if_pos ⟨hmode, hprevious⟩]
    rfl

/-- **The thinned cloud** is placed with the pose at the finish. -/
theorem corrected_of_constantVelocity (hmode : e.options.compensation = .constantVelocity)
    (c : ScanCall ℝ) : (e.call c).1.corrected = (e.call c).1.motion.place false
      (if e.trajectory = [] then (e.scanFor c).points
      else (e.guessFor c).settle (e.scanFor c).points) := by
  have hcompensate : e.options.compensation.placesAlongScan = false := by
    rw [hmode]
    rfl
  rw [← points_settled_of_constantVelocity hmode, ← hcompensate]
  exact e.corrected_call c

/-- **The full cloud** is placed with interpolated poses. -/
theorem allCorrected_of_constantVelocity (hmode : e.options.compensation = .constantVelocity)
    (c : ScanCall ℝ) : (e.call c).1.allCorrected = (e.call c).1.motion.place true c.points := by
  have hcompensate : (e.options.compensation != .none) = true := by
    rw [hmode]
    rfl
  rw [← hcompensate]
  exact e.allCorrected_call c

/-- What the map is after an accepted call. -/
theorem map_of_accepted (h : (e.call c).1.isSuccess = true) : (e.call c).2.map =
    ((e.map.insert ((e.call c).1.corrected.map ScanPoint.world) e.options.density).2.prune
      (e.call c).1.motion.finish.position e.options.maxDistance).2 := by
  obtain ⟨session, heq⟩ := exists_of_accepted h
  rw [heq]
  rfl

/-- **Clouds whose motion was undone before registration.** After the first scan, wherever the
guess comes from, the thinned cloud agrees with the full one thinned, point by point, if
registration moves the guess as a whole; so what enters the map is compensated. At the first scan
the thinned cloud is placed with the pose at the finish instead, which is the same only of a sensor
at rest. -/
theorem undone_clouds_agree (e : Engine σ ℝ)
    (hmode : e.options.compensation = .constantVelocity)
    (htrajectory : ∀ m ∈ e.trajectory, m.IsRigid) (c : ScanCall ℝ) (hcall : c.IsRigid) :
    let summary := (e.call c).1
    let placed := Sampler.thin (e.options.gridSizes e.trajectory.length).1 summary.allCorrected
    (e.trajectory ≠ [] → ∀ move : Pose ℝ, move.IsRigid →
      (e.guessFor c).IsCarried move summary.motion → (e.guessFor c).sweep < Real.pi →
      List.Forall₂ ScanPoint.Coincides summary.corrected placed ∧
        (summary.isSuccess = true → (e.call c).2.map =
          ((e.map.insert (placed.map ScanPoint.world) e.options.density).2.prune
            summary.motion.finish.position e.options.maxDistance).2)) ∧
    (e.trajectory = [] → c.points ≠ [] →
      summary.isSuccess = true ∧ summary.motion = e.guessFor c ∧
      List.Forall₂ (fun p q => q = { p with world := (summary.motion.poseAt p.phase).apply p.raw } ∧
        p.world = summary.motion.finish.apply p.raw) summary.corrected placed ∧
      (summary.motion.start = summary.motion.finish → summary.corrected = placed)) := by
  intro summary placed
  set points := (e.scanFor c).points
  have hplaced : placed = summary.motion.place true points := by
    change Sampler.thin _ (e.call c).1.allCorrected = _
    rw [allCorrected_of_constantVelocity hmode, Sampler.thin_place]
    rfl
  have hcorrected := corrected_of_constantVelocity hmode c
  refine ⟨fun hprevious move hmove hcarried hsweep => ?_, fun hfirst hscan => ?_⟩
  -- after the first scan the motion is undone with the guess, which registration moves as a whole
  · have hagree : List.Forall₂ ScanPoint.Coincides summary.corrected placed := by
      rw [if_neg hprevious] at hcorrected
      rw [hcorrected, hplaced]
      exact ScanMotion.forall₂_coincides_place_settle hcarried hmove
        (isRigid_guessFor htrajectory hcall) hsweep points
    refine ⟨hagree, fun hsuccess => ?_⟩
    rw [map_of_accepted hsuccess, ScanPoint.map_world_of_coincides hagree]
  -- in the first scan nothing is undone, and yet the finish alone places the thinned cloud
  · obtain ⟨hsuccess, hmotion⟩ := call_first hfirst hscan
    rw [if_pos hfirst] at hcorrected
    refine ⟨hsuccess, hmotion, ?_, fun hrest => ?_⟩
    · rw [hcorrected, hplaced, ScanMotion.place, ScanMotion.place, List.forall₂_map_left_iff,
        List.forall₂_map_right_iff, List.forall₂_same]
      exact fun p _ => ⟨rfl, rfl⟩
    · have hrigid : summary.motion.IsRigid := hmotion ▸ isRigid_guessFor htrajectory hcall
      rw [hcorrected, hplaced, ScanMotion.place_true_eq hrigid hrest]

/-! ### A solver that moves guesses as a whole -/

/-- A solver that moves every guess by `move`. -/
noncomputable def carrying (move : Pose ℝ) : Solver Unit ℝ :=
  .pure fun problem _ => .ok ⟨⟨move * problem.guess.start, move * problem.guess.finish,
    problem.guess.startTime, problem.guess.finishTime⟩, problem.keypoints, 0⟩

/-- With it a scan after the first is found where its guess was moved to. -/
theorem isCarried_call {move : Pose ℝ} {e : Engine Unit ℝ} (hsolver : e.solver = carrying move)
    (hattempts : 0 < e.options.maxAttempts) (htrajectory : e.trajectory ≠ [])
    (hpoints : c.points ≠ []) : (e.guessFor c).IsCarried move (e.call c).1.motion := by
  obtain ⟨previous, hprevious⟩ : ∃ previous, e.trajectory.getLast? = some previous :=
    Option.isSome_iff_exists.mp (List.getLast?_isSome.mpr htrajectory)
  have hthinned : (e.scanFor c).points ≠ [] := Sampler.thin_ne_nil hpoints
  obtain ⟨sampler, heq⟩ := e.call_eq c
  obtain ⟨i, -, hreports, -⟩ := Registrar.register_reports (r := e.registrar) hthinned hprevious
    hattempts ⟨e.session.memory, sampler⟩
  obtain ⟨registered, hanswer, hstart, hfinish⟩ : ∃ registered,
      e.registrar.answer (e.scanFor c) previous e.session.memory i = .ok registered ∧
        registered.motion.start = move * (e.guessFor c).start ∧
        registered.motion.finish = move * (e.guessFor c).finish := by
    have hcarrying : e.registrar.solver = carrying move := hsolver
    rw [Registrar.answer, hcarrying]
    exact ⟨_, rfl, rfl, rfl⟩
  rw [heq]
  have hmotion := hreports.motion_of_answer hanswer
  exact ⟨(congrArg ScanMotion.start hmotion).trans hstart,
    (congrArg ScanMotion.finish hmotion).trans hfinish⟩

/-! ### Two scans of one point -/

/-- The driving profile, with the motion undone before registration. -/
noncomputable def undoing : OdometryOptions ℝ :=
  { OdometryOptions.driving with compensation := .constantVelocity }

/-- These options are valid. -/
theorem valid_undoing : undoing.Valid :=
  { OdometryOptions.valid_ofProfile .driving with }

/-- A pose that is shifted and not turned. -/
noncomputable def slid (shift : Vec3 ℝ) : Pose ℝ :=
  ⟨.identity, shift⟩

/-- Such a pose is rigid. -/
theorem isRigid_slid (shift : Vec3 ℝ) : (slid shift).IsRigid :=
  Mat3.IsRotation.identity

/-- Such a pose shifts every point. -/
theorem apply_slid (shift v : Vec3 ℝ) : (slid shift).apply v = v + shift := by
  rw [Pose.apply, slid, Mat3.identity_mulVec]

/-- A sensor that moves from the origin without turning. -/
noncomputable def sliding (shift : Vec3 ℝ) : ScanMotion ℝ :=
  .between (slid 0) (slid shift)

/-- A sliding sensor has a rigid motion. -/
theorem isRigid_sliding (shift : Vec3 ℝ) : (sliding shift).IsRigid :=
  ⟨isRigid_slid 0, isRigid_slid shift⟩

/-- A sliding sensor turns by less than a half turn. -/
theorem sweep_sliding (shift : Vec3 ℝ) : (sliding shift).sweep < Real.pi := by
  have hsweep : (sliding shift).sweep = 0 := Mat3.IsRotation.identity.angle_transpose_mul_self
  rw [hsweep]
  exact Real.pi_pos

/-- At a fraction of the scan the sensor has gone that fraction of the way. -/
theorem poseAt_sliding (shift : Vec3 ℝ) (phase : ℝ) :
    (sliding shift).poseAt phase = slid (shift.scale phase) := by
  refine Pose.ext (Mat3.slerp_self Mat3.IsRotation.identity phase) ?_
  refine (Vec3.lerp_eq _ _ _).trans ?_
  refine Vec3.ext ?_ ?_ ?_ <;> simp [sliding, slid, ScanMotion.between, Vec3.scale]

/-- A scan of a single point, acquired in mid-motion. -/
noncomputable def midway : ScanCall ℝ :=
  .guessed [.sampled ⟨0, 1, 0⟩ 0 (1 / 2)] (sliding ⟨2, 0, 0⟩)

/-- A sensor that was at rest has a trajectory to go on from. -/
theorem trajectory_after_rest {solver : Solver σ ℝ} {memory : σ} {fresh : Engine σ ℝ}
    (hfresh : ofOptions undoing solver memory = .ok fresh) (points : List (ScanPoint ℝ))
    (hpoints : points ≠ []) :
    (fresh.after [.predicted points]).trajectory ≠ [] ∧
      ∀ m ∈ (fresh.after [.predicted points]).trajectory, m.IsRigid := by
  have htrajectory := trajectory_after_first (c := .predicted points) hfresh hpoints
  have hnone : ∀ m ∈ fresh.trajectory, m.IsRigid := by
    rw [eq_of_ofOptions hfresh]
    exact fun m hm => absurd hm List.not_mem_nil
  rw [htrajectory]
  refine ⟨List.cons_ne_nil _ _, fun m hm => ?_⟩
  rw [List.mem_singleton.mp hm]
  exact isRigid_guessFor hnone trivial

/-- **A second scan** in mid-motion, moved on by the solver. -/
theorem undone_clouds_agree_midway : ∃ e : Engine Unit ℝ,
    e.options.compensation = .constantVelocity ∧ (∀ m ∈ e.trajectory, m.IsRigid) ∧
      midway.IsRigid ∧ (e.call midway).1.corrected.map ScanPoint.world = [⟨3 / 2, 1, 0⟩] := by
  obtain ⟨fresh, hfresh⟩ := exists_ofOptions valid_undoing (carrying (slid ⟨1 / 2, 0, 0⟩)) ()
  obtain ⟨hprevious, hrigid⟩ := trajectory_after_rest hfresh [.untimed ⟨1, 0, 0⟩]
    (List.cons_ne_nil _ _)
  obtain ⟨hoptions, hsolver⟩ :=
    settings_after_ofOptions hfresh [.predicted [.untimed ⟨1, 0, 0⟩]]
  generalize fresh.after [.predicted [.untimed ⟨1, 0, 0⟩]] = e at *
  have hmode : e.options.compensation = .constantVelocity := by
    rw [hoptions]
    rfl
  have hattempts : 0 < e.options.maxAttempts := by
    rw [hoptions]
    exact Nat.pos_of_ne_zero valid_undoing.maxAttempts
  have hcarried := isCarried_call (c := midway) hsolver hattempts hprevious (List.cons_ne_nil _ _)
  have hcall : midway.IsRigid := isRigid_sliding _
  obtain ⟨hagree, -⟩ := (undone_clouds_agree e hmode hrigid midway hcall).1 hprevious _
    (isRigid_slid _) hcarried (sweep_sliding _)
  refine ⟨e, hmode, hrigid, hcall, ?_⟩
  have hpose : (e.call midway).1.motion.poseAt (1 / 2) = slid ⟨1 / 2, 0, 0⟩ * slid ⟨1, 0, 0⟩ := by
    have hhalf : (⟨2, 0, 0⟩ : Vec3 ℝ).scale (1 / 2) = ⟨1, 0, 0⟩ := by norm_num [Vec3.scale]
    rw [ScanMotion.poseAt_of_isCarried hcarried (isRigid_slid _) hcall (sweep_sliding _), midway]
    exact (congrArg _ (poseAt_sliding _ _)).trans (hhalf ▸ rfl)
  rw [ScanPoint.map_world_of_coincides hagree, allCorrected_of_constantVelocity hmode, midway,
    ScanCall.points, Sampler.thin_place, Sampler.thin_singleton]
  change [((e.call midway).1.motion.poseAt (1 / 2)).apply ⟨0, 1, 0⟩] = _
  rw [hpose, Pose.mul_apply, apply_slid, apply_slid]
  norm_num [Vec3.ext_iff]

/-- A scan of a single point, acquired when the motion started. -/
noncomputable def departure : ScanCall ℝ :=
  .guessed [.sampled 0 0 0] (sliding ⟨1, 0, 0⟩)

/-- **A first scan is not compensated**: of a sensor that moves, a point that was acquired when
the motion started enters the map where the sensor would have seen it at the finish. -/
theorem exists_first_scan_not_compensated : ∃ fresh : Engine Unit ℝ,
    ofOptions undoing (carrying .identity) () = .ok fresh ∧
      departure.IsRigid ∧ (fresh.guessFor departure).sweep < Real.pi ∧
      (fresh.call departure).1.isSuccess = true ∧
      (fresh.call departure).1.motion = fresh.guessFor departure ∧
      (fresh.call departure).1.allCorrected.map ScanPoint.world = [0] ∧
      (fresh.call departure).1.corrected.map ScanPoint.world = [⟨1, 0, 0⟩] := by
  obtain ⟨fresh, hfresh⟩ := exists_ofOptions valid_undoing (carrying .identity) ()
  have hnew := eq_of_ofOptions hfresh
  have hfirst : fresh.trajectory = [] := by rw [hnew]
  have hmode : fresh.options.compensation = .constantVelocity := by
    rw [hnew]
    rfl
  obtain ⟨hsuccess, hmotion⟩ := call_first (c := departure) hfirst (List.cons_ne_nil _ _)
  refine ⟨fresh, hfresh, isRigid_sliding _, sweep_sliding _, hsuccess, hmotion, ?_, ?_⟩
  · rw [allCorrected_of_constantVelocity hmode, hmotion]
    change [((sliding ⟨1, 0, 0⟩).poseAt 0).apply 0] = _
    rw [poseAt_sliding, apply_slid]
    simp [Vec3.ext_iff, Vec3.scale]
  · rw [corrected_of_constantVelocity hmode, hmotion, if_pos hfirst]
    change (ScanMotion.place _ _ (Sampler.thin _ [_])).map _ = _
    rw [Sampler.thin_singleton]
    change [(slid ⟨1, 0, 0⟩).apply 0] = _
    rw [apply_slid]
    simp [Vec3.ext_iff]

end Engine

end LidarOdometry
