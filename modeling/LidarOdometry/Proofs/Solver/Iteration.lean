import LidarOdometry.Proofs.Geometry.RotationVector
import LidarOdometry.Proofs.Scan.Motion
import LidarOdometry.Proofs.Solver.Matching

/-!
# What the Solver May Change

The solver moves its guess step by step, each step about a place that the steps before it have
moved. What it may change therefore follows from what one step may change. A step makes an update of
either end; the rigid metric makes one update of both ends, or of the finish alone if keypoints are
placed along the scan. Over the reals an update is a rigid motion of the world, whatever it turns
about; so with the rigid metric the whole iteration is one as well.

## Main definitions

* `Update.motion`: an update as a motion of the world.
* `Keeps`: what an iteration keeps of its guess, whatever the scalars.

## Main results

* `moved_of_step`: what one step does.
* `invariant_of_iterate`: what every step preserves, the iteration does.
* `keeps_of_iterate`, `isRigid_of_iterate`, `isCarried_of_iterate`: what the iteration preserves.
* `register_keeps_guess`: what the solver preserves.
-/

namespace LidarOdometry

namespace PointToPlane

/-! ### The iteration -/

section Iteration

/-- A computation succeeds if its first part does and, from there, the rest. -/
theorem exists_of_bind_eq_ok {ε β γ : Type} {first : Except ε β} {rest : β → Except ε γ} {c : γ}
    (h : first >>= rest = .ok c) : ∃ b, first = .ok b ∧ rest b = .ok c := by
  cases first with
  | error e => exact nomatch h
  | ok b => exact ⟨b, rfl, h⟩

variable {α : Type} [Scalar α] {guess motion moved : ScanMotion α} {rs : List (Residual α)}
  {previous : Option (ScanMotion α)} {options : SolverOptions α} {size : StepSize α}

/-- **What one step does**: it makes the updates of its metric. -/
theorem moved_of_step (h : step motion rs previous options = .ok (moved, size)) :
    (options.metric = .rigid ∧ ∃ δ, moved = moveRigid motion options.compensate δ) ∨
      (options.metric = .continuous ∧ ∃ δ, moved = moveContinuous motion δ) := by
  rw [step] at h
  split at h
  · next hmetric =>
      obtain ⟨δ, -, hδ⟩ := exists_of_bind_eq_ok h
      cases hδ
      exact .inl ⟨hmetric, δ, rfl⟩
  · next hmetric =>
      obtain ⟨δ, -, hδ⟩ := exists_of_bind_eq_ok h
      cases hδ
      exact .inr ⟨hmetric, δ, rfl⟩

/-- **What an iteration keeps of its guess**, whatever the scalars: the times; with the rigid metric
and keypoints placed along the scan the start, and with the rigid metric and keypoints placed at the
finish a sensor at rest. -/
structure Keeps (options : SolverOptions α) (guess motion : ScanMotion α) : Prop where
  startTime : motion.startTime = guess.startTime
  finishTime : motion.finishTime = guess.finishTime
  start : options.metric = .rigid → options.compensate = true → motion.start = guess.start
  rest : options.metric = .rigid → options.compensate = false → guess.start = guess.finish →
    motion.start = motion.finish

omit [Scalar α] in
/-- A guess keeps all of itself. -/
theorem Keeps.refl (options : SolverOptions α) (guess : ScanMotion α) :
    Keeps options guess guess :=
  ⟨rfl, rfl, fun _ _ => rfl, fun _ _ h => h⟩

/-- A step keeps it, too. -/
theorem Keeps.step (hkeeps : Keeps options guess motion)
    (h : step motion rs previous options = .ok (moved, size)) : Keeps options guess moved := by
  obtain ⟨hmetric, δ, rfl⟩ | ⟨hmetric, δ, rfl⟩ := moved_of_step h
  · refine ⟨hkeeps.startTime, hkeeps.finishTime, fun _ hcompensate => ?_,
      fun _ hcompensate hguess => ?_⟩
    · calc (moveRigid motion options.compensate δ).start
          = motion.start := if_pos hcompensate
        _ = guess.start := hkeeps.start hmetric hcompensate
    · -- both ends move alike, about one place
      have hrest := hkeeps.rest hmetric hcompensate hguess
      rw [moveRigid, hcompensate, hrest]
      rfl
  · have hother : options.metric ≠ .rigid := by
      rw [hmetric]
      decide
    exact ⟨hkeeps.startTime, hkeeps.finishTime, fun h => absurd h hother,
      fun h => absurd h hother⟩

variable [EigenSolver α] {map : VoxelMap α} {neighborhood : ℕ} {keypoints : List (ScanPoint α)}
  {n count found : ℕ}

/-- **What every step preserves, the iteration does.** -/
theorem invariant_of_iterate {P : ScanMotion α → Prop}
    (hstep : ∀ {motion moved rs size}, P motion →
      step motion rs previous options = .ok (moved, size) → P moved)
    (hmotion : P motion)
    (h : iterate map neighborhood options keypoints previous n motion count =
      .ok (moved, found)) : P moved := by
  -- on the number of steps left; the motion and the count are those reached so far
  induction n generalizing motion count with
  | zero =>
      rw [iterate_zero, Except.ok.injEq, Prod.mk.injEq] at h
      rw [← h.1]
      exact hmotion
  | succ n ih =>
      rw [iterate_succ] at h
      obtain ⟨rs, -, h⟩ := exists_of_bind_eq_ok h
      obtain ⟨⟨next, size⟩, hnext, h⟩ := exists_of_bind_eq_ok h
      have hP : P next := hstep hmotion hnext
      dsimp only at h
      split at h
      · cases h
        exact hP
      · exact ih hP h

/-- **Any number of rounds** keeps the same of the guess as one. -/
theorem keeps_of_iterate (h : iterate map neighborhood options keypoints previous n guess count =
    .ok (moved, found)) : Keeps options guess moved :=
  invariant_of_iterate Keeps.step (.refl options guess) h

/-- **The solver iterates** from its guess. -/
theorem iterate_of_register {problem : Problem α} {registered : Registered α}
    (h : (register problem options ()).1 = .ok registered) : ∃ neighborhood previous,
      iterate problem.map neighborhood options problem.keypoints previous options.iterations
        problem.guess 0 = .ok (registered.motion, registered.residuals) := by
  rw [register_apply, answer_eq] at h
  obtain ⟨⟨motion, residuals⟩, hiterate, h⟩ := exists_of_bind_eq_ok h
  cases h
  exact ⟨_, _, hiterate⟩

end Iteration

/-! ### Motions of the world -/

namespace Update

variable (u : Update ℝ) (pivot : Vec3 ℝ)

/-- **An update as a motion of the world.** -/
noncomputable def motion : Pose ℝ :=
  let rotation := Mat3.ofRotationVector u.turn
  ⟨rotation, pivot + u.shift - rotation.mulVec pivot⟩

/-- An update is a rigid motion. -/
theorem isRigid_motion : (u.motion pivot).IsRigid :=
  Mat3.isRotation_ofRotationVector u.turn

/-- **An update moves the world**, about whatever pivot. -/
theorem move_eq_mul (pose : Pose ℝ) : u.move pivot pose = u.motion pivot * pose := by
  refine Pose.ext rfl ?_
  rw [Pose.mul_position]
  refine Vec3.ext ?_ ?_ ?_ <;>
    simp only [move, turnAbout, motion, Pose.apply, Mat3.mulVec, Vec3.dot, Vec3.add_x, Vec3.add_y,
      Vec3.add_z, Vec3.sub_x, Vec3.sub_y, Vec3.sub_z] <;> ring

/-- The zero update leaves every pose where it is. -/
theorem move_zero (pose : Pose ℝ) : (⟨0, 0⟩ : Update ℝ).move pivot pose = pose := by
  have hrest : (⟨0, 0⟩ : Update ℝ).motion pivot = .identity := by
    refine Pose.ext Mat3.ofRotationVector_zero ?_
    rw [motion, Mat3.ofRotationVector_zero, Mat3.identity_mulVec]
    refine Vec3.ext ?_ ?_ ?_ <;> simp [Pose.identity]
  rw [move_eq_mul, hrest, Pose.identity_mul]

/-- An update keeps poses rigid. -/
theorem isRigid_move {pose : Pose ℝ} (h : pose.IsRigid) : (u.move pivot pose).IsRigid := by
  rw [move_eq_mul]
  exact (u.isRigid_motion pivot).mul h

end Update

section World

variable {guess motion moved : ScanMotion ℝ} {rs : List (Residual ℝ)}
  {previous : Option (ScanMotion ℝ)} {options : SolverOptions ℝ} {size : StepSize ℝ}

/-- **A step leaves the poses rigid.** -/
theorem isRigid_of_step (hmotion : motion.IsRigid)
    (h : step motion rs previous options = .ok (moved, size)) : moved.IsRigid := by
  obtain ⟨-, δ, rfl⟩ | ⟨-, δ, rfl⟩ := moved_of_step h
  · refine ⟨?_, Update.isRigid_move _ _ hmotion.finish⟩
    rw [moveRigid]
    split
    · exact hmotion.start
    · exact Update.isRigid_move _ _ hmotion.start
  · exact ⟨Update.isRigid_move _ _ hmotion.start, Update.isRigid_move _ _ hmotion.finish⟩

/-- **A rigid step moves the world**: both ends turn about the place of the finish as it was before
the step. -/
theorem isCarried_moveRigid (motion : ScanMotion ℝ) (δ : Vector ℝ 6) :
    motion.IsCarried ((rigidUpdate δ).motion motion.finish.position) (moveRigid motion false δ) :=
  ⟨Update.move_eq_mul _ _ _, Update.move_eq_mul _ _ _⟩

variable [EigenSolver ℝ] {map : VoxelMap ℝ} {neighborhood : ℕ} {keypoints : List (ScanPoint ℝ)}
  {n count found : ℕ}

/-- **The iteration leaves the poses rigid.** -/
theorem isRigid_of_iterate (hguess : guess.IsRigid)
    (h : iterate map neighborhood options keypoints previous n guess count = .ok (moved, found)) :
    moved.IsRigid :=
  invariant_of_iterate isRigid_of_step hguess h

/-- **With the rigid metric the iteration moves the world**, unless the start has to stay. -/
theorem isCarried_of_iterate (hmetric : options.metric = .rigid)
    (hcompensate : options.compensate = false)
    (h : iterate map neighborhood options keypoints previous n guess count = .ok (moved, found)) :
    ∃ e, e.IsRigid ∧ guess.IsCarried e moved := by
  have hstep : ∀ {motion moved rs size}, (∃ e, e.IsRigid ∧ guess.IsCarried e motion) →
      step motion rs previous options = .ok (moved, size) →
      ∃ e, e.IsRigid ∧ guess.IsCarried e moved := by
    rintro motion moved rs size ⟨e, he, hcarried⟩ h
    obtain ⟨-, δ, rfl⟩ | ⟨hother, -⟩ := moved_of_step h
    · rw [hcompensate]
      exact ⟨_, (Update.isRigid_motion _ _).mul he, hcarried.trans (isCarried_moveRigid motion δ)⟩
    · exact absurd (hmetric.symm.trans hother) (by decide)
  exact invariant_of_iterate hstep ⟨.identity, Pose.isRigid_identity, .refl guess⟩ h

end World

/-! ### The solver -/

/-- **What the solver keeps of its guess**, after any number of steps. Whatever the scalars, these
are the times; the start, with the rigid metric and keypoints placed along the scan; that the sensor
is at rest, with the rigid metric and keypoints placed at the finish; and everything if no step is
allowed. Over the reals the poses stay rigid; and with the rigid metric and keypoints placed at the
finish one rigid motion of the world has moved both ends, so that the motion within the scan is what
it was. -/
theorem register_keeps_guess :
    (∀ {α : Type} [Scalar α] [EigenSolver α] (problem : Problem α) (options : SolverOptions α),
      (∀ registered, (register problem options ()).1 = .ok registered →
        registered.motion.startTime = problem.guess.startTime ∧
        registered.motion.finishTime = problem.guess.finishTime ∧
        (options.metric = .rigid → options.compensate = true →
          registered.motion.start = problem.guess.start) ∧
        (options.metric = .rigid → options.compensate = false →
          problem.guess.start = problem.guess.finish →
          registered.motion.start = registered.motion.finish)) ∧
      (options.iterations = 0 → (register problem options ()).1 =
        .ok ⟨problem.guess, problem.guess.place options.compensate problem.keypoints, 0⟩)) ∧
    ∀ [EigenSolver ℝ] (problem : Problem ℝ) (options : SolverOptions ℝ) (registered),
      (register problem options ()).1 = .ok registered →
      (problem.guess.IsRigid → registered.motion.IsRigid) ∧
      (options.metric = .rigid → options.compensate = false →
        ∃ e : Pose ℝ, e.IsRigid ∧ registered.motion.start = e * problem.guess.start ∧
          registered.motion.finish = e * problem.guess.finish ∧
          registered.motion.start.inverse * registered.motion.finish =
            problem.guess.start.inverse * problem.guess.finish) := by
  refine ⟨fun problem options => ⟨fun registered h => ?_, fun hnone => ?_⟩,
    fun problem options registered h => ⟨fun hguess => ?_, fun hmetric hcompensate => ?_⟩⟩
  · obtain ⟨_, _, hiterate⟩ := iterate_of_register h
    have hkeeps := keeps_of_iterate hiterate
    exact ⟨hkeeps.startTime, hkeeps.finishTime, hkeeps.start, hkeeps.rest⟩
  · rw [register_apply, answer_eq, hnone]
    rfl
  · obtain ⟨_, _, hiterate⟩ := iterate_of_register h
    exact isRigid_of_iterate hguess hiterate
  · obtain ⟨_, _, hiterate⟩ := iterate_of_register h
    obtain ⟨e, he, hcarried⟩ := isCarried_of_iterate hmetric hcompensate hiterate
    refine ⟨e, he, hcarried.start_eq, hcarried.finish_eq, ?_⟩
    rw [hcarried.start_eq, hcarried.finish_eq, Pose.inverse_mul_mul he]

/-- A keypoint hovers over the floor. The step from its match moves the sensor, but the motion
within the scan stays that of the guess. -/
theorem register_keeps_guess_over_floor :
    letI : EigenSolver ℝ := ⟨Mat3.jacobi⟩
    let hovering : ScanPoint ℝ := .sampled ⟨3, 9 / 2, 1 / 4⟩ 0 (1 / 2)
    ∃ answers, ∃ map : VoxelMap ℝ,
      VoxelMap.Run (.empty 8 20) [.insert (floorPoints ⟨4, 4, 0⟩ 2 1) ⟨20, 0⟩] answers map ∧
      ∃ registered, (register ⟨map, [hovering], slide, none, 0⟩ singleStep ()).1 = .ok registered ∧
        registered.residuals = 1 ∧
        registered.motion.finish.position ≠ slide.finish.position ∧
        registered.motion.startTime = slide.startTime ∧ registered.motion.IsRigid ∧
        registered.motion.start.inverse * registered.motion.finish =
          slide.start.inverse * slide.finish := by
  let _ : EigenSolver ℝ := ⟨Mat3.jacobi⟩
  intro hovering
  obtain ⟨answers, map, hrun, r, moved, size, hresiduals, hstep, hmoved⟩ := exists_step_over_floor
  have henough : enoughResiduals map 1 singleStep [hovering] slide = .ok [r] := by
    rw [enoughResiduals_eq]
    change (if (residuals map 1 singleStep (slide.place false [hovering])).length < 1 then _
      else Except.ok (residuals map 1 singleStep (slide.place false [hovering]))) = _
    rw [hresiduals]
    rfl
  have hiterate : iterate map 1 singleStep [hovering] none 1 slide 0 = .ok (moved, 1) := by
    rw [iterate_succ, henough]
    change (step slide [r] none singleStep >>= _) = _
    rw [hstep]
    change (if size.isSmall singleStep then _ else _) = _
    split <;> rfl
  have hregister : (register ⟨map, [hovering], slide, none, 0⟩ singleStep ()).1 =
      .ok ⟨moved, moved.place false [hovering], 1⟩ := by
    rw [register_apply, answer_eq]
    change (iterate map 1 singleStep [hovering] none 1 slide 0 >>= _) = _
    rw [hiterate]
    rfl
  have hslide : slide.IsRigid := ⟨Pose.isRigid_identity, Mat3.IsRotation.identity⟩
  obtain ⟨hany, hreal⟩ := register_keeps_guess
  obtain ⟨hrigid, hcarried⟩ := hreal _ _ _ hregister
  obtain ⟨e, -, -, -, hwithin⟩ := hcarried rfl rfl
  exact ⟨answers, map, hrun, _, hregister, rfl, hmoved, ((hany _ _).1 _ hregister).1,
    hrigid hslide, hwithin⟩

end PointToPlane

end LidarOdometry
