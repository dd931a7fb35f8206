import LidarOdometry.Proofs.Numeric.Exact
import LidarOdometry.Proofs.Engine.Acceptance
import LidarOdometry.Proofs.Engine.ConstantVelocity

/-!
# Trajectories Are Continuous

In exact arithmetic the thresholds of acceptance bound what they are meant to bound. A scan is
accepted only if it starts near the place where the last *accepted* one finished, where the time
that has elapsed since then sets how near; the scans that were rejected in between do not count.
And it is accepted only near the guess that it was registered from. Whatever the solver answers,
and at whichever attempt it is believed, the trajectory of every run is therefore continuous.

## Main definitions

* `ScanMotion.Continues`: a motion continues the one before.
* `ScanMotion.IsNear`: a motion is near its guess.
* `Engine.registrations`: the motions that a run registers, with their guesses.
* `Engine.slidingScan`, `Engine.singleScan`: scans of two points, and of one.

## Main results

* `passes_iff_continues`: what acceptance asks, in exact arithmetic.
* `Engine.trajectory_after`: a run appends the motions that it registers.
* `Engine.trajectory_continuous`: trajectories are continuous and near their guesses.
* `Engine.calls_believing_sliding`: the run of a sensor that slides.
-/

namespace LidarOdometry

variable {σ : Type}

namespace ScanMotion

/-- **A motion continues** the one before: it starts where that one finished, but for the gap
allowed in each of the scan periods that have elapsed. One period counts where the times do not
tell. -/
def Continues (options : OdometryOptions ℝ) (previous next : ScanMotion ℝ) : Prop :=
  let periods := (next.finishTime - previous.finishTime) / options.scanPeriod
  (next.start.position - previous.finish.position).norm ≤
    options.maxGap * if 0 < periods then periods else 1

/-- **A motion is near its guess**, at both poses. -/
structure IsNear (options : OdometryOptions ℝ) (guess motion : ScanMotion ℝ) : Prop where
  start : (motion.start.position - guess.start.position).norm ≤ options.maxCorrection
  finish : (motion.finish.position - guess.finish.position).norm ≤ options.maxCorrection

/-- A motion is near itself. -/
theorem IsNear.refl {options : OdometryOptions ℝ} (hvalid : options.Valid) (m : ScanMotion ℝ) :
    m.IsNear options m := by
  have hself : ∀ v : Vec3 ℝ, (v - v).norm ≤ options.maxCorrection := fun v => by
    rw [Vec3.norm_sub_self]
    exact hvalid.maxCorrection
  exact ⟨hself _, hself _⟩

end ScanMotion

/-- A motion that starts where the previous one finished continues it. -/
theorem ScanMotion.Continues.of_position_eq {options : OdometryOptions ℝ} (hvalid : options.Valid)
    {previous next : ScanMotion ℝ} (h : next.start.position = previous.finish.position) :
    previous.Continues options next := by
  have hnorm : (next.start.position - previous.finish.position).norm = 0 := by
    rw [h]
    exact Vec3.norm_sub_self _
  rw [Continues, hnorm]
  refine mul_nonneg hvalid.maxGap ?_
  split
  · next hpositive => exact hpositive.le
  · exact zero_le_one

/-- **In exact arithmetic a motion passes** exactly if it continues the one before and is near its
guess. -/
theorem passes_iff_continues {options : OdometryOptions ℝ} {guess previous motion : ScanMotion ℝ} :
    Passes options guess previous motion ↔
      previous.Continues options motion ∧ guess.IsNear options motion := by
  have hdeparture : ¬ options.maxCorrection < motion.departureFrom guess ↔
      guess.IsNear options motion := by
    rw [not_lt, ScanMotion.departureFrom, Scalar.max_real, max_le_iff]
    exact ⟨fun h => ⟨h.1, h.2⟩, fun h => ⟨h.start, h.finish⟩⟩
  constructor
  · intro h
    exact ⟨not_lt.mp h.gap, hdeparture.mp h.departure⟩
  · rintro ⟨hcontinues, hnear⟩
    exact ⟨not_lt.mpr hcontinues, hdeparture.mpr hnear⟩

namespace Engine

/-! ### What a run registers -/

section Registrations

variable {α : Type} [Scalar α]

/-- **The motions that a run registers**, each with the guess that it was registered from. -/
def registrations : Engine σ α → List (ScanCall α) → List (ScanMotion α × ScanMotion α)
  | _, [] => []
  | e, c :: calls =>
      let later := registrations (e.call c).2 calls
      if (e.call c).1.isSuccess then (e.guessFor c, (e.call c).1.motion) :: later else later

/-- **A run appends** the motions that it registers. -/
theorem trajectory_after (e : Engine σ α) (calls : List (ScanCall α)) :
    (e.after calls).trajectory = e.trajectory ++ (e.registrations calls).map Prod.snd := by
  induction calls generalizing e with
  | nil => exact (List.append_nil _).symm
  | cons c calls ih =>
      rw [after_cons, ih, registrations]
      cases hsuccess : (e.call c).1.isSuccess with
      | true =>
          rw [trajectory_of_accepted hsuccess, if_pos rfl, List.map_cons, List.append_assoc]
          rfl
      | false =>
          obtain ⟨session, heq⟩ := exists_of_rejected hsuccess
          rw [heq, if_neg Bool.false_ne_true]

end Registrations

variable {e : Engine σ ℝ} {c : ScanCall ℝ}

/-! ### One call -/

/-- **An accepted scan is near its guess**; the first one is where it was guessed. -/
theorem isNear_call (hvalid : e.options.Valid) (h : (e.call c).1.isSuccess = true) :
    (e.guessFor c).IsNear e.options (e.call c).1.motion := by
  cases hprevious : e.trajectory.getLast? with
  | none =>
      have hpoints : c.points ≠ [] := by
        intro hnone
        refine points_ne_nil_of_accepted h ?_
        rw [scanFor, hnone]
        rfl
      obtain ⟨-, hmotion⟩ := call_first (List.getLast?_eq_none_iff.mp hprevious) hpoints
      rw [hmotion]
      exact .refl hvalid _
  | some previous => exact (passes_iff_continues.mp (passes_call hvalid hprevious h)).2

/-- **A call keeps the trajectory continuous**: if it adds a motion, this one continues the last. -/
theorem isChain_call (hvalid : e.options.Valid)
    (h : e.trajectory.IsChain (ScanMotion.Continues e.options)) (c : ScanCall ℝ) :
    (e.call c).2.trajectory.IsChain (ScanMotion.Continues e.options) := by
  cases hsuccess : (e.call c).1.isSuccess with
  | true =>
      rw [trajectory_of_accepted hsuccess, List.isChain_append]
      refine ⟨h, List.isChain_singleton _, fun previous hprevious next hnext => ?_⟩
      obtain rfl : (e.call c).1.motion = next := Option.some.inj hnext
      exact (passes_iff_continues.mp (passes_call hvalid hprevious hsuccess)).1
  | false =>
      obtain ⟨session, heq⟩ := exists_of_rejected hsuccess
      rw [heq]
      exact h

/-! ### Runs -/

/-- **All that a run registers is near its guess.** -/
theorem isNear_of_mem_registrations {calls : List (ScanCall ℝ)} (hvalid : e.options.Valid)
    {registration : ScanMotion ℝ × ScanMotion ℝ}
    (h : registration ∈ e.registrations calls) :
    registration.1.IsNear e.options registration.2 := by
  induction calls generalizing e with
  | nil => exact absurd h List.not_mem_nil
  | cons c calls ih =>
      have hoptions : (e.call c).2.options = e.options := (e.call_settings c).1
      have hlater : registration ∈ (e.call c).2.registrations calls →
          registration.1.IsNear e.options registration.2 := fun hmem =>
        hoptions ▸ ih (hoptions ▸ hvalid) hmem
      rw [registrations] at h
      cases hsuccess : (e.call c).1.isSuccess with
      | true =>
          rw [hsuccess, if_pos rfl] at h
          rcases List.mem_cons.mp h with rfl | hmem
          · exact isNear_call hvalid hsuccess
          · exact hlater hmem
      | false =>
          rw [hsuccess, if_neg Bool.false_ne_true] at h
          exact hlater h

/-- **Trajectories are continuous.** In every run of an engine, with any solver, the trajectory
has the motions of the scans that were accepted. Each continues the one before, however many scans
were rejected in between, and each is near the guess that it was registered from. -/
theorem trajectory_continuous {options : OdometryOptions ℝ} {solver : Solver σ ℝ} {memory : σ}
    {fresh : Engine σ ℝ} (hfresh : ofOptions options solver memory = .ok fresh)
    (calls : List (ScanCall ℝ)) :
    (fresh.after calls).trajectory = (fresh.registrations calls).map Prod.snd ∧
      (fresh.after calls).trajectory.IsChain (ScanMotion.Continues options) ∧
      ∀ registration ∈ fresh.registrations calls,
        registration.1.IsNear options registration.2 := by
  have hvalid : options.Valid := valid_of_ofOptions hfresh
  have hnew := eq_of_ofOptions hfresh
  have hoptions : fresh.options = options := by rw [hnew]
  have htrajectory : fresh.trajectory = [] := by rw [hnew]
  refine ⟨?_, ?_, fun registration hmem => ?_⟩
  · rw [trajectory_after, htrajectory, List.nil_append]
  · refine (after_induction (P := fun e => e.options = options ∧
      e.trajectory.IsChain (ScanMotion.Continues options)) (fun e c h => ?_) ?_ calls).2
    · obtain ⟨rfl, hchain⟩ := h
      exact ⟨(e.call_settings c).1, isChain_call hvalid hchain c⟩
    · rw [htrajectory]
      exact ⟨hoptions, List.isChain_nil⟩
  · rw [← hoptions]
    exact isNear_of_mem_registrations (hoptions ▸ hvalid) hmem

/-- Two points that are a unit apart. -/
noncomputable def apart : List (ScanPoint ℝ) :=
  [.untimed 0, .untimed ⟨1, 0, 0⟩]

/-- They lie in different voxels if these are not larger than one. -/
theorem voxel_apart_ne {size : ℝ} (hpos : 0 < size) (hle : size ≤ 1) :
    (ScanPoint.untimed (0 : Vec3 ℝ)).voxel size ≠ (ScanPoint.untimed ⟨1, 0, 0⟩).voxel size := by
  intro hsame
  have hfloor : ⌊0 / size⌋ = ⌊1 / size⌋ := congrArg VoxelKey.x hsame
  have hsecond : (1 : ℤ) ≤ ⌊1 / size⌋ := by
    refine Int.le_floor.mpr ((le_div_iff₀ hpos).mpr ?_)
    push_cast
    linarith
  rw [zero_div, Int.floor_zero] at hfloor
  omega

/-- A scan of the two points by a sensor that slides. -/
noncomputable def slidingScan (shift : Vec3 ℝ) : ScanCall ℝ :=
  .guessed apart (sliding shift)

/-- A scan of one of them. -/
noncomputable def singleScan : ScanCall ℝ :=
  .predicted [.untimed 0]

/-- **A sensor at rest, and one that slides.** A scan of a single point in between is rejected. -/
theorem calls_believing_sliding {options : OdometryOptions ℝ} {fresh : Engine Unit ℝ}
    (hfresh : ofOptions options (believing 2) () = .ok fresh) (hrobust : options.robust = true)
    (hmode : options.compensation ≠ .constantVelocity)
    (hsizes : options.gridSizes 1 = (0.2, 1)) (shift : Vec3 ℝ) :
    (fresh.call (slidingScan 0)).1.isSuccess = true ∧
      ((fresh.after [slidingScan 0]).call singleScan).1.isSuccess = false ∧
      (let accepted := ((fresh.after [slidingScan 0, singleScan]).call (slidingScan shift)).1
      accepted.isSuccess = true ∧ accepted.motion = sliding shift) ∧
      (fresh.after [slidingScan 0, singleScan, slidingScan shift]).trajectory =
        [sliding 0, sliding shift] := by
  have hvalid : options.Valid := valid_of_ofOptions hfresh
  have hpasses : Passes options (sliding shift) (sliding 0) (sliding shift) :=
    passes_iff_continues.mpr ⟨.of_position_eq hvalid rfl, .refl hvalid _⟩
  have hthinning : 0 < (options.gridSizes 1).1 ∧ (options.gridSizes 1).1 ≤ 1 := by
    rw [hsizes]
    norm_num
  have hkeypoint : 0 < (options.gridSizes 1).2 ∧ (options.gridSizes 1).2 ≤ 1 := by
    rw [hsizes]
    norm_num
  have hpoints : (slidingScan 0).points ≠ [] := List.cons_ne_nil _ _
  have hpoint : singleScan.points ≠ [] := List.cons_ne_nil _ _
  obtain ⟨hfirst, ⟨hrejected, -⟩, haccepted, htrajectory⟩ :=
    calls_believing hfresh hrobust hmode hpoints hpoint Nat.one_lt_two
      (voxel_apart_ne hthinning.1 hthinning.2) (voxel_apart_ne hkeypoint.1 hkeypoint.2) hpasses
  exact ⟨hfirst, hrejected, haccepted, htrajectory⟩

/-- While the map is young, these are the sizes of its grids. -/
theorem gridSizes_slowOutdoor :
    (OdometryOptions.slowOutdoor : OdometryOptions ℝ).gridSizes 1 = (0.2, 1) := by
  norm_num [OdometryOptions.gridSizes, OdometryOptions.slowOutdoor, OdometryOptions.driving]

/-- A scan of a single point is rejected after ten attempts. The sensor slides on from where it was
at rest before. -/
theorem trajectory_continuous_across_rejected : ∃ fresh : Engine Unit ℝ,
    ofOptions .slowOutdoor (believing 2) () = .ok fresh ∧
      ((fresh.after [slidingScan 0]).call singleScan).1.isSuccess = false ∧
      (fresh.after [slidingScan 0, singleScan, slidingScan ⟨1, 0, 0⟩]).trajectory =
        [sliding 0, sliding ⟨1, 0, 0⟩] ∧
      (sliding 0).Continues .slowOutdoor (sliding ⟨1, 0, 0⟩) := by
  have hvalid : (OdometryOptions.slowOutdoor : OdometryOptions ℝ).Valid :=
    OdometryOptions.valid_ofProfile .slowOutdoor
  obtain ⟨fresh, hfresh⟩ := exists_ofOptions hvalid (believing 2) ()
  obtain ⟨-, hrejected, -, htrajectory⟩ :=
    calls_believing_sliding hfresh rfl (by decide) gridSizes_slowOutdoor ⟨1, 0, 0⟩
  obtain ⟨-, hchain, -⟩ := trajectory_continuous hfresh
    [slidingScan 0, singleScan, slidingScan ⟨1, 0, 0⟩]
  rw [htrajectory] at hchain
  exact ⟨fresh, hfresh, hrejected, htrajectory, List.isChain_pair.mp hchain⟩

end Engine

end LidarOdometry
