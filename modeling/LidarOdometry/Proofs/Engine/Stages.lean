import LidarOdometry.Proofs.Options.Profile
import LidarOdometry.Proofs.Scan.Nesting
import LidarOdometry.Proofs.Engine.Consistency
import LidarOdometry.Proofs.Registration.Allowance

/-!
# Two Stages of Sampling

An engine thins a scan before it registers it, and draws the keypoints of the first attempt from
what is left. Where the grid of the one nests in the grid of the other, the keypoints are those of
the scan itself: the first point of each coarse voxel, as if it had not been thinned.

This takes raw coordinates at both stages. If the motion of the sensor is undone before
registration, the points have moved to other voxels when keypoints are drawn; so it holds of scans
that are *registered raw*. In the driving profile the grids nest at every scan.

## Main definitions

* `Engine.RegistersRaw`: the motion over the next scan is not undone before registration.

## Main results

* `Engine.thin_scanFor`: the two stages of an engine, on nested grids.
* `Engine.exists_asked_cons`, `Engine.keypoints_call`: the keypoints of the first attempt, as the
  solver is given them and as the summary counts them.
* `Engine.two_stages_are_one`: two stages are one.
-/

namespace LidarOdometry

namespace Engine

variable {σ α : Type}

/-- **The next scan is registered raw** unless its motion is undone before registration, which
takes a mode that does so and a scan before it. -/
def RegistersRaw (e : Engine σ α) : Prop :=
  e.options.compensation = .constantVelocity → e.trajectory = []

variable [Scalar α] {e : Engine σ α} {c : ScanCall α}

section Nested

variable (hnests : VoxelKey.Nests (e.options.gridSizes e.trajectory.length).1
  (e.options.gridSizes e.trajectory.length).2)

include hnests

/-- **Two stages are one** on nested grids. -/
theorem thin_scanFor (c : ScanCall α) :
    Sampler.thin (e.scanFor c).keypointSize (e.scanFor c).points =
      ScanPoint.firsts (e.options.gridSizes e.trajectory.length).2 c.points := by
  have hfine : (e.scanFor c).points =
      Sampler.thin (e.options.gridSizes e.trajectory.length).1 c.points := rfl
  have hcoarse : (e.scanFor c).keypointSize = (e.options.gridSizes e.trajectory.length).2 := rfl
  rw [hfine, hcoarse, Sampler.thin_eq_firsts, Sampler.thin_eq_firsts,
    ScanPoint.firsts_firsts hnests]

/-- The keypoints of the first attempt at a scan that is registered raw. -/
theorem keypoints_zero (hraw : e.RegistersRaw) (htrajectory : e.trajectory ≠ []) (c : ScanCall α) :
    e.registrar.keypoints (e.scanFor c) 0 =
      ScanPoint.firsts (e.options.gridSizes e.trajectory.length).2 c.points := by
  have hundone : e.registrar.undone (e.scanFor c) = (e.scanFor c).points :=
    if_neg fun hmode => htrajectory (hraw hmode)
  rw [Registrar.keypoints, hundone]
  exact thin_scanFor hnests c

/-- **The solver is first given** the first points of the coarse voxels. -/
theorem exists_asked_cons (hraw : e.RegistersRaw) (htrajectory : e.trajectory ≠ [])
    (hattempts : 0 < e.options.maxAttempts) (hpoints : c.points ≠ []) (session : Session σ) :
    ∃ first later, e.registrar.asked (e.scanFor c) session = first :: later ∧
      first.1.keypoints =
        ScanPoint.firsts (e.options.gridSizes e.trajectory.length).2 c.points := by
  obtain ⟨previous, hprevious⟩ : ∃ previous, (e.scanFor c).previous = some previous :=
    ⟨_, List.getLast?_eq_some_getLast htrajectory⟩
  obtain ⟨i, -, -, hasked⟩ := Registrar.register_asks (r := e.registrar)
    (Sampler.thin_ne_nil hpoints) hprevious hattempts session
  rw [List.range_succ_eq_map, List.map_cons] at hasked
  exact ⟨_, _, hasked, keypoints_zero hnests hraw htrajectory c⟩

/-- **A summary of a single attempt** counts the first points of the coarse voxels. -/
theorem keypoints_call (hraw : e.RegistersRaw) (hattempts : 0 < e.options.maxAttempts)
    (hsingle : (e.call c).1.attempts = 1) : (e.call c).1.keypoints =
      (ScanPoint.firsts (e.options.gridSizes e.trajectory.length).2 c.points).length := by
  obtain ⟨summary, hends, heq⟩ := ends_call hattempts c
  rw [heq] at hsingle ⊢
  change summary.attempts = 1 at hsingle
  change summary.keypoints = _
  rw [← thin_scanFor hnests c]
  cases hends with
  | empty hpoints =>
      rw [hpoints]
      rfl
  | first _ _ => rfl
  | @attempted previous i _ _ hprevious _ hreports =>
      have htrajectory : e.trajectory ≠ [] := fun hnil => by
        rw [scanFor_previous_of_first hnil] at hprevious
        cases hprevious
      -- the attempt that is reported is the first
      have hfirst : i = 0 := Nat.succ.inj (hreports.attempts_eq.symm.trans hsingle)
      rw [hreports.keypoints_eq, hfirst, keypoints_zero hnests hraw htrajectory,
        thin_scanFor hnests]

end Nested

/-- **Two stages of sampling are one** on nested grids, in exact arithmetic. Sampling a scan by
voxels of one size and then by voxels a whole number of times as large draws what the second
stage draws alone, in the same order, whatever the samplers were used for before; in particular
sampling twice draws nothing less than sampling once, and this holds of all scalars. So wherever
the voxel sizes of an engine are such multiples, which in the driving profile they always are, and
the scan is registered raw, the keypoints of the first attempt are the first points of the coarse
voxels. -/
theorem two_stages_are_one :
    (∀ {size : ℝ} {m : ℕ} (points : List (ScanPoint ℝ)) (first second direct : Sampler),
      0 < size → 1 ≤ m →
      (second.sample (m * size) (first.sample size points).1).1 =
        (direct.sample (m * size) points).1) ∧
    (∀ {α : Type} [Scalar α] (size : α) (points : List (ScanPoint α)) (first second : Sampler),
      (second.sample size (first.sample size points).1).1 = (first.sample size points).1) ∧
    (∀ {σ : Type} {e : Engine σ ℝ} {size : ℝ} {m : ℕ} (c : ScanCall ℝ),
      e.options.gridSizes e.trajectory.length = (size, m * size) → 0 < size → 1 ≤ m →
      e.RegistersRaw → 0 < e.options.maxAttempts →
      (e.trajectory ≠ [] → c.points ≠ [] → ∀ session, ∃ question later,
        e.registrar.asked (e.scanFor c) session = question :: later ∧
          question.1.keypoints = ScanPoint.firsts (m * size) c.points) ∧
      ((e.call c).1.attempts = 1 →
        (e.call c).1.keypoints = (ScanPoint.firsts (m * size) c.points).length)) ∧
    ∀ index, ∃ size : ℝ, 0 < size ∧ (OdometryOptions.driving : OdometryOptions ℝ).gridSizes index =
      (size, ((if index < 20 then 5 else 3 : ℕ) : ℝ) * size) := by
  refine ⟨fun {size m} points first second direct _ _ => ?_,
    fun {α} _ size points first second => ?_,
    fun {σ e size m} c hsizes _ _ hraw hattempts => ?_, OdometryOptions.gridSizes_driving⟩
  · rw [Sampler.sample_eq_firsts, Sampler.sample_eq_firsts, Sampler.sample_eq_firsts]
    exact ScanPoint.firsts_firsts (VoxelKey.nests_mul size m) points
  · rw [Sampler.sample_eq_firsts, Sampler.sample_eq_firsts]
    exact ScanPoint.firsts_firsts (VoxelKey.Nests.refl size) points
  · have hnests : VoxelKey.Nests (e.options.gridSizes e.trajectory.length).1
        (e.options.gridSizes e.trajectory.length).2 := by
      rw [hsizes]
      exact VoxelKey.nests_mul size m
    have hcoarse : m * size = (e.options.gridSizes e.trajectory.length).2 := by rw [hsizes]
    rw [hcoarse]
    refine ⟨fun htrajectory hpoints session => ?_, keypoints_call hnests hraw hattempts⟩
    exact exists_asked_cons hnests hraw htrajectory hattempts hpoints session

/-- A second scan on both sides of the origin, in the driving profile. -/
theorem two_stages_are_one_across_zero :
    let e : Engine Unit ℝ :=
      ⟨.driving, .pure fun _ _ => .error .degenerate, ⟨(), .fresh⟩, [.identity], .empty 1 20⟩
    let points : List (ScanPoint ℝ) :=
      [.untimed ⟨-3 / 10, 0, 0⟩, .untimed ⟨3 / 10, 0, 0⟩, .untimed ⟨-7 / 10, 0, 0⟩]
    (Sampler.fresh.sample (5 * 0.2) (Sampler.fresh.sample (0.2 : ℝ) points).1).1 =
        [.untimed ⟨-3 / 10, 0, 0⟩, .untimed ⟨3 / 10, 0, 0⟩] ∧
      ∃ question later, e.registrar.asked (e.scanFor (.predicted points)) e.session =
          question :: later ∧
        question.1.keypoints = [.untimed ⟨-3 / 10, 0, 0⟩, .untimed ⟨3 / 10, 0, 0⟩] := by
  intro e points
  have hvoxel (x : ℝ) : (ScanPoint.untimed ⟨x, 0, 0⟩).voxel (((5 : ℕ) : ℝ) * 0.2) =
      ⟨⌊x⌋, 0, 0⟩ := by
    norm_num [ScanPoint.voxel, ScanPoint.untimed, ScanPoint.sampled, VoxelKey.ofPoint,
      Scalar.floor_real]
  have hfirsts : ScanPoint.firsts (((5 : ℕ) : ℝ) * 0.2) points =
      [.untimed ⟨-3 / 10, 0, 0⟩, .untimed ⟨3 / 10, 0, 0⟩] := by
    have hnil : ScanPoint.firsts (((5 : ℕ) : ℝ) * 0.2) [] = [] := rfl
    have hleft : ⌊(-3 / 10 : ℝ)⌋ = -1 := by norm_num
    have hright : ⌊(3 / 10 : ℝ)⌋ = 0 := by norm_num
    have hfar : ⌊(-7 / 10 : ℝ)⌋ = -1 := by norm_num
    simp [-Nat.cast_ofNat, points, ScanPoint.firsts_cons, hnil, hvoxel, hleft, hright, hfar]
  have hsizes : e.options.gridSizes e.trajectory.length = (0.2, ((5 : ℕ) : ℝ) * 0.2) := by
    change ((0.2 : ℝ), (1.0 : ℝ)) = _
    norm_num
  have hraw : e.RegistersRaw := fun hmode => by cases hmode
  obtain ⟨hstages, -, hengine, -⟩ := two_stages_are_one
  have hsampled := hstages points .fresh .fresh .fresh (by norm_num : (0 : ℝ) < 0.2)
    (by decide : 1 ≤ 5)
  obtain ⟨hasked, -⟩ := hengine (.predicted points) hsizes (by norm_num) (by decide) hraw
    (by decide : 0 < 6)
  obtain ⟨question, later, heq, hkeypoints⟩ := hasked (List.cons_ne_nil _ _)
    (List.cons_ne_nil _ _) e.session
  exact ⟨(hsampled.trans (Sampler.sample_eq_firsts _ _ _)).trans hfirsts, question, later, heq,
    hkeypoints.trans hfirsts⟩

end Engine

end LidarOdometry
