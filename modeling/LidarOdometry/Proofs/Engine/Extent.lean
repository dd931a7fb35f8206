import LidarOdometry.Proofs.Numeric.Exact
import LidarOdometry.Proofs.Engine.Continuity
import LidarOdometry.Proofs.Engine.LocalMap
import LidarOdometry.Proofs.Voxel.Extent

/-!
# The Local Map Is Bounded in Space

However long a run is, the map that scans are registered against stays near the sensor. An accepted
scan is followed by a pruning around its finish, which is the last pose of the trajectory from then
on, and a rejected scan changes neither the map nor the last pose. So the map is always within the
distance of the options from the last pose, and its extent, its number of voxels and its number of
points have bounds that the options alone set.

## Main definitions

* `Engine.nearby`: options of a map with a short reach.

## Main results

* `Engine.MapReached.within_call`, `Engine.MapReached.within_after`: the map stays near the last
  pose.
* `Engine.local_map_bounded`: the bounds.
-/

namespace LidarOdometry

open VoxelMap

namespace Engine

variable {σ : Type}

/-- The last pose after an accepted scan. -/
theorem lastPose_of_accepted {α : Type} [Scalar α] {e : Engine σ α} {c : ScanCall α}
    (h : (e.call c).1.isSuccess = true) : (e.call c).2.lastPose = (e.call c).1.motion.finish := by
  rw [lastPose, trajectory_of_accepted h, List.getLast?_concat]

variable {e : Engine σ ℝ} {options : OdometryOptions ℝ}

/-- **A scan keeps the map near the last pose.** -/
theorem MapReached.within_call (h : e.MapReached options) (hvalid : options.Valid)
    (hwithin : e.map.Within e.lastPose.position options.maxDistance) (c : ScanCall ℝ) :
    (e.call c).2.map.Within (e.call c).2.lastPose.position options.maxDistance := by
  cases hsuccess : (e.call c).1.isSuccess with
  | true =>
      have hpose := lastPose_of_accepted hsuccess
      obtain ⟨session, heq⟩ := exists_of_accepted hsuccess
      obtain ⟨answers, hrun, -⟩ := h.run_keep (e.call c).1
      obtain ⟨g, hrepresents, -⟩ := h.exists_tidy
      rw [hpose, heq]
      change (e.keep (e.call c).1).map.Within _ _
      -- an insertion, and then the pruning around the new pose
      cases hrun with
      | cons hinsert hrest =>
          cases hrest with
          | cons hprune hnil =>
              cases hnil
              obtain ⟨hinserted, -⟩ := hrepresents.performs hinsert
              rw [h.options_eq] at hprune
              exact hinserted.within_prune hvalid.maxDistance.le hprune
  | false =>
      obtain ⟨session, heq⟩ := exists_of_rejected hsuccess
      rw [heq]
      exact hwithin

/-- **A run keeps the map near the last pose.** -/
theorem MapReached.within_after (h : e.MapReached options) (hvalid : options.Valid)
    (hwithin : e.map.Within e.lastPose.position options.maxDistance) (calls : List (ScanCall ℝ)) :
    (e.after calls).map.Within (e.after calls).lastPose.position options.maxDistance :=
  (after_induction (P := fun e => e.MapReached options ∧
    e.map.Within e.lastPose.position options.maxDistance)
    (fun _ c h => ⟨h.1.call c, h.1.within_call hvalid h.2 c⟩) ⟨h, hwithin⟩ calls).2

/-- **The local map is bounded in space.** In every run of an engine, with any solver, the map is
empty as long as no scan has been accepted. Every voxel is represented within the distance of the
options from the last pose, and no point is farther from it than that and the diagonal of a voxel.
There are no more voxels, and no more points, than the options allow by that. -/
theorem local_map_bounded {solver : Solver σ ℝ} {memory : σ} {fresh : Engine σ ℝ}
    (hfresh : ofOptions options solver memory = .ok fresh) (calls : List (ScanCall ℝ)) :
    let e := fresh.after calls
    let place := e.lastPose.position
    let mostVoxels := (⌊2 * options.maxDistance / options.solver.voxelSize⌋₊ + 2) ^ 3
    ((∀ entry ∈ fresh.history calls, entry.2.isSuccess = false) →
      e.map.points = [] ∧ e.map.voxelCount = 0 ∧ e.map.size = 0) ∧
    (∀ key first, e.map.first? key = some first → (first - place).norm ≤ options.maxDistance) ∧
    (∀ p ∈ e.map.points,
      (p - place).norm ≤ options.maxDistance + √3 * options.solver.voxelSize) ∧
    e.map.voxelCount ≤ mostVoxels ∧ e.map.size ≤ options.maxPointsPerVoxel * mostVoxels := by
  intro e place mostVoxels
  have hvalid : options.Valid := valid_of_ofOptions hfresh
  have hreached := mapReached_of_ofOptions hfresh
  have hempty : fresh.map = .empty options.solver.voxelSize options.maxPointsPerVoxel := by
    rw [eq_of_ofOptions hfresh]
    rfl
  have hrepresents := represents_empty options.solver.voxelSize options.maxPointsPerVoxel
  -- a new map has no voxel, so it is within any distance
  have hwithin : e.map.Within place options.maxDistance := by
    refine hreached.within_after hvalid (fun key first hfirst => ?_) calls
    rw [hempty, hrepresents.first?_eq] at hfirst
    cases hfirst
  obtain ⟨mapCalls, answers, hrun, -⟩ := (hreached.after calls).exists_run
  obtain ⟨g, h, ht, -, hsize, hcapacity⟩ := hrun.exists_tidy
  have hpositive : 0 < e.map.voxelSize := hsize ▸ hvalid.voxelSize
  rw [← hsize, ← hcapacity] at ht
  refine ⟨fun hrejected => ?_, hwithin, fun p hp => ?_, ?_, ?_⟩
  · obtain ⟨session, heq⟩ := exists_of_all_rejected hrejected
    have hmap : e.map = .empty options.solver.voxelSize options.maxPointsPerVoxel :=
      (congrArg Engine.map heq).trans hempty
    have hshows := hrepresents.shows
    rw [hmap, hshows.voxelCount_eq, hshows.size_eq]
    exact ⟨List.perm_nil.mp (hshows.points_perm.trans (by simp [VoxelGroups.empty])), rfl, rfl⟩
  · rw [← hsize]
    exact h.norm_sub_le_of_mem_points ht hpositive hwithin hp
  · have hcount := h.voxelCount_le ht hpositive hwithin hvalid.maxDistance.le
    rw [hsize] at hcount
    exact hcount
  · have hcount := h.size_le ht hpositive hwithin hvalid.maxDistance.le
    rw [hsize, hcapacity] at hcount
    exact hcount

/-- Options of a map that reaches no farther than a unit. -/
noncomputable def nearby : OdometryOptions ℝ :=
  { OdometryOptions.slowOutdoor with maxDistance := 1 }

/-- The options of such a map are valid. -/
theorem valid_nearby : nearby.Valid :=
  { OdometryOptions.valid_ofProfile .slowOutdoor with
    maxDistance := by norm_num [nearby] }

/-- Where two points are placed by a sensor that slides. -/
theorem map_world_corrected_sliding {e : Engine Unit ℝ} {c : ScanCall ℝ}
    (hoptions : e.options = nearby) (hyoung : e.trajectory.length < 20)
    (hpoints : c.points = apart) {x : ℝ} (hmotion : (e.call c).1.motion = sliding ⟨x, 0, 0⟩) :
    (e.call c).1.corrected.map ScanPoint.world = [⟨x, 0, 0⟩, ⟨1 + x, 0, 0⟩] := by
  have hmode : e.options.compensation ≠ .constantVelocity := by
    rw [hoptions]
    decide
  have hsize : (e.options.gridSizes e.trajectory.length).1 = 0.2 := by
    rw [hoptions]
    exact congrArg Prod.fst (if_pos hyoung)
  rw [corrected_call, points_settled hmode, hmotion, hpoints, hsize, apart,
    Sampler.thin_pair (voxel_apart_ne (by norm_num) (by norm_num)), hoptions]
  change [((sliding ⟨x, 0, 0⟩).poseAt 1).apply 0,
    ((sliding ⟨x, 0, 0⟩).poseAt 1).apply ⟨1, 0, 0⟩] = _
  rw [poseAt_sliding, apply_slid, apply_slid]
  simp [Vec3.ext_iff, Vec3.scale]

/-- What a voxel is represented by after their scan. -/
theorem first?_call_sliding {e : Engine Unit ℝ} {c : ScanCall ℝ} (h : e.MapReached nearby)
    (hyoung : e.trajectory.length < 20) (hpoints : c.points = apart)
    (hsuccess : (e.call c).1.isSuccess = true) {x : ℝ}
    (hmotion : (e.call c).1.motion = sliding ⟨x, 0, 0⟩) {key : VoxelKey} {first : Vec3 ℝ} :
    (e.call c).2.map.first? key = some first ↔
      (e.map.first? key).or ([⟨x, 0, 0⟩, ⟨1 + x, 0, 0⟩].find?
        fun p => e.map.keyOf p = key) = some first ∧
      (first - ⟨x, 0, 0⟩).normSq ≤ 1 * 1 := by
  rw [h.first?_call valid_nearby hsuccess,
    map_world_corrected_sliding h.options_eq hyoung hpoints hmotion, hmotion, h.options_eq]
  rfl

/-- The voxels of such a map have unit size. -/
theorem voxelSize_nearby : nearby.solver.voxelSize = 1 := by
  norm_num [nearby, OdometryOptions.slowOutdoor, OdometryOptions.driving, SolverOptions.standard]

/-- The voxels of its map have unit size. -/
theorem keyOf_nearby {e : Engine Unit ℝ} (h : e.MapReached nearby) (x : ℝ) :
    e.map.keyOf ⟨x, 0, 0⟩ = ⟨⌊x⌋, 0, 0⟩ := by
  obtain ⟨g, -, -, hsize, -⟩ := h.exists_tidy
  rw [keyOf, hsize, voxelSize_nearby]
  simp [VoxelKey.ofPoint, Scalar.floor_real]

/-- The grids of its engine while the map is young. -/
theorem gridSizes_nearby : nearby.gridSizes 1 = (0.2, 1) :=
  gridSizes_slowOutdoor

/-- The two voxels that a sensor at rest has seen, after a scan that was rejected. -/
theorem first?_after_rejected {fresh : Engine Unit ℝ}
    (hfresh : ofOptions nearby (believing 2) () = .ok fresh) :
    (fresh.after [slidingScan 0, singleScan]).map.first? ⟨0, 0, 0⟩ = some ⟨0, 0, 0⟩ ∧
      (fresh.after [slidingScan 0, singleScan]).map.first? ⟨1, 0, 0⟩ = some ⟨1, 0, 0⟩ := by
  obtain ⟨hfirst, hrejected, -⟩ :=
    calls_believing_sliding hfresh rfl (by decide) gridSizes_nearby ⟨0, 0, 0⟩
  have hreached := mapReached_of_ofOptions hfresh
  have hnew : fresh.trajectory = [] := by rw [eq_of_ofOptions hfresh]
  have hyoung : fresh.trajectory.length < 20 := by
    rw [hnew]
    decide
  have hrest : (fresh.call (slidingScan 0)).1.motion = sliding ⟨0, 0, 0⟩ :=
    (call_first (c := slidingScan 0) hnew (List.cons_ne_nil _ _)).2
  have hnone : ∀ key, fresh.map.first? key = none := fun key => by
    rw [eq_of_ofOptions hfresh, (represents_empty _ _).first?_eq]
    rfl
  have htwo : fresh.after [slidingScan 0, singleScan] =
      ((fresh.after [slidingScan 0]).call singleScan).2 := fresh.after_concat [slidingScan 0] _
  rw [htwo, map_of_rejected hrejected, after_singleton]
  simp only [first?_call_sliding hreached hyoung rfl hfirst hrest, hnone, List.find?,
    keyOf_nearby hreached]
  norm_num [Vec3.normSq_eq]

/-- The same voxels after the sensor has slid away from them. -/
theorem first?_after_sliding {fresh : Engine Unit ℝ}
    (hfresh : ofOptions nearby (believing 2) () = .ok fresh) :
    (fresh.after [slidingScan 0, singleScan, slidingScan ⟨2, 0, 0⟩]).map.first? ⟨0, 0, 0⟩ = none ∧
      (fresh.after [slidingScan 0, singleScan, slidingScan ⟨2, 0, 0⟩]).map.first? ⟨1, 0, 0⟩ =
        some ⟨1, 0, 0⟩ := by
  obtain ⟨-, -, ⟨haccepted, hmotion⟩, htrajectory⟩ :=
    calls_believing_sliding hfresh rfl (by decide) gridSizes_nearby ⟨2, 0, 0⟩
  obtain ⟨hstored, hstored'⟩ := first?_after_rejected hfresh
  have hreached := (mapReached_of_ofOptions hfresh).after [slidingScan 0, singleScan]
  have hend : fresh.after [slidingScan 0, singleScan, slidingScan ⟨2, 0, 0⟩] =
      ((fresh.after [slidingScan 0, singleScan]).call (slidingScan ⟨2, 0, 0⟩)).2 :=
    fresh.after_concat [slidingScan 0, singleScan] _
  have hyoung : (fresh.after [slidingScan 0, singleScan]).trajectory.length < 20 := by
    have hlength := congrArg List.length (trajectory_of_accepted haccepted)
    rw [← hend, htrajectory, List.length_append] at hlength
    simp only [List.length_cons, List.length_nil] at hlength
    omega
  constructor
  · refine Option.eq_none_iff_forall_ne_some.mpr fun first hsome => ?_
    rw [hend, first?_call_sliding hreached hyoung rfl haccepted hmotion, hstored] at hsome
    obtain ⟨hfirst, hle⟩ := hsome
    cases hfirst
    norm_num [Vec3.normSq_eq] at hle
  · rw [hend, first?_call_sliding hreached hyoung rfl haccepted hmotion, hstored']
    norm_num [Vec3.normSq_eq]

/-- A sensor at rest sees two voxels. After a scan of a single point, which is rejected, it slides
away from them: one is out of reach then, and the other one just is not. -/
theorem local_map_bounded_sliding : ∃ fresh : Engine Unit ℝ,
    ofOptions nearby (believing 2) () = .ok fresh ∧
      (fresh.after [.predicted []]).map.points = [] ∧
      ∃ e, fresh.after [slidingScan 0, singleScan, slidingScan ⟨2, 0, 0⟩] = e ∧
        e.lastPose.position = ⟨2, 0, 0⟩ ∧ e.map.first? ⟨0, 0, 0⟩ = none ∧
        e.map.first? ⟨1, 0, 0⟩ = some ⟨1, 0, 0⟩ ∧
        ((⟨1, 0, 0⟩ : Vec3 ℝ) - e.lastPose.position).norm ≤ 1 ∧ e.map.voxelCount ≤ 64 := by
  obtain ⟨fresh, hfresh⟩ := exists_ofOptions valid_nearby (believing 2) ()
  obtain ⟨-, -, -, htrajectory⟩ :=
    calls_believing_sliding hfresh rfl (by decide) gridSizes_nearby ⟨2, 0, 0⟩
  obtain ⟨hfar, hnear⟩ := first?_after_sliding hfresh
  have hpose : (fresh.after [slidingScan 0, singleScan, slidingScan ⟨2, 0, 0⟩]).lastPose.position =
      ⟨2, 0, 0⟩ := by
    rw [lastPose, htrajectory]
    rfl
  have hempty : (fresh.call (.predicted [])).1.isSuccess = false :=
    eq_false_of_ne_true fun hsuccess => points_ne_nil_of_accepted hsuccess rfl
  obtain ⟨hnothing, -⟩ := local_map_bounded hfresh [.predicted []]
  obtain ⟨-, hwithin, -, hcount, -⟩ :=
    local_map_bounded hfresh [slidingScan 0, singleScan, slidingScan ⟨2, 0, 0⟩]
  refine ⟨fresh, hfresh, (hnothing ?_).1, _, rfl, hpose, hfar, hnear, hwithin _ _ hnear, ?_⟩
  · rw [history, history, List.forall_mem_singleton]
    exact hempty
  · have hdistance : nearby.maxDistance = 1 := rfl
    rw [hdistance, voxelSize_nearby] at hcount
    norm_num at hcount
    exact hcount

end Engine

end LidarOdometry
