import LidarOdometry.Proofs.Geometry.Plane
import LidarOdometry.Proofs.Solver.Linearization
import LidarOdometry.Proofs.Voxel.Neighbors

/-!
# Matching Keypoints

A keypoint is matched with the plane through its neighbours in the map. For a step to have a
solution no match may have a negative weight. The weights are powers of planarities, which are not
negative, because principal axes are ordered by their variance.

A match pulls. If there is only one, the solution of a damped step is a multiple of its row; it
vanishes only if the match lies on its plane or has no weight. So the sensor is moved by a keypoint
that hovers over a floor, which four points are enough to span.

## Main definitions

* `PointToPlane.floorPoints`: points of a level floor.
* `PointToPlane.floorOptions`, `PointToPlane.singleStep`: options for a keypoint over it.

## Main results

* `PointToPlane.residual?_eq_some_iff`: which keypoints are matched.
* `PointToPlane.weight_nonneg`: no match has a negative weight.
* `PointToPlane.position_ne_of_stepRigid`: a match off its plane moves the sensor.
* `PointToPlane.residuals_floor`: the match of a keypoint over a floor.
* `PointToPlane.exists_step_over_floor`: the step from it.
-/

namespace LidarOdometry

namespace PointToPlane

/-! ### Which keypoints are matched -/

section Matched

/-- **A keypoint is matched** exactly if it has enough neighbours and they span a plane that is not
too far away; the match is read off that plane. -/
theorem residual?_eq_some_iff {α : Type} [Scalar α] [EigenSolver α] {map : VoxelMap α}
    {neighborhood : ℕ} {options : SolverOptions α} {keypoint : ScanPoint α} {r : Residual α} :
    residual? map neighborhood options keypoint = some r ↔
      ¬ (map.neighbors keypoint.world neighborhood options.maxNeighbors).length <
          options.minNeighbors ∧
        ∃ plane, Plane.fit? (map.neighbors keypoint.world neighborhood options.maxNeighbors) =
            some plane ∧
          ¬ options.maxPlaneDistance < Scalar.abs (plane.signedDistance keypoint.world) ∧
          r = ⟨keypoint.world, plane.normal, plane.signedDistance keypoint.world,
            Scalar.pow plane.planarity options.planarityPower, keypoint.phase⟩ := by
  rw [residual?_eq, matched?]
  split
  · next hfew => exact iff_of_false (fun h => nomatch h) fun h => h.1 hfew
  · next hmany =>
      rw [and_iff_right hmany, Option.bind_eq_bind, Option.bind_eq_some_iff]
      refine exists_congr fun plane => and_congr_right fun _ => ?_
      dsimp only
      split
      · next hfar => exact iff_of_false (fun h => nomatch h) fun h => h.1 hfar
      · next hnear => rw [and_iff_right hnear, Option.some.injEq, eq_comm]

variable [EigenSolver ℝ]

/-- The second principal axis has no less variance than the third. -/
theorem planarity_nonneg {points : List (Vec3 ℝ)} {plane : Plane ℝ}
    (h : Plane.fit? points = some plane) : 0 ≤ plane.planarity := by
  obtain ⟨-, -, rfl⟩ := Plane.eq_of_fit?_eq_some h
  exact Plane.flatness_nonneg (Eigensystem.descending_sorted _).2

/-- **No match has a negative weight.** -/
theorem weight_nonneg {map : VoxelMap ℝ} {neighborhood : ℕ} {options : SolverOptions ℝ}
    {keypoints : List (ScanPoint ℝ)} :
    ∀ r ∈ residuals map neighborhood options keypoints, 0 ≤ r.weight := by
  intro r hr
  rw [residuals_eq] at hr
  obtain ⟨keypoint, -, hkeypoint⟩ := List.mem_filterMap.mp hr
  obtain ⟨-, plane, hplane, -, rfl⟩ := residual?_eq_some_iff.mp hkeypoint
  exact Real.rpow_nonneg (planarity_nonneg hplane) _

end Matched

/-! ### A single match -/

section Single

open Matrix

variable {n : ℕ} {o : Observation ℝ n} {damping : ℝ} {δ : Fin n → ℝ}

/-- **A single residual pulls along its row.** -/
theorem smul_eq_of_mulVec_single (h : (normalMatrix [o] + damping • 1) *ᵥ δ = -pull [o]) :
    damping • δ = -((o.weight * o.after δ) • o.row.get) := by
  have hmatrix : normalMatrix [o] *ᵥ δ = (o.weight * (o.row.get ⬝ᵥ δ)) • o.row.get := by
    rw [normalMatrix, List.map_singleton, List.sum_singleton, smul_vecMulVec_self_mulVec]
  have hpull : pull [o] = (o.weight * o.residual) • o.row.get := by
    rw [pull, List.map_singleton, List.sum_singleton]
  rw [add_mulVec, hmatrix, hpull, smul_mulVec, one_mulVec] at h
  rw [Observation.after, mul_add, add_smul, neg_add, ← h]
  abel

/-- It is not gone after the step. -/
theorem after_ne_zero_of_mulVec_single (hdamping : 0 < damping) (hresidual : o.residual ≠ 0)
    (h : (normalMatrix [o] + damping • 1) *ᵥ δ = -pull [o]) : o.after δ ≠ 0 := by
  intro hafter
  have hδ := smul_eq_of_mulVec_single h
  rw [hafter, mul_zero, zero_smul, neg_zero, smul_eq_zero_iff_right hdamping.ne'] at hδ
  rw [Observation.after, hδ, dotProduct_zero, add_zero] at hafter
  exact hresidual hafter

variable {motion moved : ScanMotion ℝ} {r : Residual ℝ} {finishOnly : Bool} {size : StepSize ℝ}

/-- **A match off its plane moves the sensor.** -/
theorem position_ne_of_stepRigid (hdamping : 0 < damping) (hweight : 0 < r.weight)
    (hnormal : r.normal ≠ 0) (hdistance : r.distance ≠ 0)
    (h : stepRigid motion [r] finishOnly damping = .ok (moved, size)) :
    moved.finish.position ≠ motion.finish.position := by
  have hweights : ∀ o ∈ [rigidObservation motion.finish.position r], 0 ≤ o.weight :=
    List.forall_mem_singleton.mpr hweight.le
  obtain ⟨δ, hδ⟩ := exists_solve hweights hdamping
  have hequations := mulVec_of_solve hδ
  rw [stepRigid_eq, rigidEquations_eq, List.map_singleton, finiteStep_of_solve hδ] at h
  obtain ⟨rfl, -⟩ := Prod.mk.inj (Except.ok.inj h)
  have hafter := after_ne_zero_of_mulVec_single hdamping hdistance hequations
  have hpulled := smul_eq_of_mulVec_single hequations
  intro hposition
  have hshift : motion.finish.position + (rigidUpdate δ).shift = motion.finish.position :=
    ((rigidUpdate δ).position_move_self motion.finish).symm.trans hposition
  -- where an unknown of the shift vanishes, so does the normal, as the rest of the pull does not
  have hrow : ∀ i : Fin 6, δ.get i = 0 → (rigidRow motion.finish.position r).get i = 0 := by
    intro i hi
    have hpull := congrFun hpulled i
    rw [Pi.smul_apply, hi, smul_zero, Pi.neg_apply, zero_eq_neg, Pi.smul_apply, smul_eq_mul,
      mul_eq_zero] at hpull
    exact hpull.resolve_left (mul_ne_zero hweight.ne' hafter)
  obtain ⟨hx, hy, hz⟩ := Vec3.ext_iff.mp hshift
  exact hnormal (Vec3.ext (hrow 3 (add_eq_left.mp hx)) (hrow 4 (add_eq_left.mp hy))
    (hrow 5 (add_eq_left.mp hz)))

end Single

/-! ### A keypoint over a floor -/

section Floor

/-- Four points of a level floor, at `a` from a centre along the first axis and at `b` along the
second. -/
def floorPoints (c : Vec3 ℝ) (a b : ℝ) : List (Vec3 ℝ) :=
  [⟨c.x + a, c.y, c.z⟩, ⟨c.x - a, c.y, c.z⟩, ⟨c.x, c.y + b, c.z⟩, ⟨c.x, c.y - b, c.z⟩]

/-- The points of the floor are about their centre. -/
theorem centroid_floorPoints (c : Vec3 ℝ) (a b : ℝ) : centroid (floorPoints c a b) = c := by
  refine Vec3.ext ?_ ?_ ?_ <;> norm_num [centroid, mean, floorPoints] <;> ring

/-- The points of the floor vary along the first two axes only. -/
theorem covariance_floorPoints (c : Vec3 ℝ) (a b : ℝ) :
    (Moments.ofList (floorPoints c a b)).covariance =
      ⟨⟨a ^ 2 / 2, 0, 0⟩, ⟨0, b ^ 2 / 2, 0⟩, ⟨0, 0, 0⟩⟩ := by
  have hne : floorPoints c a b ≠ [] := List.cons_ne_nil _ _
  refine Mat3.ext_dot fun u w => ?_
  rw [Moments.dot_covariance_mulVec hne, covariance, centroid_floorPoints]
  norm_num [mean, floorPoints, Mat3.mulVec, Vec3.dot]
  ring

/-- **The plane that is fitted to them** is the floor, and it is a plane. -/
theorem exists_fit?_floorPoints (c : Vec3 ℝ) {a b : ℝ} (hb : 0 < b) (hab : b < a) :
    let _ : EigenSolver ℝ := ⟨Mat3.jacobi⟩
    ∃ planarity > 0, Plane.fit? (floorPoints c a b) = some ⟨c, ⟨0, 0, 1⟩, planarity⟩ := by
  intro _
  -- the variances of a floor are in order as they stand, the last being zero
  have haxes : Plane.axes (floorPoints c a b) =
      ⟨⟨a ^ 2 / 2, ⟨1, 0, 0⟩⟩, ⟨b ^ 2 / 2, ⟨0, 1, 0⟩⟩, ⟨0, ⟨0, 0, 1⟩⟩⟩ := by
    have hsquares : ¬ a ^ 2 / 2 < b ^ 2 / 2 := by nlinarith
    have hsquare : ¬ b ^ 2 / 2 < 0 := by nlinarith
    rw [Plane.axes, covariance_floorPoints]
    change (Mat3.jacobi _).descending = _
    rw [Mat3.jacobi_diagonal]
    simp only [Eigensystem.descending, if_neg hsquares, if_neg hsquare]
  have hfirst : 0 < Plane.deviation (Plane.axes (floorPoints c a b)).first := by
    rw [Plane.deviation_pos_iff, haxes]
    exact half_pos (pow_pos (hb.trans hab) 2)
  have hsecond : 0 < Plane.deviation (Plane.axes (floorPoints c a b)).second := by
    rw [Plane.deviation_pos_iff, haxes]
    exact half_pos (pow_pos hb 2)
  have hthird : Plane.deviation (Plane.axes (floorPoints c a b)).third = 0 :=
    Plane.deviation_eq_zero (by rw [haxes])
  have hflat : 0 < Plane.flatness (Plane.axes (floorPoints c a b)) := by
    rw [Plane.flatness, hthird, sub_zero]
    exact div_pos hsecond hfirst
  have hfit := Plane.fit?_exact 0 (floorPoints c a b)
  have hmany : ¬ (floorPoints c a b).length < 3 := Nat.not_lt.mpr (Nat.le_succ 3)
  have hunit : (⟨0, 0, 1⟩ : Vec3 ℝ).norm = 1 := by
    simp [Vec3.norm_eq_one_iff, Vec3.dot]
  have hnormal : (Plane.axes (floorPoints c a b)).third.vector.normalize = ⟨0, 0, 1⟩ := by
    rw [haxes, Vec3.normalize_eq_self hunit]
  rw [if_neg hmany, if_neg hfirst.not_ge, hnormal, centroid_floorPoints] at hfit
  exact ⟨_, hflat, hfit⟩

/-- A map of the floor, in which a search around a place over it finds all its points. -/
theorem exists_floor : ∃ answers, ∃ map : VoxelMap ℝ,
    VoxelMap.Run (.empty 8 20) [.insert (floorPoints ⟨4, 4, 0⟩ 2 1) ⟨20, 0⟩] answers map ∧
      ∀ h : ℝ, 0 ≤ h → h < 8 →
        (map.neighbors ⟨4, 9 / 2, h⟩ 1 20).Perm (floorPoints ⟨4, 4, 0⟩ 2 1) := by
  set points := floorPoints ⟨4, 4, 0⟩ 2 1 with hfloor
  have hkey : ∀ p ∈ points, VoxelKey.ofPoint 8 p = ⟨0, 0, 0⟩ := by
    norm_num [hfloor, floorPoints, VoxelKey.ofPoint, Scalar.floor_real]
  obtain ⟨answers, map, hrun⟩ : ∃ answers map,
      VoxelMap.Run (.empty (8 : ℝ) 20) [.insert points ⟨20, 0⟩] answers map :=
    ⟨_, _, (VoxelMap.represents_empty 8 20).run_perform (VoxelArena.tracked_empty 20) _⟩
  obtain ⟨g, hrepresents, htidy, -, hsize, hcapacity⟩ := hrun.exists_tidy
  -- the points share a voxel and there is no least distance, so all of them are stored
  have hpoints : map.points.Perm points := by
    have hshows := ((VoxelMap.represents_empty (8 : ℝ) 20).run hrun).2.1.shows
    refine hshows.points_perm.trans ?_
    change ((VoxelGroups.empty.insert 8 ⟨20, 0⟩ points).domain.toList.flatMap
      (VoxelGroups.empty.insert 8 ⟨20, 0⟩ points).group).Perm points
    simp only [hfloor, floorPoints, List.forall_mem_cons] at hkey ⊢
    simp [VoxelGroups.insert, VoxelGroups.empty, hkey, Density.extend, Density.Accepts,
      Vec3.normSq_nonneg]
  rw [← hsize, ← hcapacity] at htidy
  refine ⟨answers, map, hrun, fun h hle hlt => ?_⟩
  have hplace : VoxelKey.ofPoint (8 : ℝ) ⟨4, 9 / 2, h⟩ = ⟨0, 0, 0⟩ := by
    have hheight : ⌊h / 8⌋ = 0 := Int.floor_eq_zero_iff.mpr ⟨by positivity, by linarith⟩
    norm_num [VoxelKey.ofPoint, Scalar.floor_real, hheight]
  have hroom : (map.keyOf ⟨4, 9 / 2, h⟩).HasRoom 1 := by
    rw [VoxelMap.keyOf, hsize, hplace]
    exact ⟨by decide, by decide, by decide⟩
  have hnear : map.points.filter (fun p =>
      (map.keyOf ⟨4, 9 / 2, h⟩).IsAround 1 (map.keyOf p)) = map.points := by
    refine List.filter_eq_self.mpr fun p hp => decide_eq_true ?_
    rw [VoxelMap.keyOf, VoxelMap.keyOf, hsize, hplace, hkey p (hpoints.mem_iff.mp hp)]
    decide
  have hnearest := hrepresents.nearest_neighbors htidy hroom 20
  rw [hnear] at hnearest
  refine (hnearest.perm_of_lt ?_).trans hpoints
  rw [hnearest.length_eq, hpoints.length_eq]
  decide

/-- Options that ask for no more than the four points and one match. -/
noncomputable def floorOptions : SolverOptions ℝ :=
  { SolverOptions.standard with minNeighbors := 4, minResiduals := 1, youngScans := 0 }

/-- **A keypoint over the floor** is matched with it, at its height. -/
theorem residuals_floor {map : VoxelMap ℝ} {h : ℝ} (hle : 0 ≤ h) (hnear : h ≤ 3 / 10)
    (hneighbors : (map.neighbors ⟨4, 9 / 2, h⟩ 1 20).Perm (floorPoints ⟨4, 4, 0⟩ 2 1))
    (keypoint : ScanPoint ℝ) (hworld : keypoint.world = ⟨4, 9 / 2, h⟩) :
    let _ : EigenSolver ℝ := ⟨Mat3.jacobi⟩
    ∃ weight > 0, residuals map 1 floorOptions [keypoint] =
      [⟨⟨4, 9 / 2, h⟩, ⟨0, 0, 1⟩, h, weight, keypoint.phase⟩] := by
  intro _
  obtain ⟨planarity, hplanarity, hfloor⟩ :=
    exists_fit?_floorPoints ⟨4, 4, 0⟩ one_pos one_lt_two
  have hdistance : (⟨⟨4, 4, 0⟩, ⟨0, 0, 1⟩, planarity⟩ : Plane ℝ).signedDistance
      keypoint.world = h := by
    rw [hworld]
    norm_num [Plane.signedDistance, Vec3.dot]
  rw [← hworld] at hneighbors
  have hmatch : residual? map 1 floorOptions keypoint = some ⟨⟨4, 9 / 2, h⟩, ⟨0, 0, 1⟩, h,
      Scalar.pow planarity floorOptions.planarityPower, keypoint.phase⟩ := by
    refine residual?_eq_some_iff.mpr ⟨?_, _, (Plane.fit?_perm hneighbors.symm).trans hfloor, ?_,
      by rw [hdistance, hworld]⟩
    · change ¬ (map.neighbors keypoint.world 1 20).length < 4
      rw [hneighbors.length_eq]
      decide
    · rw [hdistance]
      have habs : Scalar.abs h = h := if_neg hle.not_gt
      norm_num [floorOptions, SolverOptions.standard, habs]
      linarith
  refine ⟨_, Real.rpow_pos_of_pos hplanarity floorOptions.planarityPower, ?_⟩
  rw [residuals_eq, List.filterMap_cons_some hmatch, List.filterMap_nil]
  rfl

/-- Options for a single rigid step of both ends. -/
noncomputable def singleStep : SolverOptions ℝ :=
  { floorOptions with iterations := 1, compensate := false, metric := .rigid }

/-- The sensor moves ahead during a scan. -/
noncomputable def slide : ScanMotion ℝ :=
  ⟨.identity, ⟨.identity, ⟨1, 0, 0⟩⟩, 0, 1⟩

/-- **A keypoint that hovers over the floor** when the sensor has moved: it is matched, the step
from its match is made, and moves the sensor further. -/
theorem exists_step_over_floor :
    let _ : EigenSolver ℝ := ⟨Mat3.jacobi⟩
    let hovering : ScanPoint ℝ := .sampled ⟨3, 9 / 2, 1 / 4⟩ 0 (1 / 2)
    ∃ answers, ∃ map : VoxelMap ℝ,
      VoxelMap.Run (.empty 8 20) [.insert (floorPoints ⟨4, 4, 0⟩ 2 1) ⟨20, 0⟩] answers map ∧
      ∃ r moved size, residuals map 1 singleStep (slide.place false [hovering]) = [r] ∧
        step slide [r] none singleStep = .ok (moved, size) ∧
        moved.finish.position ≠ slide.finish.position := by
  intro _ hovering
  obtain ⟨answers, map, hrun, hneighbors⟩ := exists_floor
  have hworld : slide.locate false hovering = ⟨4, 9 / 2, 1 / 4⟩ := by
    change slide.finish.apply ⟨3, 9 / 2, 1 / 4⟩ = _
    rw [Pose.apply, slide, Mat3.identity_mulVec]
    refine Vec3.ext ?_ ?_ ?_ <;> norm_num
  obtain ⟨weight, hweight, hresiduals⟩ := residuals_floor (by norm_num) (by norm_num)
    (hneighbors (1 / 4) (by norm_num) (by norm_num))
    { hovering with world := slide.locate false hovering } hworld
  have hdamping : 0 < singleStep.damping := by
    norm_num [singleStep, floorOptions, SolverOptions.standard]
  have hnormal : (⟨0, 0, 1⟩ : Vec3 ℝ) ≠ 0 := fun h => one_ne_zero (congrArg Vec3.z h)
  have hdistance : (1 / 4 : ℝ) ≠ 0 := by norm_num
  have hweights : ∀ r ∈ [(⟨⟨4, 9 / 2, 1 / 4⟩, ⟨0, 0, 1⟩, 1 / 4, weight, hovering.phase⟩ :
      Residual ℝ)], 0 ≤ r.weight := List.forall_mem_singleton.mpr hweight.le
  obtain ⟨⟨moved, size⟩, hmoved⟩ := exists_stepRigid slide false hdamping hweights
  exact ⟨answers, map, hrun, _, moved, size, hresiduals, hmoved,
    position_ne_of_stepRigid hdamping hweight hnormal hdistance hmoved⟩

end Floor

end PointToPlane

end LidarOdometry
