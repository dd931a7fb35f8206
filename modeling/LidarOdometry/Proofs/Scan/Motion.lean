import LidarOdometry.Proofs.Geometry.Pose
import LidarOdometry.Registration.Prediction

/-!
# Scans in a Moving World

A scan can be placed in the map in two ways: every point by the pose at its own phase, or all
points by the pose at the finish, after the motion during the scan has been undone. The motion
may be undone with a guess and the scan be placed with another motion; the two ways still agree if
one is carried to the other by a rigid motion of the world, for then the interpolated poses are
carried along.

## Main definitions

* `ScanMotion.IsRigid`: rigid motions.
* `ScanMotion.IsCarried`: a motion carried to another by a rigid motion of the world.
* `ScanPoint.Coincides`: points at one place of the map.

## Main results

* `ScanMotion.poseAt_of_isCarried`: interpolated poses are carried along.
* `ScanMotion.forall₂_coincides_place_settle`: the two ways to place a scan agree.
* `ScanMotion.poseAt_of_start_eq`: a sensor at rest has one pose.
* `Initialization.isRigid_predictTimed`: predictions are rigid.
-/

namespace LidarOdometry

/-- **Points at one place of the map**, acquired at one time. Their raw coordinates may differ. -/
def ScanPoint.Coincides {α : Type} (p q : ScanPoint α) : Prop :=
  p.world = q.world ∧ p.time = q.time ∧ p.phase = q.phase

/-- Points that coincide have the same places. -/
theorem ScanPoint.map_world_of_coincides {α : Type} {points others : List (ScanPoint α)}
    (h : List.Forall₂ Coincides points others) : points.map world = others.map world := by
  induction h with
  | nil => rfl
  | cons hpoint _ ih => rw [List.map_cons, List.map_cons, hpoint.1, ih]

namespace ScanMotion

/-- **A rigid motion**: both poses are. -/
structure IsRigid (m : ScanMotion ℝ) : Prop where
  start : m.start.IsRigid
  finish : m.finish.IsRigid

/-- **A motion is carried to another** by a motion `e` of the whole world. The times do not
matter. -/
structure IsCarried (m : ScanMotion ℝ) (e : Pose ℝ) (m' : ScanMotion ℝ) : Prop where
  start_eq : m'.start = e * m.start
  finish_eq : m'.finish = e * m.finish

variable {m m' : ScanMotion ℝ} {e : Pose ℝ}

/-- A motion is carried to itself by the motion that moves nothing. -/
theorem IsCarried.refl (m : ScanMotion ℝ) : m.IsCarried .identity m :=
  ⟨(Pose.identity_mul _).symm, (Pose.identity_mul _).symm⟩

/-- Carrying a motion twice is carrying it by the product. -/
theorem IsCarried.trans {m'' : ScanMotion ℝ} {e' : Pose ℝ} (h : m.IsCarried e m')
    (h' : m'.IsCarried e' m'') : m.IsCarried (e' * e) m'' := by
  refine ⟨?_, ?_⟩
  · rw [h'.start_eq, h.start_eq, Pose.mul_assoc]
  · rw [h'.finish_eq, h.finish_eq, Pose.mul_assoc]

/-- A motion does not depart from itself. -/
theorem departureFrom_self (m : ScanMotion ℝ) : m.departureFrom m = 0 := by
  rw [departureFrom, Pose.distance, Pose.distance, Vec3.norm_sub_self, Vec3.norm_sub_self,
    Scalar.max_real, max_self]

/-- **Interpolated poses are carried along**, if the sensor turns by less than a half turn. -/
theorem poseAt_of_isCarried (h : m.IsCarried e m') (he : e.IsRigid) (hm : m.IsRigid)
    (hsweep : m.sweep < Real.pi) (phase : ℝ) : m'.poseAt phase = e * m.poseAt phase := by
  rw [poseAt, h.start_eq, h.finish_eq, Pose.mul_interpolate he hm.start hm.finish hsweep, poseAt]

/-- **The two ways to place a scan agree**: with the pose at the finish after the motion was undone
by `m`, and with interpolated poses. -/
theorem forall₂_coincides_place_settle (h : m.IsCarried e m') (he : e.IsRigid) (hm : m.IsRigid)
    (hsweep : m.sweep < Real.pi) (points : List (ScanPoint ℝ)) :
    List.Forall₂ ScanPoint.Coincides (m'.place false (m.settle points))
      (m'.place true points) := by
  simp only [place, settle, List.map_map, List.forall₂_map_left_iff, List.forall₂_map_right_iff,
    List.forall₂_same]
  refine fun p _ => ⟨?_, rfl, rfl⟩
  calc m'.finish.apply (m.finish.inverse.apply ((m.poseAt p.phase).apply p.raw))
      = e.apply (m.finish.apply (m.finish.inverse.apply ((m.poseAt p.phase).apply p.raw))) := by
        rw [h.finish_eq, Pose.mul_apply]
    _ = e.apply ((m.poseAt p.phase).apply p.raw) := by
        rw [Pose.apply_inverse_apply hm.finish]
    _ = (m'.poseAt p.phase).apply p.raw := by
        rw [poseAt_of_isCarried h he hm hsweep, Pose.mul_apply]

/-- **A sensor at rest has one pose.** -/
theorem poseAt_of_start_eq (hm : m.IsRigid) (h : m.start = m.finish) (phase : ℝ) :
    m.poseAt phase = m.finish := by
  rw [poseAt, h, Pose.interpolate_self hm.finish]

/-- A sensor at rest has no motion to undo. -/
theorem settle_of_start_eq (hm : m.IsRigid) (h : m.start = m.finish)
    (points : List (ScanPoint ℝ)) : m.settle points = points := by
  refine (List.map_congr_left fun p _ => ?_).trans (List.map_id points)
  rw [locate, if_pos rfl, poseAt_of_start_eq hm h, hm.finish.inverse_apply_apply]
  rfl

/-- A sensor at rest places a scan in one way. -/
theorem place_true_eq (hm : m.IsRigid) (h : m.start = m.finish) (points : List (ScanPoint ℝ)) :
    m.place true points = m.place false points := by
  refine List.map_congr_left fun p _ => ?_
  rw [locate, locate, poseAt_of_start_eq hm h]
  rfl

end ScanMotion

/-! ### Predictions -/

namespace Initialization

variable {mode : Initialization} {trajectory : List (ScanMotion ℝ)}

/-- A rigid trajectory predicts a rigid motion. -/
theorem isRigid_predict (h : ∀ m ∈ trajectory, m.IsRigid) : (mode.predict trajectory).IsRigid := by
  have hlast : ∀ {motions : List (ScanMotion ℝ)} {m : ScanMotion ℝ}, motions ⊆ trajectory →
      motions.getLast? = some m → m.finish.IsRigid := fun hsub hm =>
    (h _ (hsub (List.mem_of_mem_getLast? hm))).finish
  fun_cases predict mode trajectory with
  | case1 last before hbefore hlast' step start =>
      have hfinish := hlast (List.Subset.refl _) hlast'
      have hstep := (hlast (List.dropLast_subset trajectory) hbefore).inverse.mul hfinish
      exact ⟨hfinish.mul hstep, (hfinish.mul hstep).mul hstep⟩
  | case2 last _ hlast' =>
      have hfinish := hlast (List.Subset.refl _) hlast'
      exact ⟨hfinish, hfinish⟩
  | case3 => exact ⟨Pose.isRigid_identity, Pose.isRigid_identity⟩

/-- **Predictions from rigid motions are rigid.** -/
theorem isRigid_predictTimed (h : ∀ m ∈ trajectory, m.IsRigid) (points : List (ScanPoint ℝ)) :
    (mode.predictTimed trajectory points).IsRigid :=
  ⟨(isRigid_predict h).start, (isRigid_predict h).finish⟩

end Initialization

end LidarOdometry
