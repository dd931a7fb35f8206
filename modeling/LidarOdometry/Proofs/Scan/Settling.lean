import LidarOdometry.Proofs.Scan.Path

/-!
# Scans without Motion

A scan is settled by expressing every point in the sensor frame at the finish. Each point is moved
to the map by the pose at its own phase and brought back by the opposite of the pose at the finish,
so that from then on the pose at the finish alone leads to the place where it belongs. That is all
that has to be known about settled points: a rigid pose can be read backwards, hence the place
determines the raw coordinates, and it keeps distances, hence points that share a phase keep
theirs.

Which pose a phase selects plays no part in the first, and for the second it matters only that it
is rigid. No bound on the turn of the sensor is needed.

## Main definitions

* `ScanMotion.IsUndone`: a point before and after its motion is undone.

## Main results

* `ScanMotion.isUndone_settle`: settling undoes the motion of each point.
* `ScanMotion.settle_undoes_motion`: settled scans.
-/

namespace LidarOdometry

namespace ScanMotion

variable {m : ScanMotion ℝ} {p p' q q' : ScanPoint ℝ}

/-- **The motion of a point is undone**: with the pose at the finish it comes to lie where the pose
at its own phase had put it, and nothing but its raw coordinates has changed. -/
structure IsUndone (m : ScanMotion ℝ) (p q : ScanPoint ℝ) : Prop where
  world_eq : q.world = p.world
  time_eq : q.time = p.time
  phase_eq : q.phase = p.phase
  locate_eq : m.locate false q = m.locate true p

/-- **Settling undoes the motion of each point.** -/
theorem isUndone_settle (hm : m.IsRigid) (points : List (ScanPoint ℝ)) :
    List.Forall₂ m.IsUndone points (m.settle points) := by
  rw [settle, List.forall₂_map_right_iff, List.forall₂_same]
  exact fun p _ => ⟨rfl, rfl, rfl, Pose.apply_inverse_apply hm.finish _⟩

namespace IsUndone

/-- A point is left alone if its own pose is the one at the finish. -/
theorem raw_eq (h : m.IsUndone p q) (hm : m.IsRigid) (hpose : m.poseAt p.phase = m.finish) :
    q.raw = p.raw := by
  refine Function.LeftInverse.injective hm.finish.inverse_apply_apply ?_
  calc m.finish.apply q.raw = (m.poseAt p.phase).apply p.raw := h.locate_eq
    _ = m.finish.apply p.raw := by rw [hpose]

/-- **Points that share a phase keep their distance**: one pose moves them both to the map, and one
moves them both back. -/
theorem norm_sub_eq (h : m.IsUndone p q) (h' : m.IsUndone p' q') (hm : m.IsRigid)
    (hphase : p.phase = p'.phase) : (q.raw - q'.raw).norm = (p.raw - p'.raw).norm := by
  have hpose : (m.poseAt p.phase).IsRigid := hm.start.interpolate hm.finish p.phase
  have hlocate' : m.locate true p' = (m.poseAt p.phase).apply p'.raw := by
    rw [hphase]
    rfl
  calc (q.raw - q'.raw).norm
      = (m.locate false q - m.locate false q').norm :=
        (hm.finish.norm_apply_sub_apply q.raw q'.raw).symm
    _ = ((m.poseAt p.phase).apply p.raw - (m.poseAt p.phase).apply p'.raw).norm := by
        rw [h.locate_eq, h'.locate_eq, hlocate']
        rfl
    _ = (p.raw - p'.raw).norm := hpose.norm_apply_sub_apply _ _

end IsUndone

/-- **Settling undoes the motion during a scan.** The scan stays as it is, point by point and in its
order, up to the raw coordinates. Without compensation the settled points are placed where the
scan is placed with compensation. Raw coordinates do not change at all if the sensor is at rest or
if a point belongs to the finish, and the distance of two points that share a phase does not
change. -/
theorem settle_undoes_motion (hm : m.IsRigid) (points : List (ScanPoint ℝ)) :
    let settled := m.settle points
    List.Forall₂ m.IsUndone points settled ∧
    List.Forall₂ ScanPoint.Coincides (m.place false settled) (m.place true points) ∧
    ∀ e ∈ points.zip settled,
      (m.start = m.finish ∨ e.1.phase = 1 → e.2.raw = e.1.raw) ∧
      ∀ e' ∈ points.zip settled, e.1.phase = e'.1.phase →
        (e.2.raw - e'.2.raw).norm = (e.1.raw - e'.1.raw).norm := by
  intro settled
  have hundone : List.Forall₂ m.IsUndone points settled := isUndone_settle hm points
  obtain ⟨-, hpairs⟩ := List.forall₂_iff_zip.mp hundone
  refine ⟨hundone, ?_, fun e he => ⟨fun hrest => ?_, fun e' he' hphase => ?_⟩⟩
  · simp only [place, List.forall₂_map_left_iff, List.forall₂_map_right_iff]
    exact hundone.flip.imp fun q p h => ⟨h.locate_eq, h.time_eq, h.phase_eq⟩
  · refine (hpairs he).raw_eq hm ?_
    rcases hrest with hrest | hphase
    · exact poseAt_of_start_eq hm hrest e.1.phase
    · rw [hphase]
      exact Pose.interpolate_one hm.start hm.finish
  · exact (hpairs he).norm_sub_eq (hpairs he') hm hphase

/-- A quarter turn about the vertical, to the left. -/
def quarterTurn : Mat3 ℝ :=
  ⟨⟨0, -1, 0⟩, ⟨1, 0, 0⟩, ⟨0, 0, 1⟩⟩

/-- A quarter turn to the left is a rotation. -/
theorem isRotation_quarterTurn : quarterTurn.IsRotation := by
  refine .of_rows ⟨?_, ?_, ?_, ?_, ?_, ?_⟩ ?_ <;>
    norm_num [quarterTurn, Mat3.det, Vec3.dot, Vec3.cross]

/-- While the sensor turns to the left and moves, it sees one point at the start and two at the
finish. Seen from the finish the first lies elsewhere, the others where they were. -/
theorem settle_undoes_motion_left_turn :
    let m : ScanMotion ℝ := between ⟨Mat3.identity, ⟨0, 0, 1⟩⟩ ⟨quarterTurn, ⟨2, 0, 1⟩⟩
    let first : ScanPoint ℝ := .sampled ⟨1, 2, 0⟩ 5 0
    let second : ScanPoint ℝ := .sampled ⟨3, 0, 0⟩ 6 1
    let third : ScanPoint ℝ := .sampled ⟨0, 4, 0⟩ 6 1
    let settled : ScanPoint ℝ := { first with raw := ⟨2, 1, 0⟩ }
    m.IsRigid ∧ m.settle [first, second, third] = [settled, second, third] ∧
      List.Forall₂ ScanPoint.Coincides (m.place false [settled, second, third])
        (m.place true [first, second, third]) := by
  intro m first second third settled
  have hm : m.IsRigid := ⟨.identity, isRotation_quarterTurn⟩
  obtain ⟨-, hplaced, hpairs⟩ := settle_undoes_motion hm [first, second, third]
  have hfirst : m.finish.inverse.apply (m.locate true first) = settled.raw := by
    have hstart : m.poseAt first.phase = m.start := Pose.interpolate_zero hm.start hm.finish
    rw [locate, if_pos rfl, hstart]
    refine Vec3.ext ?_ ?_ ?_ <;>
      norm_num [m, first, settled, between, ScanPoint.sampled, quarterTurn, Pose.apply,
        Pose.inverse, Mat3.transpose, Mat3.mulVec, Mat3.identity, Vec3.dot]
  have hsecond : m.finish.inverse.apply (m.locate true second) = second.raw :=
    (hpairs (second, _) (.tail _ (.head _))).1 (.inr rfl)
  have hthird : m.finish.inverse.apply (m.locate true third) = third.raw :=
    (hpairs (third, _) (.tail _ (.tail _ (.head _)))).1 (.inr rfl)
  have hsettle : m.settle [first, second, third] = [settled, second, third] := by
    simp only [settle, List.map_cons, List.map_nil, hfirst, hsecond, hthird]
    rfl
  exact ⟨hm, hsettle, hsettle ▸ hplaced⟩

end ScanMotion

end LidarOdometry
