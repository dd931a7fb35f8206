import LidarOdometry.Proofs.Geometry.Arc
import LidarOdometry.Proofs.Scan.Motion

/-!
# The Path between Two Poses

The poses in between two poses make up a path from the one to the other: rigid all the way, the
same seen from either end, run through at constant speed, and fixed to the two ends, so that it
goes wherever they are moved. Orientations contribute their arcs and positions a straight line.

None of this depends on which of its two versors an orientation is computed with. The path is
carried along with its ends only if they are less than a half turn apart, since at a half turn both
ways round are equally short.

## Main results

* `Pose.interpolate_zero`, `Pose.interpolate_one`, `Pose.interpolate_swap`: the ends of a path, and
  the path the other way.
* `Pose.IsRigid.interpolate`: its poses are rigid.
* `Pose.turn_interpolate`, `Pose.distance_interpolate`: it is run through at constant speed.
* `ScanMotion.poseAt_runs_path`: the motion of the sensor over a scan.
-/

namespace LidarOdometry

namespace Pose

variable {p q : Pose ℝ} {t : ℝ}

/-- The path starts at the first pose. -/
theorem interpolate_zero (hp : p.IsRigid) (hq : q.IsRigid) : p.interpolate q 0 = p :=
  Pose.ext (Mat3.slerp_zero hp hq) (Vec3.lerp_zero _ _)

/-- The path ends at the second pose. -/
theorem interpolate_one (hp : p.IsRigid) (hq : q.IsRigid) : p.interpolate q 1 = q :=
  Pose.ext (Mat3.slerp_one hp hq) (Vec3.lerp_one _ _)

/-- **The path the other way** has the same poses. -/
theorem interpolate_swap (hp : p.IsRigid) (hq : q.IsRigid) (t : ℝ) :
    q.interpolate p (1 - t) = p.interpolate q t :=
  Pose.ext (Mat3.slerp_swap hp hq t) (Vec3.lerp_swap _ _ t)

/-- **Interpolated poses are rigid.** -/
theorem IsRigid.interpolate (hp : p.IsRigid) (hq : q.IsRigid) (t : ℝ) :
    (p.interpolate q t).IsRigid :=
  Mat3.IsRotation.slerp hp hq t

/-- **The turn is even.** -/
theorem turn_interpolate (hp : p.IsRigid) (hq : q.IsRigid) (h0 : 0 ≤ t) (h1 : t ≤ 1) :
    p.turn (p.interpolate q t) = t * p.turn q :=
  Mat3.IsRotation.angle_slerp hp hq h0 h1

/-- **The way is even.** -/
theorem distance_interpolate (p q : Pose ℝ) (h0 : 0 ≤ t) :
    (p.interpolate q t).distance p = t * q.distance p := by
  have hoffset : (p.interpolate q t).position - p.position =
      (q.position - p.position).scale t := Vec3.lerp_sub _ _ t
  rw [distance, hoffset, Vec3.norm_scale, abs_of_nonneg h0, distance]

end Pose

namespace ScanMotion

/-- The motion that runs the other way. -/
def reversed {α : Type} (m : ScanMotion α) : ScanMotion α :=
  { m with start := m.finish, finish := m.start }

/-- **The poses over a scan are a proper path** between two rigid poses: it begins at the start and
ends at the finish; its poses are rigid, do not change if the sensor is at rest, and are those of
the motion that runs the other way; in a fraction of the scan the same fractions of the angle and of
the distance are covered; and if the sensor turns by less than a half turn, every rigid motion that
moves both ends moves the whole path. -/
theorem poseAt_runs_path {m : ScanMotion ℝ} (hm : m.IsRigid) :
    m.poseAt 0 = m.start ∧ m.poseAt 1 = m.finish ∧
    (∀ phase, (m.poseAt phase).IsRigid ∧
      (m.start = m.finish → m.poseAt phase = m.start) ∧
      m.reversed.poseAt (1 - phase) = m.poseAt phase) ∧
    (∀ phase, 0 ≤ phase → phase ≤ 1 →
      m.start.turn (m.poseAt phase) = phase * m.sweep ∧
      (m.poseAt phase).distance m.start = phase * m.span) ∧
    (m.sweep < Real.pi → ∀ (e : Pose ℝ) (m' : ScanMotion ℝ), e.IsRigid → m.IsCarried e m' →
      ∀ phase, m'.poseAt phase = e * m.poseAt phase) := by
  refine ⟨Pose.interpolate_zero hm.start hm.finish, Pose.interpolate_one hm.start hm.finish,
    fun phase => ⟨hm.start.interpolate hm.finish phase, fun hrest => ?_, ?_⟩,
    fun phase h0 h1 => ⟨?_, ?_⟩, fun hsweep e m' he hcarried phase => ?_⟩
  · rw [poseAt_of_start_eq hm hrest, hrest]
  · exact Pose.interpolate_swap hm.start hm.finish phase
  · exact Pose.turn_interpolate hm.start hm.finish h0 h1
  · exact Pose.distance_interpolate m.start m.finish h0
  · exact poseAt_of_isCarried hcarried he hm hsweep phase

/-- A turn about the vertical by an obtuse angle, to the left or to the right. -/
noncomputable def obtuseTurn (sine : ℝ) : Mat3 ℝ :=
  ⟨⟨-7 / 25, -sine, 0⟩, ⟨sine, -7 / 25, 0⟩, ⟨0, 0, 1⟩⟩

/-- An obtuse turn is a rotation. -/
theorem isRotation_obtuseTurn {sine : ℝ} (hsine : sine * sine = 576 / 625) :
    (obtuseTurn sine).IsRotation := by
  refine .of_rows ⟨?_, ?_, ?_, ?_, ?_, ?_⟩ ?_ <;>
    simp only [obtuseTurn, Mat3.det, Vec3.dot, Vec3.cross] <;> linarith

/-- Its versor is read off the diagonal entry that is largest. -/
theorem ofMat3_obtuseTurn (sine : ℝ) :
    Versor.ofMat3 (obtuseTurn sine) = ⟨0, 0, 5 / 6 * sine, 3 / 5⟩ := by
  have hroot : √(36 / 25 : ℝ) = 6 / 5 := by
    rw [Real.sqrt_eq_iff_mul_self_eq] <;> norm_num
  have htrace : (obtuseTurn sine).trace = 11 / 25 := by
    norm_num [Mat3.trace, obtuseTurn]
  simp only [Versor.ofMat3, htrace, Scalar.sqrt_real]
  norm_num [hroot, obtuseTurn]
  ring

/-- From far left to far right the shorter way leads over the back, to the opposite of the versor
that is computed for the target. Half of the path still covers half of the angle, and the path is
carried along when the world turns. -/
theorem poseAt_runs_path_over_the_back :
    let m : ScanMotion ℝ := between ⟨obtuseTurn (24 / 25), 0⟩ ⟨obtuseTurn (-24 / 25), ⟨2, 0, 0⟩⟩
    let e : Pose ℝ := ⟨obtuseTurn (24 / 25), ⟨0, 0, 5⟩⟩
    m.IsRigid ∧ m.sweep < Real.pi ∧ e.IsRigid ∧
      (Versor.ofMat3 m.start.rotation).dot (Versor.ofMat3 m.finish.rotation) < 0 ∧
      m.poseAt 1 = m.finish ∧ m.start.turn (m.poseAt (1 / 2)) = 1 / 2 * m.sweep ∧
      (m.poseAt (1 / 2)).distance m.start = 1 / 2 * m.span ∧
      (between (e * m.start) (e * m.finish)).poseAt (1 / 2) = e * m.poseAt (1 / 2) := by
  intro m e
  have hleft : (obtuseTurn (24 / 25)).IsRotation := isRotation_obtuseTurn (by norm_num)
  have hright : (obtuseTurn (-24 / 25)).IsRotation := isRotation_obtuseTurn (by norm_num)
  have hm : m.IsRigid := ⟨hleft, hright⟩
  have hfar : (Versor.ofMat3 m.start.rotation).dot (Versor.ofMat3 m.finish.rotation) = -7 / 25 := by
    simp only [m, between, ofMat3_obtuseTurn, Versor.dot]
    norm_num
  have hsweep : m.sweep < Real.pi := by
    have hangle : m.sweep = 2 * Real.arccos |(Versor.ofMat3 m.start.rotation).dot
        (Versor.ofMat3 m.finish.rotation)| := by
      rw [← Versor.angle_transpose_mul (Versor.dot_ofMat3 hm.start) (Versor.dot_ofMat3 hm.finish),
        Versor.toMat3_ofMat3 hm.start, Versor.toMat3_ofMat3 hm.finish, sweep, Pose.turn]
    have hacute : Real.arccos |(-7 / 25 : ℝ)| < Real.pi / 2 :=
      Real.arccos_lt_pi_div_two.mpr (by norm_num)
    rw [hangle, hfar]
    linarith
  obtain ⟨-, hone, -, hspeed, hcarried⟩ := poseAt_runs_path hm
  have hhalf := hspeed (1 / 2) (by norm_num) (by norm_num)
  refine ⟨hm, hsweep, hleft, ?_, hone, hhalf.1, hhalf.2, hcarried hsweep e _ hleft ⟨rfl, rfl⟩ _⟩
  rw [hfar]
  norm_num

end ScanMotion

end LidarOdometry
