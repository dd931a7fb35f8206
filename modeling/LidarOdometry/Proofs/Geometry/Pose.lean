import LidarOdometry.Proofs.Geometry.Interpolation
import LidarOdometry.Geometry.Pose

/-!
# Rigid Poses

A pose is rigid if it turns space by a rotation. Rigid poses are a group of motions, and they
carry interpolated poses along: a motion of the whole world that is applied to both ends is
applied to everything in between. What relates one pose to another, the distance, the turn and the
motion from the one to the other, does not notice a motion of the world at all.

## Main definitions

* `Pose.IsRigid`: rigid poses.

## Main results

* `Pose.mul_apply`, `Pose.apply_inverse_apply`: composition and the opposite motion.
* `Pose.IsRigid.mul`, `Pose.IsRigid.inverse`, `Pose.IsRigid.inverse_mul_self`: rigid poses are a
  group.
* `Pose.IsRigid.distance_eq`, `Pose.turn_eq`: how far one pose is from another is read off the
  motion between them.
* `Pose.mul_interpolate`: a motion of the world moves interpolated poses.
* `Pose.inverse_mul_mul`, `Pose.distance_mul`, `Pose.turn_mul`: it does not change how poses relate.
-/

namespace LidarOdometry

namespace Pose

/-- **A rigid pose** turns space by a rotation. -/
def IsRigid (p : Pose ℝ) : Prop :=
  p.rotation.IsRotation

variable {e p q : Pose ℝ}

/-- The rotation of a product. -/
theorem mul_rotation (p q : Pose ℝ) : (p * q).rotation = p.rotation * q.rotation := rfl

/-- The place of a product: that of the second pose, as seen from the first. -/
theorem mul_position (p q : Pose ℝ) : (p * q).position = p.apply q.position :=
  Vec3.ext (add_comm _ _) (add_comm _ _) (add_comm _ _)

/-- The pose at the origin is rigid. -/
theorem isRigid_identity : (identity : Pose ℝ).IsRigid :=
  Mat3.IsRotation.identity

/-- **Rigid poses one after the other** are rigid. -/
theorem IsRigid.mul (hp : p.IsRigid) (hq : q.IsRigid) : (p * q).IsRigid :=
  Mat3.IsRotation.mul hp hq

/-- **The inverse of a rigid pose** is rigid. -/
theorem IsRigid.inverse (hp : p.IsRigid) : p.inverse.IsRigid :=
  Mat3.IsRotation.transpose hp

/-- A pose moves the origin to its position. -/
theorem apply_zero (p : Pose ℝ) : p.apply 0 = p.position := by
  refine Vec3.ext ?_ ?_ ?_ <;> simp [apply, Mat3.mulVec, Vec3.dot]

/-- A composition moves a point by its parts in turn. -/
theorem mul_apply (p q : Pose ℝ) (v : Vec3 ℝ) : (p * q).apply v = p.apply (q.apply v) := by
  simp only [apply, mul_rotation, mul_position, Mat3.mul_mulVec, Mat3.mulVec_add]
  refine Vec3.ext ?_ ?_ ?_ <;> simp only [Vec3.add_x, Vec3.add_y, Vec3.add_z] <;> ring

/-- **The opposite motion is undone.** -/
theorem apply_inverse_apply (hp : p.IsRigid) (v : Vec3 ℝ) : p.apply (p.inverse.apply v) = v := by
  have hturn : ∀ w, p.rotation.mulVec (p.rotation.transpose.mulVec w) = w := fun w => by
    rw [← Mat3.mul_mulVec, hp.mul_transpose, Mat3.identity_mulVec]
  simp only [apply, inverse, Mat3.mulVec_add, hturn]
  refine Vec3.ext ?_ ?_ ?_ <;> simp

/-- A motion carries points between two others along. -/
theorem apply_lerp (e : Pose ℝ) (v w : Vec3 ℝ) (t : ℝ) :
    e.apply (v.lerp w t) = (e.apply v).lerp (e.apply w) t := by
  simp only [apply, Vec3.lerp_eq, Mat3.mulVec_add, Mat3.mulVec_scale]
  refine Vec3.ext ?_ ?_ ?_ <;> simp only [Vec3.add_x, Vec3.add_y, Vec3.add_z, Vec3.scale] <;> ring

/-- Between a pose and itself there is no other. -/
theorem interpolate_self (hp : p.IsRigid) (t : ℝ) : p.interpolate p t = p := by
  refine Pose.ext (Mat3.slerp_self hp t) ?_
  rw [interpolate, Vec3.lerp_eq]
  refine Vec3.ext ?_ ?_ ?_ <;> simp only [Vec3.add_x, Vec3.add_y, Vec3.add_z, Vec3.scale] <;> ring

/-- **A motion of the world moves interpolated poses**, if the orientations are less than a half
turn apart. -/
theorem mul_interpolate (he : e.IsRigid) (hp : p.IsRigid) (hq : q.IsRigid)
    (hturn : p.turn q < Real.pi) (t : ℝ) :
    (e * p).interpolate (e * q) t = e * p.interpolate q t := by
  refine Pose.ext (Mat3.slerp_mul he hp hq hturn t) ?_
  simp only [interpolate, mul_position, apply_lerp]

/-! ### Compositions -/

/-- The motion that moves nothing changes no motion. -/
theorem identity_mul (p : Pose ℝ) : identity * p = p := by
  refine Pose.ext (Mat3.identity_mul _) ?_
  calc (identity * p).position
      = Mat3.identity.mulVec p.position + 0 := mul_position _ _
    _ = p.position := by
        rw [Mat3.identity_mulVec]
        refine Vec3.ext ?_ ?_ ?_ <;> simp

/-- The pose at the origin is neutral on the right. -/
theorem mul_identity (p : Pose ℝ) : p * identity = p := by
  refine Pose.ext (Mat3.mul_identity _) ?_
  rw [mul_position, identity, apply_zero]

/-- Compositions can be taken in any order. -/
theorem mul_assoc (e p q : Pose ℝ) : e * p * q = e * (p * q) := by
  refine Pose.ext (Mat3.mul_assoc _ _ _) ?_
  rw [mul_position, mul_position, mul_position, mul_apply]

/-- **Poses are a monoid**, in which a motion can be repeated. -/
noncomputable instance : Monoid (Pose ℝ) where
  mul_assoc := mul_assoc
  one := identity
  one_mul := identity_mul
  mul_one := mul_identity

/-- What the opposite motion makes of a point depends on where the point lies from the pose. -/
theorem inverse_apply (p : Pose ℝ) (v : Vec3 ℝ) :
    p.inverse.apply v = p.rotation.transpose.mulVec (v - p.position) := by
  rw [apply, inverse, ← Mat3.mulVec_add]
  refine congrArg _ (Vec3.ext ?_ ?_ ?_) <;>
    simp only [Vec3.add_x, Vec3.add_y, Vec3.add_z, Vec3.sub_x, Vec3.sub_y, Vec3.sub_z, Vec3.neg_x,
      Vec3.neg_y, Vec3.neg_z, sub_eq_add_neg]

/-- A motion that is undone leaves nothing. -/
theorem IsRigid.inverse_mul_self (hp : p.IsRigid) : p.inverse * p = identity := by
  refine Pose.ext hp.transpose_mul_self ?_
  rw [mul_position, inverse_apply]
  refine Vec3.ext ?_ ?_ ?_ <;> simp [Mat3.mulVec, Vec3.dot, identity]

/-- **A rigid pose can be read backwards.** -/
theorem IsRigid.inverse_apply_apply (hp : p.IsRigid) (v : Vec3 ℝ) :
    p.inverse.apply (p.apply v) = v := by
  rw [← mul_apply, hp.inverse_mul_self, identity, apply, Mat3.identity_mulVec]
  refine Vec3.ext ?_ ?_ ?_ <;> simp

/-- **What follows a motion** is left when the motion is undone. -/
theorem IsRigid.inverse_mul_cancel_left (hp : p.IsRigid) (q : Pose ℝ) :
    p.inverse * (p * q) = q := by
  rw [← mul_assoc, hp.inverse_mul_self, identity_mul]

/-- **The distance** between two poses is the length of the motion from the one to the other. -/
theorem IsRigid.distance_eq (hp : p.IsRigid) (q : Pose ℝ) :
    q.distance p = (p.inverse * q).position.norm := by
  rw [mul_position, inverse_apply, hp.transpose.norm_mulVec, distance]

/-- **The turn** from one pose to another is that of the motion from the one to the other. -/
theorem turn_eq (p q : Pose ℝ) : p.turn q = (p.inverse * q).rotation.angle := rfl

/-! ### Poses in a moved world -/

/-- A motion turns what separates two points. -/
theorem apply_sub_apply (e : Pose ℝ) (v w : Vec3 ℝ) :
    e.apply v - e.apply w = e.rotation.mulVec (v - w) := by
  refine Vec3.ext ?_ ?_ ?_ <;>
    simp only [apply, Mat3.mulVec, Vec3.dot, Vec3.add_x, Vec3.add_y, Vec3.add_z, Vec3.sub_x,
      Vec3.sub_y, Vec3.sub_z] <;> ring

/-- **A rigid pose keeps distances.** -/
theorem IsRigid.norm_apply_sub_apply (he : e.IsRigid) (v w : Vec3 ℝ) :
    (e.apply v - e.apply w).norm = (v - w).norm := by
  rw [apply_sub_apply, he.norm_mulVec]

/-- **From one pose to another** it is the same motion in a moved world. -/
theorem inverse_mul_mul (he : e.IsRigid) (p q : Pose ℝ) :
    (e * p).inverse * (e * q) = p.inverse * q := by
  refine Pose.ext (he.transpose_mul_mul _ _) ?_
  calc ((e * p).inverse * (e * q)).position
      = (e.rotation * p.rotation).transpose.mulVec (e.apply q.position - e.apply p.position) := by
        rw [mul_position, inverse_apply, mul_rotation, mul_position, mul_position]
    _ = p.rotation.transpose.mulVec (q.position - p.position) := by
        rw [apply_sub_apply, Mat3.transpose_mul, Mat3.mul_mulVec, he.transpose_mulVec_mulVec]
    _ = (p.inverse * q).position := by
        rw [mul_position, inverse_apply]

/-- **Distances** are the same in a moved world. -/
theorem distance_mul (he : e.IsRigid) (p q : Pose ℝ) : (e * p).distance (e * q) = p.distance q := by
  rw [distance, mul_position, mul_position, he.norm_apply_sub_apply, distance]

/-- **Turns** are the same in a moved world. -/
theorem turn_mul (he : e.IsRigid) (p q : Pose ℝ) : (e * p).turn (e * q) = p.turn q := by
  rw [turn_eq, inverse_mul_mul he, turn_eq]

end Pose

end LidarOdometry
