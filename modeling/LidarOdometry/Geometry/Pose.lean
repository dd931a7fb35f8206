import LidarOdometry.Geometry.Rotation

/-!
# Poses

A pose turns space about the origin and then shifts it. The pose of the sensor takes coordinates
in the sensor's own frame to coordinates in the fixed frame of the map.

## Main definitions

* `Pose.apply`: the image of a point.
* `Pose.mul`, `Pose.inverse`: composition and the opposite motion.
* `Pose.interpolate`: the pose a fraction of the way between two others.
-/

namespace LidarOdometry

/-- **A rigid motion**: rotate about the origin, then shift it to `position`. -/
@[ext]
structure Pose (α : Type) where
  rotation : Mat3 α
  position : Vec3 α
deriving DecidableEq, Repr

namespace Pose

variable {α : Type} [Scalar α]

/-- The motion that moves nothing. -/
def identity : Pose α :=
  ⟨Mat3.identity, 0⟩

/-- The pose with the given position and rotation vector. -/
def ofVectors (position rotation : Vec3 α) : Pose α :=
  ⟨Mat3.ofRotationVector rotation, position⟩

/-- The image of a point. -/
def apply (p : Pose α) (v : Vec3 α) : Vec3 α :=
  p.rotation.mulVec v + p.position

/-- The motion `q` followed by the motion `p`. -/
def mul (p q : Pose α) : Pose α :=
  ⟨p.rotation * q.rotation, p.position + p.rotation.mulVec q.position⟩

instance : Mul (Pose α) := ⟨mul⟩

/-- The motion that undoes `p`. -/
def inverse (p : Pose α) : Pose α :=
  ⟨p.rotation.transpose, p.rotation.transpose.mulVec (-p.position)⟩

/-- The pose at the fraction `t` of the way from `p` to `q`: the rotation turns at constant
speed, the position moves straight. `t` may lie outside `[0, 1]`. -/
def interpolate (p q : Pose α) (t : α) : Pose α :=
  ⟨p.rotation.slerp q.rotation t, p.position.lerp q.position t⟩

/-- The distance between the places of two poses. -/
def distance (p q : Pose α) : α :=
  (p.position - q.position).norm

/-- The angle by which the orientation turns from `p` to `q`. -/
def turn (p q : Pose α) : α :=
  (p.rotation.transpose * q.rotation).angle

end Pose

end LidarOdometry
