import LidarOdometry.Geometry.Pose
import LidarOdometry.Scan.Point

/-!
# The Motion of the Sensor over a Scan

While a scan is acquired the sensor moves. Its motion is described by the poses at the first
and at the last return, and interpolated in between. Placing a point means moving it from the
sensor frame to the map frame, either with the pose at the point's own phase (*compensating*
the motion) or with the pose at the finish.

## Main definitions

* `ScanMotion`: the two poses, with their times.
* `ScanMotion.poseAt`: the pose at a phase of the scan.
* `ScanMotion.place`: points placed in the map frame.
* `ScanMotion.settle`: raw coordinates re-expressed in the sensor frame at the finish.
* `ScanMotion.span`, `ScanMotion.sweep`, `ScanMotion.gapFrom`, `ScanMotion.turnFrom`,
  `ScanMotion.departureFrom`: how far the motion reaches and how it relates to another.
-/

namespace LidarOdometry

/-- **The sensor motion over one scan.** -/
@[ext]
structure ScanMotion (α : Type) where
  /-- The pose at the first return. -/
  start : Pose α
  /-- The pose at the last return. -/
  finish : Pose α
  startTime : α
  finishTime : α
deriving DecidableEq, Repr

namespace ScanMotion

variable {α : Type} [Scalar α]

/-- The motion between two poses, without times. -/
def between (start finish : Pose α) : ScanMotion α :=
  ⟨start, finish, 0, 0⟩

/-- A sensor at rest. -/
def still (pose : Pose α) : ScanMotion α :=
  between pose pose

/-- A sensor at rest at the origin of the map. -/
def identity : ScanMotion α :=
  still Pose.identity

/-- The same motion with other times. -/
def withTimes (m : ScanMotion α) (startTime finishTime : α) : ScanMotion α :=
  { m with startTime, finishTime }

/-! ### Placing points -/

/-- **The pose at a phase of the scan.** -/
def poseAt (m : ScanMotion α) (phase : α) : Pose α :=
  m.start.interpolate m.finish phase

/-- The map coordinates of a point: with the pose at its own phase if motion is compensated,
with the pose at the finish otherwise. -/
def locate (m : ScanMotion α) (compensate : Bool) (p : ScanPoint α) : Vec3 α :=
  if compensate then (m.poseAt p.phase).apply p.raw else m.finish.apply p.raw

/-- **Points placed in the map frame.** Nothing but their map coordinates changes. -/
def place (m : ScanMotion α) (compensate : Bool) (points : List (ScanPoint α)) :
    List (ScanPoint α) :=
  points.map fun p => { p with world := m.locate compensate p }

/-- **Raw coordinates without the motion.** Every point is re-expressed in the sensor frame at
the finish of the scan, as if the whole scan had been acquired at that moment. -/
def settle (m : ScanMotion α) (points : List (ScanPoint α)) : List (ScanPoint α) :=
  let back := m.finish.inverse
  points.map fun p => { p with raw := back.apply (m.locate true p) }

/-! ### Measures of a motion -/

/-- The distance travelled during the scan. -/
def span (m : ScanMotion α) : α :=
  m.finish.distance m.start

/-- The angle turned during the scan, in radians. -/
def sweep (m : ScanMotion α) : α :=
  m.start.turn m.finish

/-- The distance from the finish of the previous scan to the start of this one. -/
def gapFrom (m previous : ScanMotion α) : α :=
  m.start.distance previous.finish

/-- The angle from the finish of the previous scan to the start of this one, in radians. -/
def turnFrom (m previous : ScanMotion α) : α :=
  previous.finish.turn m.start

/-- The larger of the distances that separate the two starts and the two finishes. -/
def departureFrom (m reference : ScanMotion α) : α :=
  Scalar.max (m.start.distance reference.start) (m.finish.distance reference.finish)

end ScanMotion

end LidarOdometry
