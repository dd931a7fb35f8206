import LidarOdometry.Options.Basic
import LidarOdometry.Scan.Motion
import LidarOdometry.Voxel.Map

/-!
# Assessing a Registration

A registered scan is accepted if it starts close enough to where the previous one finished and
lies close enough to its guess. A rejection names every threshold that was exceeded and by what
value; it is *clear* if one was exceeded by a wide margin.

Exceeding means being strictly greater. A value that is not a number exceeds nothing.

## Main definitions

* `Assessment`: the measures of a registered scan.
* `Assessment.check`: acceptance, or the `Rejection`.
* `elapsedPeriods`: the time since the previous scan, in scan periods.
* `saturation`: how much of a scan falls into full voxels.
-/

namespace LidarOdometry

/-- **The measures of a registered scan.** -/
structure Assessment (α : Type) where
  /-- The distance from the finish of the previous scan to the start of this one. -/
  gap : α
  /-- The angle from the finish of the previous scan to the start of this one. -/
  turn : α
  /-- How far the poses were moved away from the guess. -/
  correction : α
  /-- The distance travelled during the scan. -/
  span : α
  /-- The angle turned during the scan. -/
  sweep : α
deriving DecidableEq, Repr

/-- The measures that have a threshold. -/
inductive Measure where
  | gap
  | correction
deriving DecidableEq, Repr

/-- What a measure is called in messages. -/
def Measure.name : Measure → String
  | gap => "relative distance"
  | correction => "distance correction"

/-- A measure and its threshold. -/
structure Criterion (α : Type) where
  measure : Measure
  value : α
  threshold : α
deriving DecidableEq, Repr

/-- **Why a registered scan is rejected**: the criteria that it misses. -/
structure Rejection (α : Type) where
  violations : List (Criterion α)
  /-- A threshold is exceeded by a wide margin. -/
  isClear : Bool
deriving DecidableEq, Repr

/-- The wording of a rejection, values being written by `write`. -/
def Rejection.message {α : Type} (write : α → String) (r : Rejection α) : String :=
  String.intercalate ", " (r.violations.map fun c =>
    c.measure.name ++ " " ++ write c.value ++ " above " ++ write c.threshold)

variable {α : Type} [Scalar α]

namespace Assessment

/-- The assessment of a scan that was not registered. -/
def zero : Assessment α :=
  ⟨0, 0, 0, 0, 0⟩

/-- The measures of a motion with respect to its guess and the previous scan. -/
def ofMotion (motion guess : ScanMotion α) (previous : Option (ScanMotion α)) : Assessment α where
  gap := previous.elim 0 motion.gapFrom
  turn := previous.elim 0 motion.turnFrom
  correction := motion.departureFrom guess
  span := motion.span
  sweep := motion.sweep

/-- The criteria of the options, for a scan `periods` scan periods after the previous one. -/
def criteria (a : Assessment α) (options : OdometryOptions α) (periods : α) :
    List (Criterion α) :=
  [⟨.gap, a.gap, options.maxGap * periods⟩, ⟨.correction, a.correction, options.maxCorrection⟩]

/-- **Acceptance.** The scan is rejected if some measure exceeds its threshold, clearly if
one exceeds its threshold multiplied by the ratio for a wide margin. -/
def check (a : Assessment α) (options : OdometryOptions α) (periods : α) :
    Except (Rejection α) Unit :=
  let violations := (a.criteria options periods).filter fun c => decide (c.threshold < c.value)
  if violations.isEmpty then .ok ()
  else
    let isWide (c : Criterion α) := decide (c.threshold * options.failEarlyRatio < c.value)
    .error ⟨violations, violations.any isWide⟩

end Assessment

/-- **The time since the previous scan**, in scan periods: one period where the times do not
tell. -/
def elapsedPeriods (motion : ScanMotion α) (previous : Option (ScanMotion α)) (period : α) : α :=
  match previous with
  | none => 1
  | some previous =>
      let periods := (motion.finishTime - previous.finishTime) / period
      if 0 < periods then periods else 1

/-- **The share of keypoints in full voxels** of the map, zero for no keypoints. -/
def saturation (map : VoxelMap α) (keypoints : List (ScanPoint α)) : α :=
  if keypoints.isEmpty then 0
  else
    let full := keypoints.countP fun p => map.isFull (map.keyOf p.world)
    (full : α) / (keypoints.length : α)

end LidarOdometry
