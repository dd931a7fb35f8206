import LidarOdometry.Options.Basic
import LidarOdometry.Scan.Motion

/-!
# Predicting the Next Motion

Before a scan is registered its motion is guessed from the trajectory so far, and its times are
read off its points.

## Main definitions

* `ScanPoint.interval?`: the times that a scan reaches over.
* `Initialization.predict`: the guessed poses.
* `Initialization.predictTimed`: the same with the times of the scan.
-/

namespace LidarOdometry

variable {α : Type} [Scalar α]

/-- **The times that a scan reaches over**, from its earliest point to its latest, `none` for no
points. Every point is held against those before it, and its own time is kept of two that are
equal. -/
def ScanPoint.interval? (points : List (ScanPoint α)) : Option (α × α) :=
  points.foldl (fun interval p =>
    match interval with
    | none => some (p.time, p.time)
    | some (earliest, latest) =>
        some (Scalar.min p.time earliest, Scalar.max p.time latest)) none

namespace Initialization

/-- **The guessed motion over the next scan.** With two scans or more, a sensor assumed to keep
its velocity moves on by the step between the last two finishes, once to the start and once more
to the finish. In all other cases it is assumed to rest at the last finish, or at the origin
before the first scan. -/
def predict (mode : Initialization) (trajectory : List (ScanMotion α)) : ScanMotion α :=
  match mode, trajectory.getLast?, trajectory.dropLast.getLast? with
  | .constantVelocity, some last, some before =>
      let step := before.finish.inverse * last.finish
      let start := last.finish * step
      .between start (start * step)
  | _, some last, _ => .still last.finish
  | _, none, _ => .identity

/-- **The guessed motion with its times**: those of the earliest and the latest point, or the
end of the trajectory if the scan has no points. -/
def predictTimed (mode : Initialization) (trajectory : List (ScanMotion α))
    (points : List (ScanPoint α)) : ScanMotion α :=
  let last := match trajectory.getLast? with
    | some motion => motion.finishTime
    | none => 0
  let (earliest, latest) := (ScanPoint.interval? points).getD (last, last)
  (predict mode trajectory).withTimes earliest latest

end Initialization

end LidarOdometry
