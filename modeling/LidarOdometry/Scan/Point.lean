import LidarOdometry.Geometry.Vector

/-!
# Scan Points

A return of the sensor carries where it was measured, in the moving sensor's own frame, where
it lies in the fixed frame of the map, and when it was acquired: absolutely, and as a fraction
of the scan.

## Main definitions

* `ScanPoint`: a return with its coordinates and times.
* `ScanPoint.normalizePhases`: fractions of the scan from absolute times.
-/

namespace LidarOdometry

/-- **A sensor return.** -/
@[ext]
structure ScanPoint (α : Type) where
  /-- Coordinates in the sensor frame, at the time of acquisition. -/
  raw : Vec3 α
  /-- Coordinates in the map frame. -/
  world : Vec3 α
  /-- The time of acquisition, in seconds. -/
  time : α
  /-- The time of acquisition as a fraction of the scan: `0` at its start, `1` at its finish. -/
  phase : α
deriving DecidableEq, Repr

namespace ScanPoint

variable {α : Type} [Scalar α]

/-- A fresh return, not yet placed in the map frame: its raw coordinates stand in. -/
def sampled (raw : Vec3 α) (time phase : α) : ScanPoint α :=
  ⟨raw, raw, time, phase⟩

/-- A return without timing information, taken to be acquired at the finish of the scan. -/
def untimed (raw : Vec3 α) : ScanPoint α :=
  sampled raw 0 1

/-- The earliest and the latest acquisition time, `none` for no points. -/
def timeRange? (points : List (ScanPoint α)) : Option (α × α) :=
  Scalar.range? (points.map time)

/-- **Phases from times.** The earliest point gets phase `0` and the latest `1`; points that
share a single time all get `1`. -/
def normalizePhases (points : List (ScanPoint α)) : List (ScanPoint α) :=
  match timeRange? points with
  | none => points
  | some (earliest, latest) =>
      let duration := latest - earliest
      points.map fun p =>
        { p with phase := if 0 < duration then (p.time - earliest) / duration else 1 }

end ScanPoint

end LidarOdometry
