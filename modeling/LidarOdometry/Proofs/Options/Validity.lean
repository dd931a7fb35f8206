import LidarOdometry.Options.Validity
import Mathlib.Tactic.Basic

/-!
# Valid Options

Validation asks one requirement after the other and reports the first that is missed, so options
pass it exactly if they meet all requirements, in whichever order these are listed.

## Main definitions

* `OdometryOptions.Valid`: all requirements are met.

## Main results

* `OdometryOptions.validate_eq_ok_iff`: validation accepts exactly the valid options.
-/

namespace LidarOdometry

namespace OdometryOptions

variable {α : Type} [Scalar α] {field : String} {value : α} {count : Nat}

/-- **Options that meet all requirements.** -/
structure Valid (o : OdometryOptions α) : Prop where
  youngThinningSize : 0 < o.youngThinningSize
  youngKeypointSize : 0 < o.youngKeypointSize
  thinningSize : 0 < o.thinningSize
  keypointSize : 0 < o.keypointSize
  maxDistance : 0 < o.maxDistance
  scanPeriod : 0 < o.scanPeriod
  voxelSize : 0 < o.solver.voxelSize
  minPointDistance : 0 ≤ o.minPointDistance
  maxCorrection : 0 ≤ o.maxCorrection
  sparseOverlap : 0 ≤ o.sparseOverlap
  wideningDistance : 0 ≤ o.wideningDistance
  wideningRotation : 0 ≤ o.wideningRotation
  maxGap : 0 ≤ o.maxGap
  failEarlyRatio : 0 ≤ o.failEarlyRatio
  maxPlaneDistance : 0 ≤ o.solver.maxPlaneDistance
  damping : 0 ≤ o.solver.damping
  maxPointsPerVoxel : o.maxPointsPerVoxel ≠ 0
  maxAttempts : o.maxAttempts ≠ 0
  neighbors : o.solver.minNeighbors ≤ o.solver.maxNeighbors

omit [Scalar α] in
/-- Requirements in a row are met if the first one is and the others are. -/
theorem bind_eq_ok_iff {first : Except (OptionFault α) Unit}
    {others : Unit → Except (OptionFault α) Unit} :
    first >>= others = .ok () ↔ first = .ok () ∧ others () = .ok () := by
  cases first with
  | error fault => exact ⟨nofun, fun h => nomatch h.1⟩
  | ok => exact ⟨fun h => ⟨rfl, h⟩, fun h => h.2⟩

/-- This check passes positive values only. -/
theorem requirePositive_eq_ok_iff : requirePositive field value = .ok () ↔ 0 < value := by
  rw [requirePositive]
  split <;> simp [*]

/-- This check passes values that are zero or positive. -/
theorem requireNonnegative_eq_ok_iff : requireNonnegative field value = .ok () ↔ 0 ≤ value := by
  rw [requireNonnegative]
  split <;> simp [*]

omit [Scalar α] in
/-- This check passes every count but zero. -/
theorem requireSome_eq_ok_iff :
    (requireSome field count : Except (OptionFault α) Unit) = .ok () ↔ count ≠ 0 := by
  rw [requireSome]
  split <;> simp [*]

/-- **Validation accepts exactly the valid options.** -/
theorem validate_eq_ok_iff {o : OdometryOptions α} : o.validate = .ok () ↔ o.Valid := by
  have hneighbors : (if o.solver.maxNeighbors < o.solver.minNeighbors then
      .error ⟨"solver.min_number_neighbors", .atMostMaxNeighbors⟩ else pure () :
      Except (OptionFault α) Unit) = .ok () ↔ o.solver.minNeighbors ≤ o.solver.maxNeighbors := by
    rw [← Nat.not_lt]
    split <;> simp [*, pure, Except.pure]
  simp only [validate, bind_eq_ok_iff, requirePositive_eq_ok_iff, requireNonnegative_eq_ok_iff,
    requireSome_eq_ok_iff, hneighbors]
  constructor
  · rintro ⟨youngThinningSize, youngKeypointSize, thinningSize, keypointSize, maxDistance,
      scanPeriod, voxelSize, minPointDistance, maxCorrection, sparseOverlap, wideningDistance,
      wideningRotation, maxGap, failEarlyRatio, maxPlaneDistance, damping, maxPointsPerVoxel,
      maxAttempts, neighbors⟩
    exact {
      youngThinningSize, youngKeypointSize, thinningSize, keypointSize, maxDistance, scanPeriod,
      voxelSize, minPointDistance, maxCorrection, sparseOverlap, wideningDistance,
      wideningRotation, maxGap, failEarlyRatio, maxPlaneDistance, damping, maxPointsPerVoxel,
      maxAttempts, neighbors }
  · intro h
    exact ⟨h.youngThinningSize, h.youngKeypointSize, h.thinningSize, h.keypointSize,
      h.maxDistance, h.scanPeriod, h.voxelSize, h.minPointDistance, h.maxCorrection,
      h.sparseOverlap, h.wideningDistance, h.wideningRotation, h.maxGap, h.failEarlyRatio,
      h.maxPlaneDistance, h.damping, h.maxPointsPerVoxel, h.maxAttempts, h.neighbors⟩

end OdometryOptions

end LidarOdometry
