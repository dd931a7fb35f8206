import LidarOdometry.Registration.Assessment
import LidarOdometry.Registration.Error

/-!
# Registration Summaries

## Main definitions

* `Summary`: the outcome of registering one scan.
* `Summary.message`: the wording of its failure.
-/

namespace LidarOdometry

/-- **The outcome of registering one scan.** -/
structure Summary (α : Type) where
  /-- The registered motion; on failure the last one that the solver proposed. -/
  motion : ScanMotion α
  /-- The measures of `motion`. -/
  assessment : Assessment α
  /-- The number of points of the thinned scan. -/
  thinned : Nat
  /-- The number of keypoints in the last attempt. -/
  keypoints : Nat
  attempts : Nat
  isSuccess : Bool
  failure : Option (RegistrationError (Rejection α))
  /-- The share of the registered keypoints that lie in full voxels of the map. -/
  saturation : α
  /-- The thinned scan, placed with `motion`. -/
  corrected : List (ScanPoint α)
  /-- Every point of the scan, placed with `motion`. -/
  allCorrected : List (ScanPoint α)
deriving Repr

namespace Summary

/-- The summary of a scan of which nothing is known but its guess and its size. -/
def initial {α : Type} [Scalar α] (guess : ScanMotion α) (thinned : Nat) : Summary α where
  motion := guess
  assessment := .zero
  thinned := thinned
  keypoints := 0
  attempts := 1
  isSuccess := false
  failure := none
  saturation := 0
  corrected := []
  allCorrected := []

/-- The wording of the failure, empty on success; values are written by `write`. -/
def message {α : Type} (write : α → String) (s : Summary α) : String :=
  match s.failure with
  | none => ""
  | some error => error.message (Rejection.message write)

end Summary

end LidarOdometry
