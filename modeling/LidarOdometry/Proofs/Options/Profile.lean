import LidarOdometry.Proofs.Numeric.Exact
import LidarOdometry.Options.Profile
import LidarOdometry.Proofs.Options.Validity

/-!
# Presets

The options of every preset are valid, as they run and in exact arithmetic. In the driving profile
the voxel sizes fit together: keypoints are drawn by voxels a whole number of times as large as
those by which the scan was thinned.

## Main results

* `OdometryOptions.validate_ofProfile`, `OdometryOptions.valid_ofProfile`: presets are valid.
* `OdometryOptions.gridSizes_driving`: the grids of the driving profile.
-/

namespace LidarOdometry

namespace OdometryOptions

/-- **Presets pass validation** in floating point. -/
theorem validate_ofProfile (profile : Profile) :
    (ofProfile profile : OdometryOptions Float).validate = .ok () := by
  cases profile <;> rfl

/-- **Presets are valid** in exact arithmetic. -/
theorem valid_ofProfile (profile : Profile) : (ofProfile profile : OdometryOptions ℝ).Valid := by
  cases profile with
  | driving => constructor <;> norm_num [ofProfile, driving, SolverOptions.standard]
  | slowOutdoor =>
      constructor <;> norm_num [ofProfile, slowOutdoor, driving, SolverOptions.standard]

/-- **The grids of the driving profile** nest: five times as large while the map is young, three
times afterwards. -/
theorem gridSizes_driving (index : Nat) : ∃ size : ℝ, 0 < size ∧
    (driving : OdometryOptions ℝ).gridSizes index =
      (size, ((if index < 20 then 5 else 3 : ℕ) : ℝ) * size) := by
  have hscans : (driving : OdometryOptions ℝ).youngScans = 20 := rfl
  rw [gridSizes, hscans]
  by_cases hyoung : index < 20
  · refine ⟨0.2, by norm_num, ?_⟩
    rw [if_pos hyoung, if_pos hyoung]
    norm_num [driving]
  · refine ⟨0.5, by norm_num, ?_⟩
    rw [if_neg hyoung, if_neg hyoung]
    norm_num [driving]

end OdometryOptions

end LidarOdometry
