import LidarOdometry.Proofs.Engine.Run
import LidarOdometry.Proofs.Registration.Placement

/-!
# The Clouds of a Summary

A summary holds two clouds: the thinned scan, placed by the registrar, and all points of the scan,
placed by the engine. Each of the two decides by itself whether to compensate the motion of the
sensor. Unless the motion is undone before registration they decide alike, and then one cloud is
the other one thinned, whatever became of the scan.

## Main results

* `Engine.corrected_call`, `Engine.allCorrected_call`: how the two clouds are placed.
* `Engine.clouds_agree`: one cloud is the other one thinned.
-/

namespace LidarOdometry

variable {σ α : Type} [Scalar α]

namespace Engine

variable {e : Engine σ α} {c : ScanCall α}

/-- The registrar places the thinned scan, after its motion was undone where the mode asks for
it. -/
theorem corrected_call (e : Engine σ α) (c : ScanCall α) : (e.call c).1.corrected =
    (e.call c).1.motion.place e.options.compensation.placesAlongScan
      (e.registrar.settled (e.scanFor c)).points := by
  obtain ⟨sampler, heq⟩ := e.call_eq c
  rw [heq]
  exact e.registrar.yields_corrected (e.scanFor c) ⟨e.session.memory, sampler⟩

/-- The engine places all points. -/
theorem allCorrected_call (e : Engine σ α) (c : ScanCall α) : (e.call c).1.allCorrected =
    (e.call c).1.motion.place (e.options.compensation != .none) c.points := by
  obtain ⟨sampler, heq⟩ := e.call_eq c
  rw [heq]

/-- Registrar and engine decide alike, unless the motion is undone before registration. -/
theorem placesAlongScan_eq {compensation : Compensation}
    (hmode : compensation ≠ .constantVelocity) :
    compensation.placesAlongScan = (compensation != .none) := by
  cases compensation with
  | constantVelocity => exact absurd rfl hmode
  | none | iterative | continuous => rfl

/-- Only in one mode the motion is undone before registration. -/
theorem points_settled (hmode : e.options.compensation ≠ .constantVelocity) (c : ScanCall α) :
    (e.registrar.settled (e.scanFor c)).points =
      Sampler.thin (e.options.gridSizes e.trajectory.length).1 c.points := by
  rw [Registrar.settled, if_neg fun h => hmode h.1]
  rfl

/-- **The two clouds agree** unless the motion is undone before registration. Whatever becomes of
a scan, the thinned cloud is the full one thinned, both are placed by the rule that belongs to
the mode and by the motion that is reported, and nothing but map coordinates differs from the
scan. -/
theorem clouds_agree (e : Engine σ α) (hmode : e.options.compensation ≠ .constantVelocity)
    (c : ScanCall α) :
    let summary := (e.call c).1
    let size := (e.options.gridSizes e.trajectory.length).1
    let compensate := e.options.compensation != .none
    (∀ sampler : Sampler, summary.corrected = (sampler.sample size summary.allCorrected).1) ∧
      (∀ q ∈ summary.corrected ++ summary.allCorrected,
        q.world = summary.motion.locate compensate q) ∧
      List.Forall₂ ScanPoint.IsMoved c.points summary.allCorrected ∧
      List.Forall₂ ScanPoint.IsMoved (Sampler.thin size c.points) summary.corrected := by
  intro summary size compensate
  have hall : summary.allCorrected = summary.motion.place compensate c.points :=
    e.allCorrected_call c
  have hthinned : summary.corrected =
      summary.motion.place compensate (Sampler.thin size c.points) := by
    have hcompensate : e.options.compensation.placesAlongScan = compensate :=
      placesAlongScan_eq hmode
    rw [← points_settled hmode c, ← hcompensate]
    exact e.corrected_call c
  refine ⟨fun sampler => ?_, fun q hq => ?_, ?_, ?_⟩
  · rw [Sampler.sample_eq_thin, hall, Sampler.thin_place, hthinned]
  · rw [hall, hthinned, List.mem_append] at hq
    rcases hq with hq | hq
    · exact ScanMotion.world_of_mem_place hq
    · exact ScanMotion.world_of_mem_place hq
  · rw [hall]
    exact summary.motion.forall₂_isMoved_place compensate c.points
  · rw [hthinned]
    exact summary.motion.forall₂_isMoved_place compensate _

/-- A first scan, two of whose three points share a voxel. -/
theorem clouds_agree_first_scan :
    let e : Engine Unit Float :=
      ⟨.driving, .pure fun _ _ => .error .degenerate, ⟨(), .fresh⟩, [], .empty 1 20⟩
    let points : List (ScanPoint Float) :=
      [.sampled ⟨1, 0, 0⟩ 0 0, .sampled ⟨1.0625, 0, 0⟩ 0 0.5, .sampled ⟨2, 0, 0⟩ 0 1]
    let summary := (e.call (.predicted points)).1
    e.options.compensation ≠ .constantVelocity ∧
      summary.corrected = (Sampler.fresh.sample 0.2 summary.allCorrected).1 ∧
      summary.corrected.map ScanPoint.raw = [⟨1, 0, 0⟩, ⟨2, 0, 0⟩] := by
  intro e points summary
  have hmode : e.options.compensation ≠ .constantVelocity := nofun
  obtain ⟨hsample, -, -, hmoved⟩ := clouds_agree e hmode (.predicted points)
  refine ⟨hmode, hsample .fresh, ?_⟩
  have hfirst : VoxelKey.ofPoint (0.2 : Float) ⟨1, 0, 0⟩ = ⟨5, 0, 0⟩ := by decide +kernel
  have hsecond : VoxelKey.ofPoint (0.2 : Float) ⟨1.0625, 0, 0⟩ = ⟨5, 0, 0⟩ := by decide +kernel
  have hthird : VoxelKey.ofPoint (0.2 : Float) ⟨2, 0, 0⟩ = ⟨10, 0, 0⟩ := by decide +kernel
  have hthinned : Sampler.thin (0.2 : Float) points =
      [.sampled ⟨1, 0, 0⟩ 0 0, .sampled ⟨2, 0, 0⟩ 0 1] := by
    simp [points, Sampler.thin, VoxelGrid.firsts, ScanPoint.sampled, hfirst, hsecond, hthird]
  rw [ScanPoint.map_raw_of_isMoved hmoved]
  exact congrArg (List.map ScanPoint.raw) hthinned

end Engine

end LidarOdometry
