import LidarOdometry.Proofs.Engine.Acceptance
import LidarOdometry.Proofs.Engine.Placement
import LidarOdometry.Proofs.Registration.Exits

/-!
# Consistent Summaries

A summary has ten fields, which are written at several places and on several exits. This module
says how they fit together and with the scan: every point is placed, the counts are within what the
scan and the options allow, success is the absence of a failure, and each failure carries numbers
that agree with the rest of the summary.

All of this is read off the three exits of a registration (`Registrar.Ends`); a call adds to it only
that the scan is thinned first and placed as a whole afterwards.

## Main definitions

* `Summary.IsConsistent`: a summary agrees with itself, the options and the points of its scan.

## Main results

* `Engine.ends_call`: a call ends like the registration of the thinned scan.
* `Engine.summaries_consistent`: every summary of every run is consistent.
-/

namespace LidarOdometry

variable {σ α : Type}

/-- **A summary is consistent** with itself, with the options and with the points of its scan. -/
structure Summary.IsConsistent (options : OdometryOptions α) (points : List (ScanPoint α))
    (summary : Summary α) : Prop where
  /-- Every point is placed, in order, and nothing of it but its map coordinates is changed. -/
  allCorrected : List.Forall₂ ScanPoint.IsMoved points summary.allCorrected
  length_corrected : summary.corrected.length = summary.thinned
  thinned_le : summary.thinned ≤ points.length
  keypoints : points ≠ [] → 1 ≤ summary.keypoints ∧ summary.keypoints ≤ summary.thinned
  attempts : points ≠ [] → 1 ≤ summary.attempts ∧
    summary.attempts ≤ if options.robust then options.maxAttempts else 1
  isSuccess_iff : summary.isSuccess = true ↔ summary.failure = none
  /-- However values are written, a failure has a wording and a success has none. -/
  message_iff : ∀ write, summary.message write = "" ↔ summary.failure = none
  /-- Attempts are used up in robust registration only, and never within one another. -/
  of_exhausted : ∀ n last, summary.failure = some (.exhausted n last) → options.robust = true ∧
    n = summary.attempts ∧ n = options.maxAttempts ∧ last.IsSingle
  /-- Keypoints are missing only if points are. -/
  tooFewKeypoints_iff : (∃ found required,
    summary.failure = some (.tooFewKeypoints found required)) ↔ points = []
  of_tooFewKeypoints : ∀ found required,
    summary.failure = some (.tooFewKeypoints found required) →
      found = 0 ∧ required = max options.minKeypoints 1 ∧ summary.attempts = 1

namespace Engine

variable [Scalar α] {e : Engine σ α} {c : ScanCall α}

/-- **A call ends** like the registration of the thinned scan, all of whose points are placed in
the end. -/
theorem ends_call (hattempts : 0 < e.options.maxAttempts) (c : ScanCall α) :
    ∃ summary, e.registrar.Ends (e.scanFor c) e.session.memory summary ∧
      (e.call c).1 = { summary with
        allCorrected := summary.motion.place (e.options.compensation != .none) c.points } := by
  obtain ⟨sampler, heq⟩ := e.call_eq c
  have hends := Registrar.register_ends (r := e.registrar) hattempts (e.scanFor c)
    ⟨e.session.memory, sampler⟩
  exact ⟨_, hends, by rw [heq]⟩

/-- **The summary of a call** is consistent. -/
theorem isConsistent_call (hattempts : 0 < e.options.maxAttempts) (c : ScanCall α) :
    (e.call c).1.IsConsistent e.options c.points := by
  obtain ⟨summary, hends, heq⟩ := ends_call hattempts c
  have hthinned : summary.thinned = (e.scanFor c).points.length := hends.thinned_eq
  have hnil : (e.scanFor c).points = [] ↔ c.points = [] := Sampler.thin_eq_nil_iff
  rw [heq]
  exact {
    allCorrected := summary.motion.forall₂_isMoved_place _ _
    length_corrected := hends.length_corrected.trans hthinned.symm
    thinned_le := hthinned.trans_le (Sampler.length_thin_le _ _)
    keypoints := fun hpoints => by
      rw [hthinned]
      exact hends.keypoints_of_ne_nil (mt hnil.mp hpoints)
    attempts := fun _ => hends.attempts_le hattempts
    isSuccess_iff := hends.isSuccess_iff
    message_iff := fun write => Summary.message_eq_empty_iff write
    of_exhausted := fun n last hfailure => by
      obtain ⟨hrobust, hmax, hcount, hlast⟩ := hends.of_exhausted hfailure
      rw [Registrar.maxAttempts] at hmax
      exact ⟨hrobust, hcount.symm, hmax.trans (if_pos hrobust), hlast⟩
    tooFewKeypoints_iff := by
      rw [← hnil]
      constructor
      · rintro ⟨found, required, hfailure⟩
        exact (hends.tooFewKeypoints_iff.mp hfailure).1
      · intro hpoints
        exact ⟨_, _, hends.tooFewKeypoints_iff.mpr ⟨hpoints, rfl, rfl⟩⟩
    of_tooFewKeypoints := fun found required hfailure => by
      obtain ⟨hpoints, hfound, hrequired⟩ := hends.tooFewKeypoints_iff.mp hfailure
      exact ⟨hfound, hrequired, hends.attempts_of_nil hpoints⟩ }

/-- **Every summary is consistent**: after any calls of a new engine, whatever its solver does, and
whether the next scan comes with a guess or not. -/
theorem summaries_consistent {options : OdometryOptions α} {solver : Solver σ α} {memory : σ}
    {fresh : Engine σ α} (hfresh : ofOptions options solver memory = .ok fresh)
    (calls : List (ScanCall α)) (c : ScanCall α) :
    ((fresh.after calls).call c).1.IsConsistent options c.points := by
  have hoptions : (fresh.after calls).options = options :=
    (settings_after_ofOptions hfresh calls).1
  rw [← hoptions]
  refine isConsistent_call ?_ c
  rw [hoptions]
  exact Nat.pos_of_ne_zero (valid_of_ofOptions hfresh).maxAttempts

/-- A scan of a single point, after one that is accepted, reports that all ten attempts failed, each
with that point as its only keypoint. The scan after it reports no failure, and places both of its
points. -/
theorem summaries_consistent_few_keypoints : ∃ fresh : Engine Unit Float,
    ofOptions .slowOutdoor (believing 2) () = .ok fresh ∧
      ∃ rejected accepted, ((fresh.after [twoPoints]).call singlePoint).1 = rejected ∧
        ((fresh.after [twoPoints, singlePoint]).call twoPointsAhead).1 = accepted ∧
        (∃ last, rejected.failure = some (.exhausted 10 last) ∧ last.IsSingle) ∧
        rejected.attempts = 10 ∧ rejected.keypoints = 1 ∧ rejected.isSuccess ≠ true ∧
        (∀ write, rejected.message write ≠ "") ∧
        accepted.failure = none ∧ accepted.allCorrected.length = 2 := by
  obtain ⟨fresh, hfresh⟩ : ∃ fresh : Engine Unit Float,
      ofOptions .slowOutdoor (believing 2) () = .ok fresh := ⟨_, rfl⟩
  obtain ⟨-, -, ⟨last, hfailure⟩, haccepted, -⟩ := calls_believing_slowOutdoor hfresh
  have hpoint : singlePoint.points ≠ [] := List.cons_ne_nil _ _
  have hrejected := summaries_consistent hfresh [twoPoints] singlePoint
  have hlast := summaries_consistent hfresh [twoPoints, singlePoint] twoPointsAhead
  obtain ⟨-, hattempts, -, hsingle⟩ := hrejected.of_exhausted _ _ hfailure
  obtain ⟨hleast, hmost⟩ := hrejected.keypoints hpoint
  have hkeypoints := Nat.le_antisymm (hmost.trans hrejected.thinned_le) hleast
  have hsome := hfailure ▸ Option.some_ne_none (RegistrationError.exhausted 10 last)
  exact ⟨fresh, hfresh, _, _, rfl, rfl, ⟨last, hfailure, hsingle⟩, hattempts.symm, hkeypoints,
    mt hrejected.isSuccess_iff.mp hsome, fun write => mt (hrejected.message_iff write).mp hsome,
    hlast.isSuccess_iff.mp haccepted, hlast.allCorrected.length_eq.symm⟩

end Engine

end LidarOdometry
