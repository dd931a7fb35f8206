import LidarOdometry.Proofs.Options.Profile
import LidarOdometry.Proofs.Registration.Acceptance
import LidarOdometry.Proofs.Registration.World

/-!
# Steady Motion

A sensor that is assumed to keep its velocity is guessed to move on as it did between the last two
finishes. What is kept is the *step*, the motion from the one pose to the other as the sensor sees
it, and not the shift or the turn as the map does: the step is applied on the right, once to the
start and once more to the finish. So the gap to the scan before and the reach of the scan itself
are those between the last two finishes, and a sensor that has moved by one step all along is
guessed where the next two steps lead.

The guess departs from itself by nothing. It passes the check of acceptance whenever the last two
finishes are as close together as the gap to the next scan may be.

## Main definitions

* `ScanMotion.ContinuesSteadily`: a motion goes on by the step between two poses.

## Main results

* `ScanMotion.ContinuesSteadily.gapFrom_eq`, `ScanMotion.ContinuesSteadily.span_eq` and the same
  for turns: how far it gets.
* `Initialization.continuesSteadily_predict`: guesses at constant velocity go on steadily.
* `Initialization.predict_of_powers`: where the next two steps lead.
* `Assessment.check_guess_eq_ok_iff`: what acceptance asks of a guess.
* `Initialization.constant_velocity_takes_equal_steps`: all of this about the guess.
-/

namespace LidarOdometry

/-! ### Steady motions -/

/-- **A motion continues steadily** from two poses if it takes the step between them twice more,
from the later one to its start and from there to its finish. -/
structure ScanMotion.ContinuesSteadily (m : ScanMotion ℝ) (before last : Pose ℝ) : Prop where
  toStart : last.inverse * m.start = before.inverse * last
  toFinish : m.start.inverse * m.finish = before.inverse * last

namespace ScanMotion.ContinuesSteadily

variable {m before last : ScanMotion ℝ}

/-- The gap is the distance between the two poses. -/
theorem gapFrom_eq (h : m.ContinuesSteadily before.finish last.finish)
    (hbefore : before.finish.IsRigid) (hlast : last.finish.IsRigid) :
    m.gapFrom last = last.finish.distance before.finish := by
  rw [gapFrom, hlast.distance_eq, h.toStart, hbefore.distance_eq]

/-- So is the span. -/
theorem span_eq (h : m.ContinuesSteadily before.finish last.finish)
    (hbefore : before.finish.IsRigid) (hstart : m.start.IsRigid) :
    m.span = last.finish.distance before.finish := by
  rw [span, hstart.distance_eq, h.toFinish, hbefore.distance_eq]

/-- The turn from the scan before is the turn between the two poses. -/
theorem turnFrom_eq (h : m.ContinuesSteadily before.finish last.finish) :
    m.turnFrom last = before.finish.turn last.finish := by
  rw [turnFrom, Pose.turn_eq, h.toStart, Pose.turn_eq]

/-- So is the sweep. -/
theorem sweep_eq (h : m.ContinuesSteadily before.finish last.finish) :
    m.sweep = before.finish.turn last.finish := by
  rw [sweep, Pose.turn_eq, h.toFinish, Pose.turn_eq]

end ScanMotion.ContinuesSteadily

/-! ### The guess -/

namespace Initialization

/-- **The guess at constant velocity**, from the last two finishes and nothing else. -/
theorem predict_append {α : Type} [Scalar α] (earlier : List (ScanMotion α))
    (before last : ScanMotion α) :
    constantVelocity.predict (earlier ++ [before, last]) =
      let step := before.finish.inverse * last.finish
      .between (last.finish * step) (last.finish * step * step) := by
  have hsplit : earlier ++ [before, last] = (earlier ++ [before]) ++ [last] := by
    rw [List.append_assoc, List.singleton_append]
  have hlast : (earlier ++ [before, last]).getLast? = some last := by
    rw [hsplit, List.getLast?_concat]
  have hbefore : (earlier ++ [before, last]).dropLast.getLast? = some before := by
    rw [hsplit, List.dropLast_concat, List.getLast?_concat]
  simp only [predict, hlast, hbefore]

variable {earlier : List (ScanMotion ℝ)} {before last : ScanMotion ℝ}

/-- It is rigid if the last two finishes are. -/
theorem isRigid_predict_append (earlier : List (ScanMotion ℝ))
    (hbefore : before.finish.IsRigid) (hlast : last.finish.IsRigid) :
    (constantVelocity.predict (earlier ++ [before, last])).IsRigid := by
  have hstep := hbefore.inverse.mul hlast
  rw [predict_append]
  exact ⟨hlast.mul hstep, (hlast.mul hstep).mul hstep⟩

/-- **The guess goes on steadily** from the last two finishes. -/
theorem continuesSteadily_predict (earlier : List (ScanMotion ℝ))
    (hbefore : before.finish.IsRigid) (hlast : last.finish.IsRigid) :
    (constantVelocity.predict (earlier ++ [before, last])).ContinuesSteadily before.finish
      last.finish := by
  have hrigid := isRigid_predict_append earlier hbefore hlast
  rw [predict_append] at hrigid ⊢
  exact ⟨hlast.inverse_mul_cancel_left _, hrigid.start.inverse_mul_cancel_left _⟩

/-- **A sensor that has moved by one step all along** is guessed where the next two lead. -/
theorem predict_of_powers {P S : Pose ℝ} {n : ℕ} (hn : 1 ≤ n) (hbefore : before.finish.IsRigid)
    (hpowers : (earlier ++ [before, last]).map ScanMotion.finish =
      (List.range (n + 1)).map fun i => P * S ^ i) :
    (constantVelocity.predict (earlier ++ [before, last])).start = P * S ^ (n + 1) ∧
      (constantVelocity.predict (earlier ++ [before, last])).finish = P * S ^ (n + 2) := by
  obtain ⟨k, rfl⟩ := Nat.exists_eq_add_of_le' hn
  have hpair : [before.finish, last.finish] = [P * S ^ k, P * S ^ (k + 1)] := by
    rw [List.range_succ, List.range_succ, List.append_assoc, List.map_append, List.map_append]
      at hpowers
    exact (List.append_inj' hpowers rfl).2
  simp only [List.cons.injEq, and_true] at hpair
  obtain ⟨hpose, hpose'⟩ := hpair
  have hnext (i : ℕ) : P * S ^ i * S = P * S ^ (i + 1) := by
    rw [pow_succ, Pose.mul_assoc]
  have hstep : before.finish.inverse * last.finish = S := by
    rw [hpose', ← hnext, ← hpose, hbefore.inverse_mul_cancel_left]
  rw [predict_append, hstep, hpose']
  refine ⟨hnext (k + 1), ?_⟩
  calc P * S ^ (k + 1) * S * S
      = P * S ^ (k + 2) * S := by rw [hnext]
    _ = P * S ^ (k + 3) := hnext (k + 2)

end Initialization

/-! ### The check of a guess -/

namespace Assessment

/-- In exact arithmetic the check passes if the measures are within their thresholds. -/
theorem check_eq_ok_iff_le {a : Assessment ℝ} {options : OdometryOptions ℝ} {periods : ℝ} :
    a.check options periods = .ok () ↔
      a.gap ≤ options.maxGap * periods ∧ a.correction ≤ options.maxCorrection := by
  rw [check_eq_ok_iff_forall, criteria]
  simp

/-- **A guess passes the check** if the gap is not too large: it does not depart from itself. -/
theorem check_guess_eq_ok_iff {options : OdometryOptions ℝ} (hvalid : options.Valid)
    (guess previous : ScanMotion ℝ) (periods : ℝ) :
    (ofMotion guess guess (some previous)).check options periods = .ok () ↔
      guess.gapFrom previous ≤ options.maxGap * periods := by
  have hcorrection : (ofMotion guess guess (some previous)).correction ≤
      options.maxCorrection := guess.departureFrom_self.trans_le hvalid.maxCorrection
  rw [check_eq_ok_iff_le, and_iff_left hcorrection]
  rfl

end Assessment

namespace Initialization

/-- **Constant velocity means equal steps.** Whatever times the guess is given, from the last
finish to its start and from its start to its finish the sensor moves as it did between the last
two finishes, so that distances and turns are those between them. If it has moved by one step all
along, the guess is where the next two steps lead. Nothing but the last two finishes matters to the
guess, and it passes the check of acceptance exactly if they are as close together as the gap may
be. -/
theorem constant_velocity_takes_equal_steps (earlier : List (ScanMotion ℝ))
    {before last : ScanMotion ℝ} (hbefore : before.finish.IsRigid) (hlast : last.finish.IsRigid)
    (startTime finishTime : ℝ) :
    let trajectory := earlier ++ [before, last]
    let guess := (constantVelocity.predict trajectory).withTimes startTime finishTime
    (last.finish.inverse * guess.start = before.finish.inverse * last.finish ∧
      guess.start.inverse * guess.finish = before.finish.inverse * last.finish) ∧
    (guess.gapFrom last = last.finish.distance before.finish ∧
      guess.span = last.finish.distance before.finish ∧
      guess.turnFrom last = before.finish.turn last.finish ∧
      guess.sweep = before.finish.turn last.finish) ∧
    (∀ (P S : Pose ℝ) (n : ℕ), 1 ≤ n →
      trajectory.map ScanMotion.finish = (List.range (n + 1)).map (fun i => P * S ^ i) →
      guess.start = P * S ^ (n + 1) ∧ guess.finish = P * S ^ (n + 2)) ∧
    (∀ (earlier' : List (ScanMotion ℝ)) (before' last' : ScanMotion ℝ),
      before'.finish = before.finish → last'.finish = last.finish →
      constantVelocity.predict (earlier' ++ [before', last']) =
        constantVelocity.predict trajectory) ∧
    ∀ (options : OdometryOptions ℝ) (periods : ℝ), options.Valid →
      ((Assessment.ofMotion guess guess (some last)).check options periods = .ok () ↔
        last.finish.distance before.finish ≤ options.maxGap * periods) := by
  intro trajectory guess
  have hsteady : guess.ContinuesSteadily before.finish last.finish :=
    ⟨(continuesSteadily_predict earlier hbefore hlast).toStart,
      (continuesSteadily_predict earlier hbefore hlast).toFinish⟩
  have hstart : guess.start.IsRigid := (isRigid_predict_append earlier hbefore hlast).start
  have hgap := hsteady.gapFrom_eq hbefore hlast
  refine ⟨⟨hsteady.toStart, hsteady.toFinish⟩,
    ⟨hgap, hsteady.span_eq hbefore hstart, hsteady.turnFrom_eq, hsteady.sweep_eq⟩,
    fun P S n hn hpowers => predict_of_powers hn hbefore hpowers,
    fun earlier' before' last' hbefore' hlast' => ?_, fun options periods hvalid => ?_⟩
  · rw [predict_append, predict_append, hbefore', hlast']
  · rw [Assessment.check_guess_eq_ok_iff hvalid, hgap]

/-- A sensor that turns to the left and shifts does so twice more, and its guess passes the check
three seconds later. -/
theorem constant_velocity_takes_equal_steps_quarter_turn :
    let last : ScanMotion ℝ := .still quarterTurn
    let guess := constantVelocity.predictTimed [.identity, last] [.sampled ⟨1, 0, 0⟩ 3 1]
    (guess.start = 1 * quarterTurn ^ 2 ∧ guess.finish = 1 * quarterTurn ^ 3) ∧
      (Assessment.ofMotion guess guess (some last)).check .driving
        (elapsedPeriods guess (some last) 0.1) = .ok () := by
  intro last guess
  have hbefore : (ScanMotion.identity : ScanMotion ℝ).finish.IsRigid := Pose.isRigid_identity
  have hlast : last.finish.IsRigid := isRigid_quarterTurn
  obtain ⟨-, -, hpowers, -, hcheck⟩ := constant_velocity_takes_equal_steps [] hbefore hlast 3 3
  have hvalid : (OdometryOptions.driving : OdometryOptions ℝ).Valid :=
    OdometryOptions.valid_ofProfile .driving
  have hperiods : elapsedPeriods guess (some last) 0.1 = 30 := by
    change (if 0 < ((3 : ℝ) - 0) / 0.1 then ((3 : ℝ) - 0) / 0.1 else 1) = 30
    norm_num
  refine ⟨hpowers 1 quarterTurn 1 le_rfl ?_, ?_⟩
  · change [1, quarterTurn] = [1 * quarterTurn ^ 0, 1 * quarterTurn ^ 1]
    rw [one_mul, one_mul, pow_zero, pow_one]
  · rw [hperiods]
    refine (hcheck .driving 30 hvalid).mpr (Real.sqrt_le_iff.mpr ⟨?_, ?_⟩)
    · norm_num [OdometryOptions.driving]
    · norm_num [OdometryOptions.driving, Vec3.normSq_eq, last, quarterTurn, ScanMotion.still,
        ScanMotion.between, ScanMotion.identity, Pose.identity]

end Initialization

end LidarOdometry
