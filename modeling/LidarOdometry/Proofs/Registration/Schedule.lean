import LidarOdometry.Proofs.Options.Profile
import LidarOdometry.Proofs.Registration.Attempts

/-!
# The Schedule of Attempts

The parameters of an attempt are derived from those of the one before it. In exact arithmetic each
of them has a closed form, in which nothing is left of the attempts in between: counts grow evenly
up to a bound, sizes and thresholds shrink by a constant factor down to another. A bound holds back
what has not passed it yet. What lies beyond its bound from the start is never moved to it.

The closed form shows that no attempt is less conservative than one before it. That is not only
said of the parameters: a guess that widens the neighbourhood in one attempt widens it in all later
ones, so that the neighbourhood which the solver is told does not shrink either.

## Main definitions

* `Attempt.raised`, `Attempt.tightened`: the closed forms of counts and thresholds.
* `Attempt.schedule`: the parameters of each attempt, in closed form.
* `Attempt.Relaxes`: parameters that are no less conservative than others.

## Main results

* `Attempt.next_schedule`: the next attempt is the next of the schedule.
* `Registrar.parameters_eq_schedule`: attempts at a scan follow the schedule.
* `Attempt.relaxes_schedule`: later attempts relax earlier ones.
* `Attempt.Relaxes.neighborhood_solverFor_mono`: so does what the solver is told.
* `Attempt.relaxation_follows_schedule`: the schedule of any number of attempts.
-/

namespace LidarOdometry

namespace Attempt

/-! ### Bounds -/

/-- **A count raised `k` times** by `step`, up to `most`. -/
def raised (start step most k : ℕ) : ℕ :=
  max start (min (start + step * k) most)

/-- **A threshold tightened `k` times** tenfold, down to `least`. -/
noncomputable def tightened (threshold least : ℝ) (k : ℕ) : ℝ :=
  if threshold ≤ least then threshold else max (threshold / 10.0 ^ k) least

section Bounds

variable {start step most j k : ℕ} {threshold least : ℝ}

/-- The value before the first raise. -/
theorem raised_zero (start step most : ℕ) : raised start step most 0 = start := by
  simp only [raised]
  omega

/-- Raised once more. -/
theorem raised_succ (start step most k : ℕ) :
    max (min (raised start step most k + step) most) (raised start step most k) =
      raised start step most (k + 1) := by
  simp only [raised, Nat.mul_succ]
  omega

/-- Raised values never fall. -/
theorem raised_mono (h : j ≤ k) : raised start step most j ≤ raised start step most k := by
  have hmul : step * j ≤ step * k := Nat.mul_le_mul_left step h
  simp only [raised]
  omega

/-- Raised values exceed the bound only as far as the start does. -/
theorem raised_le (start step most k : ℕ) : raised start step most k ≤ max start most := by
  simp only [raised]
  omega

/-- A bound applied in between makes no difference to a value that is divided and bounded again. -/
theorem max_div_max {x least c : ℝ} (hleast : 0 ≤ least) (hc : 1 ≤ c) :
    max (max x least / c) least = max (x / c) least := by
  have hshrinks : least / c ≤ least := div_le_self hleast hc
  rw [← max_div_div_right (zero_le_one.trans hc), max_assoc, max_eq_right hshrinks]

/-- The threshold before it is first tightened. -/
theorem tightened_zero (threshold least : ℝ) : tightened threshold least 0 = threshold := by
  rw [tightened]
  split
  · rfl
  · next habove => rw [pow_zero, div_one, max_eq_left (not_le.mp habove).le]

/-- Tightened once more. -/
theorem tighten_tightened (hleast : 0 ≤ least) (threshold : ℝ) (k : ℕ) :
    tighten (tightened threshold least k) least = tightened threshold least (k + 1) := by
  by_cases hbelow : threshold ≤ least
  · rw [tightened, if_pos hbelow, tightened, if_pos hbelow, tighten, if_neg (not_lt.mpr hbelow)]
  · have hnext : max (max (threshold / 10.0 ^ k) least / 10.0) least =
        max (threshold / 10.0 ^ (k + 1)) least := by
      rw [max_div_max hleast (by norm_num), pow_succ, div_div]
    rw [tightened, if_neg hbelow, tightened, if_neg hbelow, tighten]
    split
    · rw [Scalar.max_real]
      exact hnext
    · next hreached =>
        have hleast' : max (threshold / 10.0 ^ k) least = least :=
          le_antisymm (not_lt.mp hreached) (le_max_right _ _)
        rw [← hnext, hleast']
        exact (max_eq_right (div_le_self hleast (by norm_num))).symm

/-- Tightened values never rise. -/
theorem tightened_anti (hleast : 0 ≤ least) (h : j ≤ k) :
    tightened threshold least k ≤ tightened threshold least j := by
  rw [tightened, tightened]
  split
  · exact le_rfl
  · next habove =>
      have hpositive : 0 ≤ threshold := hleast.trans (not_le.mp habove).le
      exact max_le_max_right least (div_le_div_of_nonneg_left hpositive (by positivity)
        (pow_le_pow_right₀ (by norm_num) h))

end Bounds

/-! ### The schedule -/

/-- **The parameters of attempt `k`**, counted from zero, in closed form. -/
noncomputable def schedule (options : OdometryOptions ℝ) (solver : SolverOptions ℝ)
    (keypointSize : ℝ) (maxNeighborhood : ℕ) (thinningSize : ℝ) (k : ℕ) : Attempt ℝ where
  solver := { solver with
    neighborhood := raised solver.neighborhood 1 maxNeighborhood k
    iterations := raised solver.iterations 20 50 k
    rotationThreshold := tightened solver.rotationThreshold 1e-5 k
    shiftThreshold := tightened solver.shiftThreshold 1e-4 k
    maxPlaneDistance := solver.maxPlaneDistance * 1.5 ^ k }
  keypointSize := max (keypointSize / 1.5 ^ k) (min thinningSize keypointSize)
  wideningDistance := options.wideningDistance / 2.0 ^ k
  wideningRotation := options.wideningRotation / 2.0 ^ k

section Schedule

variable {options : OdometryOptions ℝ} {solver : SolverOptions ℝ} {keypointSize thinningSize : ℝ}
  {maxNeighborhood j k : ℕ}

/-- The schedule begins with the first attempt. -/
theorem schedule_zero : schedule options solver keypointSize maxNeighborhood thinningSize 0 =
    first options solver keypointSize := by
  simp [schedule, first, raised_zero, tightened_zero]

/-- What keypoint sizes are bounded by does not change as they shrink. -/
theorem min_eq_of_mem {size thinningSize keypointSize : ℝ}
    (hle : min thinningSize keypointSize ≤ size) (hge : size ≤ keypointSize) :
    min thinningSize size = min thinningSize keypointSize := by
  refine le_antisymm (min_le_min_left thinningSize hge) (le_min (min_le_left _ _) hle)

/-- **The next attempt** is the next of the schedule. -/
theorem next_schedule (hkeypoint : 0 < keypointSize) (hthinning : 0 < thinningSize) (k : ℕ) :
    (schedule options solver keypointSize maxNeighborhood thinningSize k).next maxNeighborhood
      thinningSize = schedule options solver keypointSize maxNeighborhood thinningSize (k + 1) := by
  have hrotation := tighten_tightened (by norm_num : (0 : ℝ) ≤ 1e-5) solver.rotationThreshold k
  have hshift := tighten_tightened (by norm_num : (0 : ℝ) ≤ 1e-4) solver.shiftThreshold k
  have hsize : Scalar.max (max (keypointSize / 1.5 ^ k) (min thinningSize keypointSize) / 1.5)
      (Scalar.min thinningSize (max (keypointSize / 1.5 ^ k) (min thinningSize keypointSize))) =
      max (keypointSize / 1.5 ^ (k + 1)) (min thinningSize keypointSize) := by
    have hshrunk : keypointSize / 1.5 ^ k ≤ keypointSize :=
      div_le_self hkeypoint.le (one_le_pow₀ (by norm_num))
    rw [Scalar.min_real, Scalar.max_real, min_eq_of_mem (le_max_right _ _)
      (max_le hshrunk (min_le_right _ _)), max_div_max (le_min hthinning.le hkeypoint.le)
      (by norm_num), div_div, ← pow_succ]
  simp only [next_eq, schedule, raised_succ, hrotation, hshift, hsize, mul_assoc, div_div,
    ← pow_succ]

/-- **Any number of attempts** follows the schedule. -/
theorem iterate_next_eq_schedule (hkeypoint : 0 < keypointSize) (hthinning : 0 < thinningSize)
    (k : ℕ) : (fun p : Attempt ℝ => p.next maxNeighborhood thinningSize)^[k]
      (first options solver keypointSize) =
        schedule options solver keypointSize maxNeighborhood thinningSize k := by
  induction k with
  | zero => exact schedule_zero.symm
  | succ k ih => rw [Function.iterate_succ_apply', ih, next_schedule hkeypoint hthinning]

end Schedule

/-! ### Relaxed parameters -/

/-- **Parameters relax others** if they are no less conservative: no fewer voxels and iterations,
thresholds no higher, no keypoint dropped for its distance that was not dropped before, keypoints
no sparser, and the neighbourhood widened for no fewer guesses. Nothing else is changed. -/
structure Relaxes (next p : Attempt ℝ) : Prop where
  neighborhood : p.solver.neighborhood ≤ next.solver.neighborhood
  iterations : p.solver.iterations ≤ next.solver.iterations
  rotationThreshold : next.solver.rotationThreshold ≤ p.solver.rotationThreshold
  shiftThreshold : next.solver.shiftThreshold ≤ p.solver.shiftThreshold
  planes : ∀ distance : ℝ, |distance| ≤ p.solver.maxPlaneDistance →
    |distance| ≤ next.solver.maxPlaneDistance
  keypointSize : next.keypointSize ≤ p.keypointSize
  wideningDistance : next.wideningDistance ≤ p.wideningDistance
  wideningRotation : next.wideningRotation ≤ p.wideningRotation
  others : { next.solver with
    neighborhood := p.solver.neighborhood
    iterations := p.solver.iterations
    rotationThreshold := p.solver.rotationThreshold
    shiftThreshold := p.solver.shiftThreshold
    maxPlaneDistance := p.solver.maxPlaneDistance } = p.solver

section Relaxed

variable {options : OdometryOptions ℝ} {solver : SolverOptions ℝ} {keypointSize thinningSize : ℝ}
  {maxNeighborhood j k : ℕ}

/-- **Later attempts relax earlier ones.** -/
theorem relaxes_schedule (hvalid : options.Valid) (hkeypoint : 0 ≤ keypointSize) (h : j ≤ k) :
    (schedule options solver keypointSize maxNeighborhood thinningSize k).Relaxes
      (schedule options solver keypointSize maxNeighborhood thinningSize j) where
  neighborhood := raised_mono h
  iterations := raised_mono h
  rotationThreshold := tightened_anti (by norm_num) h
  shiftThreshold := tightened_anti (by norm_num) h
  planes distance hnear := by
    -- a distance that is not negative leaves room for the factor to grow
    have hgrows : (1.5 : ℝ) ^ j ≤ 1.5 ^ k := pow_le_pow_right₀ (by norm_num) h
    have hpositive : 0 ≤ solver.maxPlaneDistance :=
      nonneg_of_mul_nonneg_left ((abs_nonneg distance).trans hnear) (by positivity)
    exact hnear.trans (mul_le_mul_of_nonneg_left hgrows hpositive)
  keypointSize := max_le_max_right _ (div_le_div_of_nonneg_left hkeypoint (by positivity)
    (pow_le_pow_right₀ (by norm_num) h))
  wideningDistance := div_le_div_of_nonneg_left hvalid.wideningDistance (by positivity)
    (pow_le_pow_right₀ (by norm_num) h)
  wideningRotation := div_le_div_of_nonneg_left hvalid.wideningRotation (by positivity)
    (pow_le_pow_right₀ (by norm_num) h)
  others := rfl

/-! ### What the solver is told -/

/-- **A guess widens the neighbourhood** if it is far from the previous motion, in distance or in
angle. -/
def Widens (p : Attempt ℝ) (guess previous : ScanMotion ℝ) : Prop :=
  p.wideningDistance < guess.finish.distance previous.finish ∨
    p.wideningRotation < previous.finish.turn guess.finish

variable {p next : Attempt ℝ} {guess previous : ScanMotion ℝ}

/-- Where the motion is large, the options are widened. -/
theorem solverFor_of_widens (h : p.Widens guess previous) :
    p.solverFor guess (some previous) = p.solver.widened :=
  if_pos h

/-- Where the motion is small, the options stay as they are. -/
theorem solverFor_of_not_widens (h : ¬ p.Widens guess previous) :
    p.solverFor guess (some previous) = p.solver :=
  if_neg h

/-- A guess that widens the neighbourhood still does with relaxed parameters. -/
theorem Relaxes.widens (h : next.Relaxes p) (hwidens : p.Widens guess previous) :
    next.Widens guess previous :=
  hwidens.imp h.wideningDistance.trans_lt h.wideningRotation.trans_lt

/-- The solver is told a neighbourhood no narrower than that of the attempt. -/
theorem le_neighborhood_solverFor (p : Attempt ℝ) (guess previous : ScanMotion ℝ) :
    p.solver.neighborhood ≤ (p.solverFor guess (some previous)).neighborhood := by
  by_cases hwidens : p.Widens guess previous
  · rw [solverFor_of_widens hwidens]
    exact le_max_left _ _
  · rw [solverFor_of_not_widens hwidens]

/-- It is no wider, unless it is two voxels wide. -/
theorem neighborhood_solverFor_le (p : Attempt ℝ) (guess : ScanMotion ℝ) :
    ∀ previous, (p.solverFor guess previous).neighborhood ≤ max p.solver.neighborhood 2
  | none => le_max_left _ _
  | some previous => by
      by_cases hwidens : p.Widens guess previous
      · rw [solverFor_of_widens hwidens]
        exact le_rfl
      · rw [solverFor_of_not_widens hwidens]
        exact le_max_left _ _

/-- **What the solver is told** is relaxed with the parameters. -/
theorem Relaxes.neighborhood_solverFor_mono (h : next.Relaxes p) (guess : ScanMotion ℝ) :
    ∀ previous, (p.solverFor guess previous).neighborhood ≤
      (next.solverFor guess previous).neighborhood
  | none => h.neighborhood
  | some previous => by
      by_cases hwidens : p.Widens guess previous
      · rw [solverFor_of_widens hwidens, solverFor_of_widens (h.widens hwidens)]
        exact max_le_max_right 2 h.neighborhood
      · rw [solverFor_of_not_widens hwidens]
        exact h.neighborhood.trans (next.le_neighborhood_solverFor guess previous)

end Relaxed

/-- **Attempts follow a schedule** that only relaxes. From any first attempt under valid options,
any number of further ones leads to the parameters that the closed form gives, with all other
options of the solver as they are. No attempt is less conservative than one before it; in
particular the distance allowed to a plane does not shrink unless it is negative. Whatever the
guess and the previous motion are, the neighbourhood that the solver is told does not shrink from
attempt to attempt, and is never wider than its bounds allow. -/
theorem relaxation_follows_schedule {options : OdometryOptions ℝ} (hvalid : options.Valid)
    (solver : SolverOptions ℝ) {keypointSize thinningSize : ℝ} (hkeypoint : 0 < keypointSize)
    (hthinning : 0 < thinningSize) (maxNeighborhood : ℕ) :
    let attempt := fun k : ℕ => (fun p : Attempt ℝ => p.next maxNeighborhood thinningSize)^[k]
      (first options solver keypointSize)
    (∀ k, attempt k = schedule options solver keypointSize maxNeighborhood thinningSize k) ∧
    (∀ j k, j ≤ k → (attempt k).Relaxes (attempt j) ∧ (0 ≤ solver.maxPlaneDistance →
      (attempt j).solver.maxPlaneDistance ≤ (attempt k).solver.maxPlaneDistance)) ∧
    ∀ guess previous,
      (∀ j k, j ≤ k → ((attempt j).solverFor guess previous).neighborhood ≤
        ((attempt k).solverFor guess previous).neighborhood) ∧
      ∀ k, ((attempt k).solverFor guess previous).neighborhood ≤
        max (max solver.neighborhood maxNeighborhood) 2 := by
  intro attempt
  have hschedule : ∀ k,
      attempt k = schedule options solver keypointSize maxNeighborhood thinningSize k :=
    iterate_next_eq_schedule hkeypoint hthinning
  have hrelaxes : ∀ j k, j ≤ k → (attempt k).Relaxes (attempt j) := fun j k h => by
    rw [hschedule, hschedule]
    exact relaxes_schedule hvalid hkeypoint.le h
  refine ⟨hschedule, fun j k h => ⟨hrelaxes j k h, fun hdistance => ?_⟩,
    fun guess previous => ⟨fun j k h => ?_, fun k => ?_⟩⟩
  · have hnonneg : 0 ≤ (attempt j).solver.maxPlaneDistance := by
      rw [hschedule]
      exact mul_nonneg hdistance (by positivity)
    have hplane := (hrelaxes j k h).planes (attempt j).solver.maxPlaneDistance
    rw [abs_of_nonneg hnonneg] at hplane
    exact hplane le_rfl
  · exact (hrelaxes j k h).neighborhood_solverFor_mono guess previous
  · refine ((attempt k).neighborhood_solverFor_le guess previous).trans (max_le_max_right 2 ?_)
    rw [hschedule]
    exact raised_le _ _ _ _

/-- The fourth attempt in the slow outdoor profile has reached all its bounds. -/
theorem relaxation_follows_schedule_slow_outdoor :
    let options : OdometryOptions ℝ := .slowOutdoor
    let fourth := (fun p : Attempt ℝ => p.next 4 0.8)^[3]
      (first options options.resolvedSolver 1.5)
    (fourth.solver.neighborhood = 4 ∧ fourth.solver.iterations = 50 ∧
      fourth.solver.rotationThreshold = 1e-5 ∧ fourth.solver.shiftThreshold = 1e-4 ∧
      fourth.keypointSize = 0.8) ∧
      ∀ guess previous, (fourth.solverFor guess previous).neighborhood ≤ 4 := by
  intro options fourth
  have hvalid : options.Valid := OdometryOptions.valid_ofProfile .slowOutdoor
  obtain ⟨hschedule, -, hsolver⟩ := relaxation_follows_schedule hvalid options.resolvedSolver
    (by norm_num : (0 : ℝ) < 1.5) (by norm_num : (0 : ℝ) < 0.8) 4
  have hfourth : fourth = schedule options options.resolvedSolver 1.5 4 0.8 3 := hschedule 3
  refine ⟨?_, fun guess previous => (hsolver guess previous).2 3⟩
  rw [hfourth]
  refine ⟨rfl, rfl, ?_, ?_, ?_⟩
  · norm_num [schedule, tightened, options, OdometryOptions.resolvedSolver,
      OdometryOptions.slowOutdoor, OdometryOptions.driving, SolverOptions.standard]
  · norm_num [schedule, tightened, options, OdometryOptions.resolvedSolver,
      OdometryOptions.slowOutdoor, OdometryOptions.driving, SolverOptions.standard]
  · norm_num [schedule]

end Attempt

/-! ### The attempts at a scan -/

namespace Registrar

variable {σ : Type}

/-- **The attempts at a scan** are the first one and what follows it. -/
theorem parameters_eq_iterate {α : Type} [Scalar α] (r : Registrar σ α) (scan : Scan α) (i : ℕ) :
    r.parameters scan i =
      (fun p : Attempt α => p.next r.options.maxNeighborhood scan.thinningSize)^[i]
        (.first r.options r.baseOptions scan.keypointSize) := by
  induction i with
  | zero => rfl
  | succ i ih => rw [parameters, ih, Function.iterate_succ_apply']

/-- **They follow the schedule.** -/
theorem parameters_eq_schedule (r : Registrar σ ℝ) {scan : Scan ℝ}
    (hkeypoint : 0 < scan.keypointSize) (hthinning : 0 < scan.thinningSize) (i : ℕ) :
    r.parameters scan i = Attempt.schedule r.options r.baseOptions scan.keypointSize
      r.options.maxNeighborhood scan.thinningSize i := by
  rw [parameters_eq_iterate, Attempt.iterate_next_eq_schedule hkeypoint hthinning]

end Registrar

end LidarOdometry
