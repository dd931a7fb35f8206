import LidarOdometry.Proofs.Numeric.NotANumber
import LidarOdometry.Proofs.Options.Validity
import LidarOdometry.Proofs.Registration.Attempts

/-!
# What Acceptance Asks

A registered scan is accepted unless some measure exceeds its threshold. For numbers that is the
same as being within bounds. A measure that is not a number exceeds nothing, however, so that a
scan whose poses are not numbers is held to fewer criteria: one whose start is not a number is
accepted if its finish is close enough to the guess, and one of which neither pose is a number is
always accepted.

## Main definitions

* `Passes`: what acceptance asks of a motion, in any arithmetic.
* `Unexceeded`: a value is within its threshold, or one of the two is not a number.
* `Assessment.InBounds`: the measures are within their thresholds.
* `Acceptable`: what passing means in floating point.

## Main results

* `Registrar.isSuccess_register_iff`: a scan is accepted exactly if the attempt that registration
  stops at is answered with a motion that passes.
* `Assessment.check_eq_ok_iff`: acceptance is that nothing is exceeded.
* `Assessment.inBounds_iff`: accepted measures are within bounds exactly if they are numbers.
* `passes_iff_acceptable`: a motion passes exactly if it is acceptable.
-/

namespace LidarOdometry

/-! ### Motions that pass -/

section Passes

variable {σ α : Type} [Scalar α]

/-- **What acceptance asks of a motion**: no threshold is exceeded, neither by where it starts,
seen from where the previous motion finished, nor by how far it departs from its guess. -/
structure Passes (options : OdometryOptions α) (guess previous motion : ScanMotion α) : Prop where
  gap : ¬ options.maxGap * elapsedPeriods motion (some previous) options.scanPeriod <
    motion.gapFrom previous
  departure : ¬ options.maxCorrection < motion.departureFrom guess

/-- The check passes if no criterion is missed. -/
theorem Assessment.check_eq_ok_iff_forall {a : Assessment α} {options : OdometryOptions α}
    {periods : α} : a.check options periods = .ok () ↔
      ∀ c ∈ a.criteria options periods, ¬ c.threshold < c.value := by
  have hempty : ((a.criteria options periods).filter
      fun c => decide (c.threshold < c.value)).isEmpty = true ↔
      ∀ c ∈ a.criteria options periods, ¬ c.threshold < c.value := by
    rw [List.isEmpty_iff, List.filter_eq_nil_iff]
    simp
  rw [← hempty, check]
  dsimp only
  split
  · next h => simp [h]
  · next h => simp [h]

/-- **The check passes a motion** exactly if nothing of it exceeds a bound. -/
theorem check_ofMotion_eq_ok_iff {options : OdometryOptions α}
    {guess previous motion : ScanMotion α} :
    (Assessment.ofMotion motion guess (some previous)).check options
      (elapsedPeriods motion (some previous) options.scanPeriod) = .ok () ↔
      Passes options guess previous motion := by
  rw [Assessment.check_eq_ok_iff_forall, Assessment.criteria]
  simp only [List.forall_mem_cons, List.not_mem_nil, false_implies, implies_true, and_true]
  exact ⟨fun h => ⟨h.1, h.2⟩, fun h => ⟨h.gap, h.departure⟩⟩

namespace Registrar

variable {r : Registrar σ α} {guess previous : ScanMotion α} {scan : Scan α}

/-- **An answer is accepted** exactly if its motion passes. -/
theorem isAccepted_assess_iff {answer : Except SolverError (Registered α)} :
    (r.assess guess previous answer).isAccepted = true ↔ ∃ registered, answer = .ok registered ∧
      Passes r.options guess previous registered.motion := by
  cases answer with
  | error cause => simp [assess, Outcome.isAccepted]
  | ok registered =>
      have haccepted : (r.assess guess previous (.ok registered)).isAccepted = true ↔
          Passes r.options guess previous registered.motion := by
        rw [← check_ofMotion_eq_ok_iff, assess]
        split
        · next heq => simp [heq, Outcome.isAccepted]
        · next heq => simp [heq, Outcome.isAccepted]
      rw [haccepted]
      constructor
      · intro h
        exact ⟨registered, rfl, h⟩
      · rintro ⟨found, hfound, h⟩
        cases hfound
        exact h

/-- **A scan is accepted** exactly if the attempt that registration stops at is answered with a
motion that passes. -/
theorem isSuccess_register_iff (hpoints : scan.points ≠ [])
    (hprevious : scan.previous = some previous) (hattempts : 0 < r.options.maxAttempts)
    (session : Session σ) : (r.register scan session).1.isSuccess = true ↔
      ∃ i registered, r.StopsAt scan previous session.memory i ∧
        r.answer scan previous session.memory i = .ok registered ∧
        Passes r.options scan.guess previous registered.motion := by
  obtain ⟨i, hstops, hreports, -⟩ := register_reports hpoints hprevious hattempts session
  rw [hreports.isSuccess_eq, result, isAccepted_assess_iff]
  constructor
  · rintro ⟨registered, hanswer, hpasses⟩
    exact ⟨i, registered, hstops, hanswer, hpasses⟩
  · rintro ⟨j, registered, hstops', hanswer, hpasses⟩
    obtain rfl := stopsAt_unique hstops hstops'
    exact ⟨registered, hanswer, hpasses⟩

/-- The motion of the summary is what the solver answers in the attempt that registration stops
at. -/
theorem motion_register (hpoints : scan.points ≠ [])
    (hprevious : scan.previous = some previous) (hattempts : 0 < r.options.maxAttempts)
    (session : Session σ) {i : Nat} {registered : Registered α}
    (hstops : r.StopsAt scan previous session.memory i)
    (hanswer : r.answer scan previous session.memory i = .ok registered) :
    (r.register scan session).1.motion = registered.motion := by
  obtain ⟨j, hstops', hreports, -⟩ := register_reports hpoints hprevious hattempts session
  obtain rfl := stopsAt_unique hstops hstops'
  exact hreports.motion_of_answer hanswer

/-- Registration stops at the first attempt if its answer is accepted. -/
theorem stopsAt_zero (hattempts : 0 < r.options.maxAttempts) {memory : σ}
    {registered : Registered α} (hanswer : r.answer scan previous memory 0 = .ok registered)
    (hpasses : Passes r.options scan.guess previous registered.motion) :
    r.StopsAt scan previous memory 0 := by
  have haccepted : (r.result scan previous memory 0).isAccepted = true :=
    isAccepted_assess_iff.mpr ⟨registered, hanswer, hpasses⟩
  refine ⟨maxAttempts_pos hattempts, fun j hlt => absurd hlt (Nat.not_lt_zero j), .inl ?_⟩
  rw [decides, haccepted, Bool.true_or]

end Registrar

end Passes

/-! ### The check in floating point -/

/-- Some value is **not above** a threshold, as far as both are numbers. -/
def Unexceeded (value threshold : Float) : Prop :=
  value ≤ threshold ∨ value.isNaN = true ∨ threshold.isNaN = true

/-- A bound is kept by whatever is not above it. -/
theorem unexceeded_iff {value threshold : Float} :
    Unexceeded value threshold ↔ ¬ threshold < value :=
  NotANumber.not_lt_iff.symm

/-- A number is within a threshold that is one. -/
theorem Unexceeded.le {value threshold : Float} (h : Unexceeded value threshold)
    (hvalue : value.isNaN = false) (hthreshold : threshold.isNaN = false) : value ≤ threshold := by
  rcases h with hle | hnan | hnan
  · exact hle
  · rw [hvalue] at hnan
    cases hnan
  · rw [hthreshold] at hnan
    cases hnan

/-- What is not a number exceeds no bound. -/
theorem Unexceeded.of_isNaN {value threshold : Float} (h : value.isNaN = true) :
    Unexceeded value threshold :=
  .inr (.inl h)

namespace Assessment

/-- The measures are **within bounds**, for a scan `periods` scan periods after the previous
one. -/
def InBounds (a : Assessment Float) (options : OdometryOptions Float) (periods : Float) : Prop :=
  a.gap ≤ options.maxGap * periods ∧ a.correction ≤ options.maxCorrection

variable {a : Assessment Float} {options : OdometryOptions Float} {periods : Float}

/-- **Acceptance is that nothing is exceeded.** -/
theorem check_eq_ok_iff : a.check options periods = .ok () ↔
    Unexceeded a.gap (options.maxGap * periods) ∧
      Unexceeded a.correction options.maxCorrection := by
  rw [check_eq_ok_iff_forall, unexceeded_iff, unexceeded_iff, criteria]
  simp

/-- **Accepted measures are within bounds** exactly if they and their thresholds are numbers. -/
theorem inBounds_iff (hvalid : options.Valid) : a.InBounds options periods ↔
    a.check options periods = .ok () ∧ a.gap.isNaN = false ∧
      (options.maxGap * periods).isNaN = false ∧ a.correction.isNaN = false := by
  obtain ⟨-, hnumber, -⟩ := NotANumber.le_iff.mp hvalid.maxCorrection
  rw [check_eq_ok_iff]
  constructor
  · rintro ⟨hgap, hcorrection⟩
    obtain ⟨hgap', hbound, -⟩ := NotANumber.le_iff.mp hgap
    obtain ⟨hcorrection', -, -⟩ := NotANumber.le_iff.mp hcorrection
    exact ⟨⟨.inl hgap, .inl hcorrection⟩, hgap', hbound, hcorrection'⟩
  · rintro ⟨⟨hgap, hcorrection⟩, hgap', hbound, hcorrection'⟩
    exact ⟨hgap.le hgap' hbound, hcorrection.le hcorrection' hnumber⟩

end Assessment

/-! ### Motions in floating point -/

/-- **What acceptance asks of a motion** in floating point: it starts close enough to where the
previous one finished, and lies close enough to its guess. -/
structure Acceptable (options : OdometryOptions Float)
    (guess previous motion : ScanMotion Float) : Prop where
  gap : Unexceeded (motion.start.distance previous.finish)
    (options.maxGap * elapsedPeriods motion (some previous) options.scanPeriod)
  start : Unexceeded (motion.start.distance guess.start) options.maxCorrection
  finish : Unexceeded (motion.finish.distance guess.finish) options.maxCorrection

section Motions

variable {options : OdometryOptions Float} {guess previous motion : ScanMotion Float}

/-- A motion is asked for its finish alone if its start is not a number. -/
theorem acceptable_iff_of_start (h : motion.start.position.HasNaN) :
    Acceptable options guess previous motion ↔
      Unexceeded (motion.finish.distance guess.finish) options.maxCorrection := by
  refine ⟨Acceptable.finish, fun hfinish => ⟨?_, ?_, hfinish⟩⟩
  · exact .of_isNaN (NotANumber.isNaN_distance (.inl h))
  · exact .of_isNaN (NotANumber.isNaN_distance (.inl h))

/-- A motion is asked for its start alone if its finish is not a number. -/
theorem acceptable_iff_of_finish (h : motion.finish.position.HasNaN) :
    Acceptable options guess previous motion ↔
      Unexceeded (motion.start.distance previous.finish)
        (options.maxGap * elapsedPeriods motion (some previous) options.scanPeriod) ∧
      Unexceeded (motion.start.distance guess.start) options.maxCorrection := by
  refine ⟨fun h => ⟨h.gap, h.start⟩, fun hstart => ⟨hstart.1, hstart.2, ?_⟩⟩
  exact .of_isNaN (NotANumber.isNaN_distance (.inl h))

/-- The correction is exceeded if it is at the start or at the finish. -/
theorem unexceeded_departureFrom_iff {threshold : Float} :
    Unexceeded (motion.departureFrom guess) threshold ↔
      Unexceeded (motion.start.distance guess.start) threshold ∧
        Unexceeded (motion.finish.distance guess.finish) threshold := by
  simp only [unexceeded_iff, ScanMotion.departureFrom, NotANumber.lt_max_iff, not_or]

/-- **A motion passes** exactly if it is acceptable. -/
theorem passes_iff_acceptable :
    Passes options guess previous motion ↔ Acceptable options guess previous motion := by
  have hdeparture : Unexceeded (motion.departureFrom guess) options.maxCorrection ↔ _ :=
    unexceeded_departureFrom_iff
  constructor
  · intro h
    obtain ⟨hstart, hfinish⟩ := hdeparture.mp (unexceeded_iff.mpr h.departure)
    exact ⟨unexceeded_iff.mpr h.gap, hstart, hfinish⟩
  · intro h
    exact ⟨unexceeded_iff.mp h.gap, unexceeded_iff.mp (hdeparture.mpr ⟨h.start, h.finish⟩)⟩

end Motions

end LidarOdometry
