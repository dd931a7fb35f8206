import LidarOdometry.Proofs.Registration.Attempts
import LidarOdometry.Proofs.Scan.Motion

/-!
# Registration in a Moved World

Where the origin of the map lies is a choice. If the whole world is moved rigidly, every pose with
it, then the next motion is guessed to be the moved one, and nothing that a registration decides by
changes: not the measures of a registered scan, which relate poses to one another, nor the time
between scans, nor the neighbourhood that the solver is told. So a scan is accepted, rejected or
rejected clearly whatever the origin is and however far from it the sensor has travelled.

That holds in exact arithmetic, and only because poses are related to one another in the right
order: the motion from one pose to another starts with the opposite of the first.

## Main definitions

* `ScanMotion.moved`, `Registered.moved`, `Outcome.moved`: what becomes of them in a moved world.
* `Registrar.IsCarried`: a registration is carried to one in a moved world.

## Main results

* `Initialization.predict_moved`: guesses are moved along.
* `Assessment.ofMotion_moved`, `Attempt.solverFor_moved`: measures and options stay the same.
* `Registrar.assess_moved`: so does what an answer is found to be.
* `Registrar.IsCarried.register_eq`: a whole registration decides alike.
* `moved_world_goes_unnoticed`: nothing depends on where the origin is.
-/

namespace LidarOdometry

/-! ### Motions in a moved world -/

namespace ScanMotion

/-- **A motion in a moved world.** Its times stay. -/
def moved {α : Type} [Scalar α] (g : Pose α) (m : ScanMotion α) : ScanMotion α :=
  { m with start := g * m.start, finish := g * m.finish }

variable {g : Pose ℝ} (hg : g.IsRigid) (m m' : ScanMotion ℝ)

include hg

/-- The distance between both ends is kept. -/
theorem span_moved : (m.moved g).span = m.span :=
  Pose.distance_mul hg _ _

/-- The turn between both ends is kept. -/
theorem sweep_moved : (m.moved g).sweep = m.sweep :=
  Pose.turn_mul hg _ _

/-- The distance to another motion is kept. -/
theorem gapFrom_moved : (m.moved g).gapFrom (m'.moved g) = m.gapFrom m' :=
  Pose.distance_mul hg _ _

/-- The turn from another motion is kept. -/
theorem turnFrom_moved : (m.moved g).turnFrom (m'.moved g) = m.turnFrom m' :=
  Pose.turn_mul hg _ _

/-- The departure from another motion is kept. -/
theorem departureFrom_moved : (m.moved g).departureFrom (m'.moved g) = m.departureFrom m' := by
  have hstart : (m.moved g).start.distance (m'.moved g).start = m.start.distance m'.start :=
    Pose.distance_mul hg _ _
  have hfinish : (m.moved g).finish.distance (m'.moved g).finish = m.finish.distance m'.finish :=
    Pose.distance_mul hg _ _
  rw [departureFrom, hstart, hfinish, departureFrom]

end ScanMotion

variable {g : Pose ℝ}

/-! ### Guesses -/

namespace Initialization

variable {trajectory : List (ScanMotion ℝ)}

/-- **Guesses are moved along.** At constant velocity the step between the last two finishes stays
the same, and is made from where the last one has been moved. -/
theorem predict_moved (hg : g.IsRigid) (mode : Initialization) (h : trajectory ≠ []) :
    mode.predict (trajectory.map (.moved g)) = (mode.predict trajectory).moved g := by
  obtain ⟨last, hlast⟩ := Option.ne_none_iff_exists'.mp (mt List.getLast?_eq_none_iff.mp h)
  have hlast' : (trajectory.map (ScanMotion.moved g)).getLast? = some (last.moved g) := by
    rw [List.getLast?_map, hlast, Option.map_some]
  have hbefore : (trajectory.map (ScanMotion.moved g)).dropLast.getLast? =
      trajectory.dropLast.getLast?.map (.moved g) := by
    rw [← List.map_dropLast, List.getLast?_map]
  unfold predict
  rw [hlast, hlast', hbefore]
  cases mode with
  | rest => rfl
  | constantVelocity =>
      cases trajectory.dropLast.getLast? with
      | none => rfl
      | some before =>
          -- the motion from pose to pose is the same in the moved world
          have hstep : (before.moved g).finish.inverse * (last.moved g).finish =
              before.finish.inverse * last.finish := Pose.inverse_mul_mul hg _ _
          have hmoved : (last.moved g).finish = g * last.finish := rfl
          simp only [Option.map_some, hstep]
          simp only [hmoved, Pose.mul_assoc]
          rfl

/-- Guessed times do not depend on where the trajectory lies. -/
theorem predictTimed_moved (hg : g.IsRigid) (mode : Initialization) (h : trajectory ≠ [])
    (points : List (ScanPoint ℝ)) :
    mode.predictTimed (trajectory.map (.moved g)) points =
      (mode.predictTimed trajectory points).moved g := by
  rw [predictTimed, predictTimed, predict_moved hg mode h, List.getLast?_map]
  cases trajectory.getLast? <;> rfl

end Initialization

/-! ### Measures and options -/

/-- **The measures of a motion** are the same in a moved world. -/
theorem Assessment.ofMotion_moved (hg : g.IsRigid) (motion guess : ScanMotion ℝ)
    (previous : Option (ScanMotion ℝ)) :
    ofMotion (motion.moved g) (guess.moved g) (previous.map (.moved g)) =
      ofMotion motion guess previous := by
  cases previous with
  | none =>
      simp only [ofMotion, Option.map_none, Option.elim_none, motion.departureFrom_moved hg,
        motion.span_moved hg, motion.sweep_moved hg]
  | some previous =>
      simp only [ofMotion, Option.map_some, Option.elim_some, motion.gapFrom_moved hg,
        motion.turnFrom_moved hg, motion.departureFrom_moved hg, motion.span_moved hg,
        motion.sweep_moved hg]

/-- Times do not move. -/
theorem elapsedPeriods_moved (g : Pose ℝ) (motion : ScanMotion ℝ)
    (previous : Option (ScanMotion ℝ)) (period : ℝ) :
    elapsedPeriods (motion.moved g) (previous.map (.moved g)) period =
      elapsedPeriods motion previous period := by
  cases previous <;> rfl

/-- **What the solver is told** is the same in a moved world. -/
theorem Attempt.solverFor_moved (hg : g.IsRigid) (attempt : Attempt ℝ) (guess : ScanMotion ℝ)
    (previous : Option (ScanMotion ℝ)) :
    attempt.solverFor (guess.moved g) (previous.map (.moved g)) =
      attempt.solverFor guess previous := by
  cases previous with
  | none => rfl
  | some previous =>
      have hshift : (guess.moved g).finish.distance (previous.moved g).finish =
          guess.finish.distance previous.finish := Pose.distance_mul hg _ _
      have hrotation : (previous.moved g).finish.turn (guess.moved g).finish =
          previous.finish.turn guess.finish := Pose.turn_mul hg _ _
      rw [Option.map_some, solverFor, solverFor]
      simp only [hshift, hrotation]

/-! ### Decisions -/

section Answers

variable {α : Type} [Scalar α]

/-- An answer in a moved world. -/
def Registered.moved (g : Pose α) (registered : Registered α) : Registered α where
  motion := registered.motion.moved g
  keypoints := registered.keypoints.map fun p => { p with world := g.apply p.world }
  residuals := registered.residuals

namespace Outcome

/-- An outcome in a moved world: what was found is moved, what was decided is not. -/
def moved (g : Pose α) : Outcome α → Outcome α
  | accepted registered assessment => accepted (registered.moved g) assessment
  | rejected registered assessment reason => rejected (registered.moved g) assessment reason
  | unsolved cause => unsolved cause

variable (g : Pose α) (outcome : Outcome α)

/-- What is accepted stays accepted. -/
theorem isAccepted_moved : (outcome.moved g).isAccepted = outcome.isAccepted := by
  cases outcome <;> rfl

/-- What is unambiguous stays so. -/
theorem isClear_moved : (outcome.moved g).isClear = outcome.isClear := by
  cases outcome <;> rfl

/-- The cause of a failure is kept. -/
theorem cause?_moved : (outcome.moved g).cause? = outcome.cause? := by
  cases outcome <;> rfl

/-- A candidate is moved along, and assessed as before. -/
theorem candidate?_moved : (outcome.moved g).candidate? =
    outcome.candidate?.map fun (registered, assessment) => (registered.moved g, assessment) := by
  cases outcome <;> rfl

end Outcome

end Answers

namespace Registrar

variable {σ σ' : Type} {g : Pose ℝ}

/-- **What an answer is found to be** is the same in a moved world. -/
theorem assess_moved (hg : g.IsRigid) (r : Registrar σ ℝ) (guess previous : ScanMotion ℝ)
    (answer : Except SolverError (Registered ℝ)) :
    r.assess (guess.moved g) (previous.moved g) (answer.map (.moved g)) =
      (r.assess guess previous answer).moved g := by
  cases answer with
  | error cause => rfl
  | ok registered =>
      have hassessment := Assessment.ofMotion_moved hg registered.motion guess (some previous)
      have hperiods :=
        elapsedPeriods_moved g registered.motion (some previous) r.options.scanPeriod
      rw [Option.map_some] at hassessment hperiods
      have hmotion : (registered.moved g).motion = registered.motion.moved g := rfl
      rw [Except.map, assess, assess]
      simp only [hmotion, hassessment, hperiods]
      split <;> rfl

section Run

variable {r : Registrar σ ℝ} {r' : Registrar σ' ℝ} {scan scan' : Scan ℝ} {previous : ScanMotion ℝ}
  {memory : σ} {memory' : σ'}

variable (r r' scan scan' previous memory memory' g) in
/-- **A registration is carried** to one in a moved world: the guess is moved, and the answers are,
whatever solver and map they come from. -/
structure IsCarried : Prop where
  options_eq : r'.options = r.options
  guess_eq : scan'.guess = scan.guess.moved g
  answer_eq : ∀ i, r'.answer scan' (previous.moved g) memory' i =
    (r.answer scan previous memory i).map (.moved g)

namespace IsCarried

variable (h : IsCarried g r r' scan scan' previous memory memory') (hg : g.IsRigid)

include h hg

/-- **The result of every attempt is moved along.** -/
theorem result_eq (i : Nat) : r'.result scan' (previous.moved g) memory' i =
    (r.result scan previous memory i).moved g := by
  have hassess := assess_moved hg r scan.guess previous (r.answer scan previous memory i)
  rw [← h.answer_eq i, ← h.guess_eq] at hassess
  rw [result, result, ← hassess]
  simp only [assess, h.options_eq]

/-- Every attempt decides as before. -/
theorem decides_eq (i : Nat) : r'.decides scan' (previous.moved g) memory' i =
    r.decides scan previous memory i := by
  rw [decides, decides, h.result_eq hg, Outcome.isAccepted_moved, Outcome.isClear_moved,
    h.options_eq]

/-- **Registration stops at the same attempt.** -/
theorem stopsAt_iff {i : Nat} : r'.StopsAt scan' (previous.moved g) memory' i ↔
    r.StopsAt scan previous memory i := by
  have hmax : r'.maxAttempts = r.maxAttempts := by
    rw [maxAttempts, maxAttempts, h.options_eq]
  have hdecides := h.decides_eq hg
  constructor
  · rintro ⟨hlt, hundecided, hstops⟩
    simp only [hdecides, hmax] at hlt hundecided hstops
    exact ⟨hlt, hundecided, hstops⟩
  · rintro ⟨hlt, hundecided, hstops⟩
    simp only [← hdecides, ← hmax] at hlt hundecided hstops
    exact ⟨hlt, hundecided, hstops⟩

/-- Every attempt fails as before. -/
theorem failureAt_eq (i : Nat) : r'.failureAt scan' (previous.moved g) memory' i =
    r.failureAt scan previous memory i := by
  rw [failureAt, failureAt, h.result_eq hg, Outcome.isClear_moved, Outcome.cause?_moved,
    h.options_eq, maxAttempts, maxAttempts, h.options_eq]

/-- What the solver found is moved, with the same measures. -/
theorem candidates_eq (i : Nat) : r'.candidates scan' (previous.moved g) memory' i =
    (r.candidates scan previous memory i).map
      fun (registered, assessment) => (registered.moved g, assessment) := by
  simp only [candidates, h.result_eq hg, Outcome.candidate?_moved, List.map_filterMap]

/-- **A registration in a moved world** makes as many attempts and decides alike: the scan is
accepted or not, for the same reasons and with the same measures, and the motion is moved. -/
theorem register_eq {session : Session σ} {session' : Session σ'}
    (hmemory : session.memory = memory) (hmemory' : session'.memory = memory')
    (hpoints : scan.points ≠ []) (hpoints' : scan'.points ≠ [])
    (hprevious : scan.previous = some previous)
    (hprevious' : scan'.previous = some (previous.moved g))
    (hattempts : 0 < r.options.maxAttempts) :
    let summary := (r.register scan session).1
    let summary' := (r'.register scan' session').1
    summary'.attempts = summary.attempts ∧ summary'.isSuccess = summary.isSuccess ∧
      summary'.failure = summary.failure ∧ summary'.assessment = summary.assessment ∧
      summary'.motion = summary.motion.moved g := by
  subst hmemory hmemory'
  obtain ⟨i, hstops, hreports, -⟩ := register_reports hpoints hprevious hattempts session
  obtain ⟨j, hstops', hreports', -⟩ := register_reports (r := r') hpoints' hprevious'
    (h.options_eq ▸ hattempts) session'
  obtain rfl := stopsAt_unique hstops ((h.stopsAt_iff hg).mp hstops')
  dsimp only
  refine ⟨?_, ?_, ?_, ?_, ?_⟩
  · rw [hreports'.attempts_eq, hreports.attempts_eq]
  · rw [hreports'.isSuccess_eq, hreports.isSuccess_eq, h.result_eq hg, Outcome.isAccepted_moved]
  · rw [hreports'.failure_eq, hreports.failure_eq, h.failureAt_eq hg]
  · rw [hreports'.assessment_eq, hreports.assessment_eq, h.candidates_eq hg, List.getLast?_map]
    cases (r.candidates scan previous session.memory (i + 1)).getLast? <;> rfl
  · rw [hreports'.motion_eq, hreports.motion_eq, h.candidates_eq hg, List.getLast?_map,
      h.guess_eq]
    cases (r.candidates scan previous session.memory (i + 1)).getLast? <;> rfl

end IsCarried

end Run

end Registrar

/-! ### The choice of the origin -/

/-- **The world may be moved.** Under every rigid motion of the world, guesses are moved along, so
that seen from the vehicle they stay the same; and the measures of a registered scan, the time
since the previous one, the verdict about it with its reasons, what is made of an answer, and the
options that the solver is told are all the same. -/
theorem moved_world_goes_unnoticed {g : Pose ℝ} (hg : g.IsRigid) :
    (∀ (mode : Initialization) (trajectory : List (ScanMotion ℝ)), trajectory ≠ [] →
      mode.predict (trajectory.map (.moved g)) = (mode.predict trajectory).moved g ∧
        ∀ points, mode.predictTimed (trajectory.map (.moved g)) points =
          (mode.predictTimed trajectory points).moved g) ∧
    (∀ (mode : Initialization) (trajectory : List (ScanMotion ℝ)) (last : ScanMotion ℝ),
      trajectory.getLast? = some last →
      let guess := mode.predict trajectory
      let guess' := mode.predict (trajectory.map (.moved g))
      (last.moved g).finish.inverse * guess'.start = last.finish.inverse * guess.start ∧
        (last.moved g).finish.inverse * guess'.finish = last.finish.inverse * guess.finish) ∧
    (∀ (motion guess : ScanMotion ℝ) (previous : Option (ScanMotion ℝ))
        (options : OdometryOptions ℝ),
      let assessment := Assessment.ofMotion motion guess previous
      let assessment' :=
        Assessment.ofMotion (motion.moved g) (guess.moved g) (previous.map (.moved g))
      let periods := elapsedPeriods motion previous options.scanPeriod
      let periods' := elapsedPeriods (motion.moved g) (previous.map (.moved g)) options.scanPeriod
      assessment' = assessment ∧ periods' = periods ∧
        assessment'.check options periods' = assessment.check options periods) ∧
    (∀ (attempt : Attempt ℝ) (guess : ScanMotion ℝ) (previous : Option (ScanMotion ℝ)),
      attempt.solverFor (guess.moved g) (previous.map (.moved g)) =
        attempt.solverFor guess previous) ∧
    ∀ (σ : Type) (r : Registrar σ ℝ) (guess previous : ScanMotion ℝ)
      (answer : Except SolverError (Registered ℝ)),
      let outcome := r.assess guess previous answer
      let outcome' := r.assess (guess.moved g) (previous.moved g) (answer.map (.moved g))
      outcome'.isAccepted = outcome.isAccepted ∧ outcome'.isClear = outcome.isClear ∧
        outcome'.cause? = outcome.cause? := by
  refine ⟨fun mode trajectory h => ⟨mode.predict_moved hg h, mode.predictTimed_moved hg h⟩,
    fun mode trajectory last hlast => ?_, fun motion guess previous options => ?_,
    fun attempt => attempt.solverFor_moved hg, fun σ r guess previous answer => ?_⟩
  · have hne : trajectory ≠ [] := by
      rintro rfl
      cases hlast
    simp only [mode.predict_moved hg hne]
    exact ⟨Pose.inverse_mul_mul hg _ _, Pose.inverse_mul_mul hg _ _⟩
  · dsimp only
    rw [Assessment.ofMotion_moved hg, elapsedPeriods_moved]
    exact ⟨rfl, rfl, rfl⟩
  · dsimp only
    rw [r.assess_moved hg]
    exact ⟨Outcome.isAccepted_moved _ _, Outcome.isClear_moved _ _, Outcome.cause?_moved _ _⟩

/-- A quarter turn about the vertical, and a shift. -/
def quarterTurn : Pose ℝ :=
  ⟨⟨⟨0, -1, 0⟩, ⟨1, 0, 0⟩, ⟨0, 0, 1⟩⟩, ⟨10, 20, 0⟩⟩

/-- A quarter turn with a shift is rigid. -/
theorem isRigid_quarterTurn : quarterTurn.IsRigid where
  mul_transpose := by
    simp [quarterTurn, Mat3.identity, Mat3.mul_def, Mat3.mulVec, Mat3.transpose, Vec3.dot]
  det_eq_one := by
    simp [quarterTurn, Mat3.det, Vec3.dot, Vec3.cross]

/-- A sensor that moves along one axis is guessed to move along the other. -/
theorem moved_world_goes_unnoticed_quarter_turn :
    let trajectory : List (ScanMotion ℝ) := [.identity, .still ⟨.identity, ⟨1, 0, 0⟩⟩]
    quarterTurn.IsRigid ∧
      (Initialization.constantVelocity.predict trajectory).finish.position = ⟨3, 0, 0⟩ ∧
      (Initialization.constantVelocity.predict
        (trajectory.map (.moved quarterTurn))).finish.position = ⟨10, 23, 0⟩ := by
  intro trajectory
  have hguess : (Initialization.constantVelocity.predict trajectory).finish.position =
      ⟨3, 0, 0⟩ := by
    simp [trajectory, Initialization.predict, ScanMotion.between, ScanMotion.still,
      ScanMotion.identity, Pose.identity, Pose.mul_position, Pose.inverse, Pose.apply,
      Pose.mul_rotation, Mat3.identity, Mat3.mul_def, Mat3.mulVec, Mat3.transpose, Vec3.dot,
      Vec3.ext_iff]
    norm_num
  obtain ⟨hpredict, -⟩ := moved_world_goes_unnoticed isRigid_quarterTurn
  refine ⟨isRigid_quarterTurn, hguess, ?_⟩
  rw [(hpredict .constantVelocity trajectory (List.cons_ne_nil _ _)).1, ScanMotion.moved,
    Pose.mul_position, hguess]
  norm_num [quarterTurn, Pose.apply, Mat3.mulVec, Vec3.dot, Vec3.ext_iff]

end LidarOdometry
