import LidarOdometry.Registration.Attempt
import LidarOdometry.Registration.Summary
import LidarOdometry.Scan.Sampler

/-!
# Registering a Scan in Attempts

A scan is registered against a map that stays as it is. The first scan of all defines the map
and is accepted at its guess. Any other scan is handed to the solver, whose answer is assessed;
in robust mode a failed attempt is followed by another with relaxed parameters, until one is
accepted, one fails by a wide margin, or no attempts are left.

Registering uses two things that outlive the call, gathered in a `Session`: the memory of the
solver and the grid of the sampler. The attempts are counted, and from attempt to attempt two counts
of the solver are raised, with any kind of sum. Where a sum has no result, or the solver gives no
answer, there is no summary either.

## Main definitions

* `Session`: what outlives a call.
* `Scan`: what is registered.
* `Registrar`: against what and how.
* `Registrar.outcome`: one attempt and its `Outcome`.
* `Registrar.attemptsBy`: attempts until one decides.
* `Registrar.registerBy`: the summary of a scan.
* `Registrar.attempts`, `Registrar.register`: the same, with counts of any size.
-/

namespace LidarOdometry

/-- **What outlives the registration of a scan.** -/
structure Session (σ : Type) where
  /-- The memory of the solver. -/
  memory : σ
  sampler : Sampler

/-- Computations within a session, in a monad. -/
abbrev SessionT (σ : Type) (M : Type → Type) := StateT (Session σ) M

/-- Computations within a session. -/
abbrev SessionM (σ : Type) := SessionT σ Id

namespace SessionT

variable {σ α : Type} {M : Type → Type} [Monad M]

/-- The first point of every voxel, found with the sampler of the session. -/
def sample [Scalar α] (size : α) (points : List (ScanPoint α)) :
    SessionT σ M (List (ScanPoint α)) :=
  fun session =>
    let (kept, sampler) := session.sampler.sample size points
    return (kept, { session with sampler })

/-- A question to the solver, with the memory of the session. -/
def solve (solver : Solver σ α M) (problem : Problem α) (options : SolverOptions α) :
    SessionT σ M (Except SolverError (Registered α)) :=
  fun session => do
    let (answer, memory) ← solver problem options session.memory
    return (answer, { session with memory })

end SessionT

/-- **A scan to register.** -/
structure Scan (α : Type) where
  /-- The thinned scan, in raw coordinates. -/
  points : List (ScanPoint α)
  guess : ScanMotion α
  /-- The motion over the last registered scan, if any. -/
  previous : Option (ScanMotion α)
  /-- The number of scans registered before. -/
  index : Nat
  /-- The voxel size by which the scan was thinned. -/
  thinningSize : α
  /-- The voxel size by which keypoints are drawn at first. -/
  keypointSize : α

/-- **The outcome of one attempt.** -/
inductive Outcome (α : Type) where
  | accepted (registered : Registered α) (assessment : Assessment α)
  | rejected (registered : Registered α) (assessment : Assessment α) (reason : Rejection α)
  | unsolved (cause : SolverError)

/-- **Against what and how scans are registered.** -/
structure Registrar (σ α : Type) (M : Type → Type := Id) where
  options : OdometryOptions α
  /-- The options of the solver, before an attempt changes them. -/
  baseOptions : SolverOptions α
  solver : Solver σ α M
  map : VoxelMap α

namespace Registrar

variable {σ α : Type} {M : Type → Type} [Scalar α]

omit [Scalar α] in
/-- The most attempts at one scan: a single one unless registration is robust. -/
def maxAttempts (r : Registrar σ α M) : Nat :=
  if r.options.robust then r.options.maxAttempts else 1

/-- What the solver is told in an attempt. Only robust registration widens the neighbourhood by
the guessed motion. -/
def attemptOptions (r : Registrar σ α M) (attempt : Attempt α) (guess previous : ScanMotion α) :
    SolverOptions α :=
  if r.options.robust then attempt.solverFor guess (some previous) else attempt.solver

/-- How a solver's answer turns out. -/
def assess (r : Registrar σ α M) (guess previous : ScanMotion α) :
    Except SolverError (Registered α) → Outcome α
  | .error cause => .unsolved cause
  | .ok registered =>
      let assessment := Assessment.ofMotion registered.motion guess (some previous)
      let periods := elapsedPeriods registered.motion (some previous) r.options.scanPeriod
      match assessment.check r.options periods with
      | .ok () => .accepted registered assessment
      | .error reason => .rejected registered assessment reason

/-- **One attempt**: keypoints are drawn and handed to the solver. Their number is returned with
the outcome. -/
def outcome [Monad M] (r : Registrar σ α M) (scan : Scan α) (previous : ScanMotion α)
    (attempt : Attempt α) : SessionT σ M (Nat × Outcome α) := do
  let keypoints ← SessionT.sample attempt.keypointSize scan.points
  let problem : Problem α := ⟨r.map, keypoints, scan.guess, some previous, scan.index⟩
  let answer ← SessionT.solve r.solver problem (r.attemptOptions attempt scan.guess previous)
  return (keypoints.length, r.assess scan.guess previous answer)

/-- The summary with its points placed by its motion. -/
def placed (r : Registrar σ α M) (scan : Scan α) (summary : Summary α) : Summary α :=
  { summary with
    corrected := summary.motion.place r.baseOptions.compensate scan.points }

omit [Scalar α] in
/-- The failure of a scan all of whose attempts failed, the last one for `last`. -/
def failure (r : Registrar σ α M) (last : RegistrationError (Rejection α)) :
    RegistrationError (Rejection α) :=
  if r.options.robust then .exhausted r.maxAttempts last else last

/-- **Attempts until one decides.** `remaining` attempts are left and `number` were made; the next
one has the parameters of `attempt`; `summary` and `last` are what the attempts before it left. An
attempt that does not decide is relaxed even if no other one follows. -/
def attemptsBy [Monad M] (r : Registrar σ α M) (plus : Nat → Nat → M Nat) (scan : Scan α)
    (previous : ScanMotion α) : (remaining number : Nat) → (attempt : Attempt α) →
    (summary : Summary α) → (last : Option (RegistrationError (Rejection α))) →
    SessionT σ M (Summary α)
  | 0, _, _, summary, last =>
      return r.placed scan { summary with failure := last.map r.failure }
  | remaining + 1, number, attempt, summary, _ => do
      let number ← plus number 1
      let (keypoints, outcome) ← r.outcome scan previous attempt
      let summary := { summary with attempts := number, keypoints }
      let relaxed := attempt.nextBy plus r.options.maxNeighborhood scan.thinningSize
      match outcome with
      | .accepted registered assessment =>
          return r.placed scan { summary with
            motion := registered.motion
            assessment
            saturation := saturation r.map registered.keypoints
            isSuccess := true }
      | .rejected registered assessment reason =>
          let summary := { summary with motion := registered.motion, assessment }
          if r.options.failEarly && reason.isClear then
            return r.placed scan { summary with failure := some (.rejected reason) }
          else
            r.attemptsBy plus scan previous remaining number (← relaxed) summary
              (some (.rejected reason))
      | .unsolved cause =>
          r.attemptsBy plus scan previous remaining number (← relaxed) summary
            (some (.unsolved cause))

/-- The scan with its motion undone by the guess, where the mode asks for it and there is a
previous scan. -/
def settled (r : Registrar σ α M) (scan : Scan α) : Scan α :=
  if r.options.compensation = .constantVelocity ∧ scan.previous.isSome then
    { scan with points := scan.guess.settle scan.points }
  else scan

/-- **The registration of a scan.** A scan without points fails at once; a scan without a previous
one is accepted at its guess, its keypoints only being counted. All others are attempted. -/
def registerBy [Monad M] (r : Registrar σ α M) (plus : Nat → Nat → M Nat) (scan : Scan α) :
    SessionT σ M (Summary α) := do
  let summary := Summary.initial scan.guess scan.points.length
  if scan.points.isEmpty then
    return { summary with failure := some (.tooFewKeypoints 0 (max r.options.minKeypoints 1)) }
  else
    let scan := r.settled scan
    match scan.previous with
    | none =>
        let keypoints ← SessionT.sample scan.keypointSize scan.points
        return r.placed scan { summary with keypoints := keypoints.length, isSuccess := true }
    | some previous =>
        let attempt := Attempt.first r.options r.baseOptions scan.keypointSize
        r.attemptsBy plus scan previous r.maxAttempts 0 attempt summary none

/-- **Attempts until one decides**, with counts of any size. -/
def attempts (r : Registrar σ α) (scan : Scan α) (previous : ScanMotion α)
    (remaining number : Nat) (attempt : Attempt α) (summary : Summary α)
    (last : Option (RegistrationError (Rejection α))) : SessionM σ (Summary α) :=
  r.attemptsBy Count.exact scan previous remaining number attempt summary last

/-- **The registration of a scan**, with counts of any size. -/
def register (r : Registrar σ α) (scan : Scan α) : SessionM σ (Summary α) :=
  r.registerBy Count.exact scan

end Registrar

end LidarOdometry
