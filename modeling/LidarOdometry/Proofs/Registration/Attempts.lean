import LidarOdometry.Proofs.Registration.Session
import Mathlib.Data.List.Basic

/-!
# Attempts One by One

A scan with a previous one is registered in attempts. This module says what the attempts
are without running them: the parameters of each are those of the one before, relaxed; each asks
the solver one question; and the answers are those of the solver asked one question after the
other. Attempts are counted from zero. Registration stops at the first attempt that *decides*, by
being accepted or, where registration may fail early, by being rejected clearly, and at the latest
at the last one allowed.

`Registrar.register_stops` is the correspondence: registration asks just these questions, up to
the attempt it stops at, and its summary reports that attempt. What the scan was found to be,
however, is reported of the last attempt that the solver *answered*, which may be an earlier one.

## Main definitions

* `Registrar.parameters`, `Registrar.question`, `Registrar.answer`, `Registrar.result`: the
  attempts.
* `Registrar.StopsAt`: the attempt that registration stops at.
* `Registrar.Reports`: the summary of a registration that stops at an attempt.
* `Solver.logged`: a solver that keeps the questions it is asked.
* `Registrar.failing`: a registrar whose solver always fails.

## Main results

* `Registrar.stopsAt_unique`: registration stops at one attempt only.
* `Registrar.register_stops`: registration is the sequence of attempts up to that one.
-/

namespace LidarOdometry

variable {σ α : Type} {M : Type → Type} [Monad M] [Scalar α]

/-! ### Questions and outcomes -/

omit [Scalar α] in
/-- **A solver that keeps the questions it is asked.** -/
def Solver.logged (solver : Solver σ α) : Solver (σ × List (Problem α × SolverOptions α)) α :=
  fun problem options (memory, asked) =>
    let (answer, memory) := solver problem options memory
    (answer, memory, asked ++ [(problem, options)])

omit [Scalar α] in
/-- **A solver that always answers**, where others need not. -/
def Solver.lift (solver : Solver σ α) : Solver σ α M :=
  fun problem options memory => Pure.pure (solver problem options memory)

omit [Scalar α] in
/-- The registrar whose solver always answers, where those of others need not. -/
def Registrar.lift (r : Registrar σ α) : Registrar σ α M :=
  ⟨r.options, r.baseOptions, r.solver.lift, r.map⟩

namespace Outcome

omit [Scalar α] in
/-- What the solver found, with its assessment. -/
def candidate? : Outcome α → Option (Registered α × Assessment α)
  | accepted registered assessment => some (registered, assessment)
  | rejected registered assessment _ => some (registered, assessment)
  | unsolved _ => none

omit [Scalar α] in
/-- Why the attempt failed, if it did. -/
def cause? : Outcome α → Option (RegistrationError (Rejection α))
  | accepted _ _ => none
  | rejected _ _ reason => some (.rejected reason)
  | unsolved cause => some (.unsolved cause)

omit [Scalar α] in
/-- Whether the attempt is accepted. -/
def isAccepted : Outcome α → Bool
  | accepted _ _ => true
  | _ => false

omit [Scalar α] in
/-- Whether the attempt is rejected clearly. -/
def isClear : Outcome α → Bool
  | rejected _ _ reason => reason.isClear
  | _ => false

end Outcome

namespace Registrar

/-! ### The attempts -/

section Attempts

variable (r : Registrar σ α) (scan : Scan α) (previous : ScanMotion α) (memory : σ)

/-- The points that keypoints are drawn from. -/
def undone : List (ScanPoint α) :=
  if r.options.compensation = .constantVelocity then scan.guess.settle scan.points
  else scan.points

/-- **The parameters of each attempt.** -/
def parameters : Nat → Attempt α
  | 0 => Attempt.first r.options r.baseOptions scan.keypointSize
  | i + 1 => (parameters i).next r.options.maxNeighborhood scan.thinningSize

/-- The keypoints of each attempt. -/
def keypoints (i : Nat) : List (ScanPoint α) :=
  Sampler.thin (r.parameters scan i).keypointSize (r.undone scan)

/-- **The question of each attempt**: the keypoints and the options change, all else stays. -/
def question (i : Nat) : Problem α × SolverOptions α :=
  (⟨r.map, r.keypoints scan i, scan.guess, some previous, scan.index⟩,
    if r.options.robust then (r.parameters scan i).solverFor scan.guess (some previous)
    else (r.parameters scan i).solver)

/-- What the solver remembers before each attempt, if it remembers `memory` before the first. -/
def memoryBefore : Nat → σ
  | 0 => memory
  | i + 1 =>
      let (problem, options) := r.question scan previous i
      (r.solver problem options (memoryBefore i)).2

/-- What the solver answers in each attempt. -/
def answer (i : Nat) : Except SolverError (Registered α) :=
  let (problem, options) := r.question scan previous i
  (r.solver problem options (r.memoryBefore scan previous memory i)).1

/-- **The result of each attempt.** -/
def result (i : Nat) : Outcome α :=
  r.assess scan.guess previous (r.answer scan previous memory i)

/-- Whether an attempt is the last one whatever the number of attempts allowed. -/
def decides (i : Nat) : Bool :=
  (r.result scan previous memory i).isAccepted ||
    (r.options.failEarly && (r.result scan previous memory i).isClear)

/-- What the solver found in the attempts before `i`. -/
def candidates (i : Nat) : List (Registered α × Assessment α) :=
  (List.range i).filterMap fun j => (r.result scan previous memory j).candidate?

/-- **Registration stops at attempt `i`**: the first that decides, or the last one allowed if
none does. -/
structure StopsAt (i : Nat) : Prop where
  lt_maxAttempts : i < r.maxAttempts
  undecided : ∀ j < i, r.decides scan previous memory j = false
  stops : r.decides scan previous memory i = true ∨ i + 1 = r.maxAttempts

/-- The failure of a registration that stops at attempt `i`. Robust registration that uses up all
attempts says so, but a clear rejection that it stops at is the failure itself. -/
def failureAt (i : Nat) : Option (RegistrationError (Rejection α)) :=
  let result := r.result scan previous memory i
  if r.options.robust && !(r.options.failEarly && result.isClear) then
    result.cause?.map (.exhausted r.maxAttempts)
  else result.cause?

/-- **A summary reports attempt `i`.** -/
structure Reports (i : Nat) (summary : Summary α) : Prop where
  attempts_eq : summary.attempts = i + 1
  thinned_eq : summary.thinned = scan.points.length
  keypoints_eq : summary.keypoints = (r.keypoints scan i).length
  isSuccess_eq : summary.isSuccess = (r.result scan previous memory i).isAccepted
  failure_eq : summary.failure = r.failureAt scan previous memory i
  /-- The last candidate up to this attempt, or the guess if there is none. -/
  motion_eq : summary.motion = ((r.candidates scan previous memory (i + 1)).getLast?.map
    fun candidate => candidate.1.motion).getD scan.guess
  assessment_eq : summary.assessment =
    ((r.candidates scan previous memory (i + 1)).getLast?.map Prod.snd).getD .zero
  /-- Only the keypoints of an accepted scan are compared with the map. -/
  saturation_eq : summary.saturation = match r.result scan previous memory i with
    | .accepted registered _ => saturation r.map registered.keypoints
    | _ => 0
  corrected_eq : summary.corrected =
    summary.motion.place r.baseOptions.compensate (r.undone scan)
  allCorrected_eq : summary.allCorrected = []

end Attempts

/-! ### The attempt that registration stops at -/

section Stops

variable {r : Registrar σ α} {scan : Scan α} {previous : ScanMotion α} {memory : σ} {i j : Nat}

omit [Scalar α] in
/-- There is at least one attempt. -/
theorem maxAttempts_pos (hattempts : 0 < r.options.maxAttempts) : 0 < r.maxAttempts := by
  rw [maxAttempts]
  split
  · exact hattempts
  · exact Nat.one_pos

/-- **Only one attempt stops**: none before another one that does. -/
theorem StopsAt.le (hi : r.StopsAt scan previous memory i)
    (hj : r.StopsAt scan previous memory j) : i ≤ j := by
  by_contra hlt
  have hlt : j < i := Nat.lt_of_not_le hlt
  have hmax := hi.lt_maxAttempts
  rcases hj.stops with hdecides | hlast
  · rw [hi.undecided j hlt] at hdecides
    cases hdecides
  · omega

/-- **Registration stops at one attempt only.** -/
theorem stopsAt_unique (hi : r.StopsAt scan previous memory i)
    (hj : r.StopsAt scan previous memory j) : i = j :=
  Nat.le_antisymm (hi.le hj) (hj.le hi)

/-- A report leaves nothing of the summary open. -/
theorem Reports.eq {summary summary' : Summary α}
    (h : r.Reports scan previous memory i summary)
    (h' : r.Reports scan previous memory i summary') : summary = summary' := by
  have hmotion := h.motion_eq.trans h'.motion_eq.symm
  have hcorrected := h.corrected_eq
  rw [hmotion, ← h'.corrected_eq] at hcorrected
  have hassessment := h.assessment_eq.trans h'.assessment_eq.symm
  have hthinned := h.thinned_eq.trans h'.thinned_eq.symm
  have hkeypoints := h.keypoints_eq.trans h'.keypoints_eq.symm
  have hattempts := h.attempts_eq.trans h'.attempts_eq.symm
  have hsuccess := h.isSuccess_eq.trans h'.isSuccess_eq.symm
  have hfailure := h.failure_eq.trans h'.failure_eq.symm
  have hsaturation := h.saturation_eq.trans h'.saturation_eq.symm
  have hall := h.allCorrected_eq.trans h'.allCorrected_eq.symm
  cases summary
  cases summary'
  simp only [Summary.mk.injEq]
  exact ⟨hmotion, hassessment, hthinned, hkeypoints, hattempts, hsuccess, hfailure, hsaturation,
    hcorrected, hall⟩

end Stops

/-! ### One attempt -/

section Step

variable {r : Registrar σ α} {scan : Scan α} {previous : ScanMotion α} {memory : σ} {i : Nat}
  {session : Session σ}

/-- A scan after another one is settled by undoing the motion within it. -/
theorem settled_of_previous (hprevious : scan.previous = some previous) :
    r.settled scan = { scan with points := r.undone scan } := by
  have hsome : scan.previous.isSome := by rw [hprevious, Option.isSome_some]
  rw [settled, undone]
  by_cases hmode : r.options.compensation = .constantVelocity
  · rw [if_pos ⟨hmode, hsome⟩, if_pos hmode]
  · rw [if_neg (fun hboth => hmode hboth.1), if_neg hmode]

/-- **One attempt** asks the question of its number and has the result of its number. -/
theorem outcome_eq (hprevious : scan.previous = some previous)
    (hmemory : session.memory = r.memoryBefore scan previous memory i) :
    (r.outcome (r.settled scan) previous (r.parameters scan i) session).1 =
        ((r.keypoints scan i).length, r.result scan previous memory i) ∧
      (r.outcome (r.settled scan) previous (r.parameters scan i) session).2.memory =
        r.memoryBefore scan previous memory (i + 1) := by
  rw [settled_of_previous hprevious, result, answer, memoryBefore, ← hmemory]
  exact ⟨rfl, rfl⟩

/-- The last candidate up to an attempt is that of the attempt, or else the last one before it. -/
theorem getLast?_candidates_succ : (r.candidates scan previous memory (i + 1)).getLast? =
    (r.result scan previous memory i).candidate?.or
      (r.candidates scan previous memory i).getLast? := by
  rw [candidates, List.range_succ, List.filterMap_append, List.getLast?_append, ← candidates]
  cases hresult : (r.result scan previous memory i).candidate? <;> simp [hresult]

/-- What the solver answers is the candidate of the attempt, assessed by the guess and the previous
scan. -/
theorem candidate?_of_answer {registered : Registered α}
    (hanswer : r.answer scan previous memory i = .ok registered) :
    (r.result scan previous memory i).candidate? =
      some (registered, .ofMotion registered.motion scan.guess (some previous)) := by
  rw [result, hanswer, assess]
  split
  · rfl
  · rfl

/-- The motion that is reported is the one the solver has found last. -/
theorem Reports.motion_of_answer {registered : Registered α} {summary : Summary α}
    (h : r.Reports scan previous memory i summary)
    (hanswer : r.answer scan previous memory i = .ok registered) :
    summary.motion = registered.motion := by
  rw [h.motion_eq, getLast?_candidates_succ, candidate?_of_answer hanswer]
  rfl

/-- The assessment that is reported is that of the motion the solver has found last. -/
theorem Reports.assessment_of_answer {registered : Registered α} {summary : Summary α}
    (h : r.Reports scan previous memory i summary)
    (hanswer : r.answer scan previous memory i = .ok registered) :
    summary.assessment = .ofMotion registered.motion scan.guess (some previous) := by
  rw [h.assessment_eq, getLast?_candidates_succ, candidate?_of_answer hanswer]
  rfl

end Step

/-! ### Attempts in a row -/

section Run

variable {r : Registrar σ α} {scan : Scan α} {previous : ScanMotion α} {memory : σ} {i : Nat}
  {summary : Summary α} {last : Option (RegistrationError (Rejection α))}

variable (r scan previous memory) in
/-- **What attempts leave** that did not decide: a summary whose motion is that of the last
candidate, and the cause of the last failure. -/
structure Carries (i : Nat) (summary : Summary α)
    (last : Option (RegistrationError (Rejection α))) : Prop where
  undecided : ∀ j < i, r.decides scan previous memory j = false
  thinned_eq : summary.thinned = scan.points.length
  isSuccess_eq : summary.isSuccess = false
  failure_eq : summary.failure = none
  saturation_eq : summary.saturation = 0
  allCorrected_eq : summary.allCorrected = []
  motion_eq : summary.motion = ((r.candidates scan previous memory i).getLast?.map
    fun candidate => candidate.1.motion).getD scan.guess
  assessment_eq : summary.assessment =
    ((r.candidates scan previous memory i).getLast?.map Prod.snd).getD .zero
  of_succ : ∀ j, i = j + 1 → summary.attempts = i ∧
    summary.keypoints = (r.keypoints scan j).length ∧
    last = (r.result scan previous memory j).cause?

/-- **Before the first attempt** nothing is carried. -/
theorem carries_zero : r.Carries scan previous memory 0
    (Summary.initial scan.guess scan.points.length) none where
  undecided _ hlt := absurd hlt (Nat.not_lt_zero _)
  thinned_eq := rfl
  isSuccess_eq := rfl
  failure_eq := rfl
  saturation_eq := rfl
  allCorrected_eq := rfl
  motion_eq := rfl
  assessment_eq := rfl
  of_succ _ h := absurd h (Nat.succ_ne_zero _).symm

variable (r scan previous memory) in
/-- The summary with the result of attempt `i`: its candidate, if it has one, replaces those of
the attempts before. -/
def noted (i : Nat) (summary : Summary α) : Summary α :=
  let candidate? := (r.result scan previous memory i).candidate?
  { summary with
    attempts := i + 1
    keypoints := (r.keypoints scan i).length
    motion := (candidate?.map fun candidate => candidate.1.motion).getD summary.motion
    assessment := (candidate?.map Prod.snd).getD summary.assessment }

/-- The motion that is noted is the last candidate's, or else the guess. -/
theorem Carries.motion_noted (h : r.Carries scan previous memory i summary last) :
    (r.noted scan previous memory i summary).motion =
      ((r.candidates scan previous memory (i + 1)).getLast?.map
        fun candidate => candidate.1.motion).getD scan.guess := by
  rw [getLast?_candidates_succ, noted, h.motion_eq]
  cases (r.result scan previous memory i).candidate? <;> rfl

/-- The assessment that is noted is the last candidate's, or else zero. -/
theorem Carries.assessment_noted (h : r.Carries scan previous memory i summary last) :
    (r.noted scan previous memory i summary).assessment =
      ((r.candidates scan previous memory (i + 1)).getLast?.map Prod.snd).getD .zero := by
  rw [getLast?_candidates_succ, noted, h.assessment_eq]
  cases (r.result scan previous memory i).candidate? <;> rfl

/-- **An attempt that does not decide** is noted and carried on. -/
theorem Carries.succ (h : r.Carries scan previous memory i summary last)
    (hdecides : r.decides scan previous memory i = false) :
    r.Carries scan previous memory (i + 1) (r.noted scan previous memory i summary)
      (r.result scan previous memory i).cause? where
  undecided j hlt := by
    rcases Nat.lt_succ_iff_lt_or_eq.mp hlt with hlt | rfl
    · exact h.undecided j hlt
    · exact hdecides
  thinned_eq := h.thinned_eq
  isSuccess_eq := h.isSuccess_eq
  failure_eq := h.failure_eq
  saturation_eq := h.saturation_eq
  allCorrected_eq := h.allCorrected_eq
  motion_eq := h.motion_noted
  assessment_eq := h.assessment_noted
  of_succ j hsucc := by
    obtain rfl : i = j := Nat.succ.inj hsucc
    exact ⟨rfl, rfl, rfl⟩

/-- **An attempt that is accepted** is reported. -/
theorem Carries.reports_accepted {registered : Registered α} {assessment : Assessment α}
    (h : r.Carries scan previous memory i summary last) (hprevious : scan.previous = some previous)
    (hresult : r.result scan previous memory i = .accepted registered assessment) :
    r.Reports scan previous memory i (r.placed (r.settled scan)
      { r.noted scan previous memory i summary with
        saturation := saturation r.map registered.keypoints
        isSuccess := true }) where
  attempts_eq := rfl
  thinned_eq := h.thinned_eq
  keypoints_eq := rfl
  isSuccess_eq := by rw [hresult]; rfl
  failure_eq := by
    have hnone : r.failureAt scan previous memory i = none := by
      simp [failureAt, hresult, Outcome.cause?]
    rw [hnone]
    exact h.failure_eq
  motion_eq := h.motion_noted
  assessment_eq := h.assessment_noted
  saturation_eq := by rw [hresult]; rfl
  corrected_eq := by rw [settled_of_previous hprevious]; rfl
  allCorrected_eq := h.allCorrected_eq

/-- **A clear rejection that decides** is reported. -/
theorem Carries.reports_clear {registered : Registered α} {assessment : Assessment α}
    {reason : Rejection α} (h : r.Carries scan previous memory i summary last)
    (hprevious : scan.previous = some previous)
    (hresult : r.result scan previous memory i = .rejected registered assessment reason)
    (hclear : (r.options.failEarly && reason.isClear) = true) :
    r.Reports scan previous memory i (r.placed (r.settled scan)
      { r.noted scan previous memory i summary with failure := some (.rejected reason) }) where
  attempts_eq := rfl
  thinned_eq := h.thinned_eq
  keypoints_eq := rfl
  isSuccess_eq := by
    rw [hresult]
    exact h.isSuccess_eq
  failure_eq := by
    rw [failureAt, hresult]
    simp [Outcome.isClear, Outcome.cause?, hclear, placed]
  motion_eq := h.motion_noted
  assessment_eq := h.assessment_noted
  saturation_eq := by
    rw [hresult]
    exact h.saturation_eq
  corrected_eq := by rw [settled_of_previous hprevious]; rfl
  allCorrected_eq := h.allCorrected_eq

/-- **The last attempt allowed** is reported if none has decided. -/
theorem Carries.reports_exhausted (h : r.Carries scan previous memory (i + 1) summary last)
    (hprevious : scan.previous = some previous) :
    r.Reports scan previous memory i (r.placed (r.settled scan)
      { summary with failure := last.map r.failure }) := by
  obtain ⟨hattempts, hkeypoints, hlast⟩ := h.of_succ i rfl
  have hdecides := h.undecided i (Nat.lt_succ_self i)
  rw [decides, Bool.or_eq_false_iff] at hdecides
  obtain ⟨haccepted, hclear⟩ := hdecides
  refine ⟨hattempts, h.thinned_eq, hkeypoints, h.isSuccess_eq.trans haccepted.symm, ?_,
    h.motion_eq, h.assessment_eq, ?_, ?_, h.allCorrected_eq⟩
  · rw [failureAt, hclear, ← hlast]
    change last.map r.failure = _
    by_cases hrobust : r.options.robust
    · have hfailure : r.failure = .exhausted r.maxAttempts := by
        funext cause
        rw [failure, if_pos hrobust]
      rw [hfailure, hrobust]
      rfl
    · have hfailure : r.failure = id := by
        funext cause
        rw [failure, if_neg hrobust, id]
      rw [hfailure, Option.map_id, eq_false_of_ne_true hrobust]
      rfl
  · cases hresult : r.result scan previous memory i with
    | accepted registered assessment =>
        rw [hresult] at haccepted
        cases haccepted
    | rejected registered assessment reason => exact h.saturation_eq
    | unsolved cause => exact h.saturation_eq
  · rw [settled_of_previous hprevious]
    rfl

omit [Scalar α] in
/-- What does not read the session comes first. -/
theorem liftM_bind_apply [LawfulMonad M] {β γ : Type} (c : M β) (f : β → SessionT σ M γ)
    (session : Session σ) : (liftM c >>= f) session = c >>= fun b => f b session := by
  simp only [bind, StateT.bind, liftM, monadLift, MonadLift.monadLift, StateT.lift]
  exact (bind_assoc ..).trans (bind_congr fun b => pure_bind _ _)

/-- A solver that always answers leaves an outcome. -/
theorem outcome_lift [LawfulMonad M] (r : Registrar σ α) (scan : Scan α)
    (previous : ScanMotion α) (attempt : Attempt α) (session : Session σ) :
    (r.lift : Registrar σ α M).outcome scan previous attempt session =
      pure (r.outcome scan previous attempt session) := by
  simp only [outcome, bind, StateT.bind, SessionT.sample, SessionT.solve, lift, Solver.lift,
    pure_bind]
  rfl

/-- **What becomes of an attempt**, by its result, with any kind of sum that counts it right. -/
theorem attemptsBy_succ [LawfulMonad M] {plus : Nat → Nat → M Nat}
    (hcount : plus i 1 = pure (i + 1)) (hprevious : scan.previous = some previous)
    {session : Session σ} (hmemory : session.memory = r.memoryBefore scan previous memory i)
    (remaining : Nat) :
    r.lift.attemptsBy plus (r.settled scan) previous (remaining + 1) i (r.parameters scan i)
        summary last session =
      let next := (r.outcome (r.settled scan) previous (r.parameters scan i) session).2
      let noted := r.noted scan previous memory i summary
      let goOn := fun cause => do
        let relaxed ← (r.parameters scan i).nextBy plus r.options.maxNeighborhood scan.thinningSize
        r.lift.attemptsBy plus (r.settled scan) previous remaining (i + 1) relaxed noted
          (some cause) next
      match r.result scan previous memory i with
      | .accepted registered _ =>
          pure (r.placed (r.settled scan) { noted with
            saturation := saturation r.map registered.keypoints
            isSuccess := true }, next)
      | .rejected _ _ reason =>
          if r.options.failEarly && reason.isClear then
            pure (r.placed (r.settled scan) { noted with failure := some (.rejected reason) }, next)
          else goOn (.rejected reason)
      | .unsolved cause => goOn (.unsolved cause) := by
  have hresult := (outcome_eq hprevious hmemory).1
  rcases hstep : r.outcome (r.settled scan) previous (r.parameters scan i) session with
    ⟨⟨count, outcome⟩, next⟩
  rw [hstep] at hresult
  obtain ⟨rfl, houtcome⟩ := Prod.mk.inj hresult
  have hsize : (r.settled scan).thinningSize = scan.thinningSize := by
    rw [settled_of_previous hprevious]
  have hlifted : (r.lift : Registrar σ α M).outcome (r.settled scan) previous (r.parameters scan i)
      session = pure (((r.keypoints scan i).length, outcome), next) := by
    rw [outcome_lift, hstep]
  rw [attemptsBy, liftM_bind_apply, hcount, pure_bind, hsize]
  change ((r.lift : Registrar σ α M).outcome (r.settled scan) previous (r.parameters scan i)
    session >>= _) = _
  rw [hlifted, pure_bind]
  simp only [noted, ← houtcome]
  cases outcome with
  | accepted registered assessment => rfl
  | rejected registered assessment reason =>
      dsimp only
      split
      · next hclear => exact (if_pos hclear).symm
      · next hclear => exact (liftM_bind_apply _ _ _).trans (if_neg hclear).symm
  | unsolved cause => exact liftM_bind_apply _ _ _

/-- What becomes of an attempt, by its result. -/
theorem attempts_succ (hprevious : scan.previous = some previous) {session : Session σ}
    (hmemory : session.memory = r.memoryBefore scan previous memory i) (remaining : Nat) :
    r.attempts (r.settled scan) previous (remaining + 1) i (r.parameters scan i) summary last
        session =
      let next := (r.outcome (r.settled scan) previous (r.parameters scan i) session).2
      let noted := r.noted scan previous memory i summary
      match r.result scan previous memory i with
      | .accepted registered _ =>
          (r.placed (r.settled scan) { noted with
            saturation := saturation r.map registered.keypoints
            isSuccess := true }, next)
      | .rejected _ _ reason =>
          if r.options.failEarly && reason.isClear then
            (r.placed (r.settled scan) { noted with failure := some (.rejected reason) }, next)
          else
            r.attempts (r.settled scan) previous remaining (i + 1) (r.parameters scan (i + 1))
              noted (some (.rejected reason)) next
      | .unsolved cause =>
          r.attempts (r.settled scan) previous remaining (i + 1) (r.parameters scan (i + 1))
            noted (some (.unsolved cause)) next :=
  attemptsBy_succ (M := Id) rfl hprevious hmemory remaining

/-- **An attempt that does not decide** is noted, and a relaxed one follows. -/
theorem attemptsBy_of_undecided [LawfulMonad M] {plus : Nat → Nat → M Nat}
    (hcount : plus i 1 = pure (i + 1)) (hprevious : scan.previous = some previous)
    {session : Session σ} (hmemory : session.memory = r.memoryBefore scan previous memory i)
    (hdecides : r.decides scan previous memory i = false) (remaining : Nat) :
    r.lift.attemptsBy plus (r.settled scan) previous (remaining + 1) i (r.parameters scan i)
        summary last session =
      (r.parameters scan i).nextBy plus r.options.maxNeighborhood scan.thinningSize >>=
        fun relaxed => r.lift.attemptsBy plus (r.settled scan) previous remaining (i + 1) relaxed
          (r.noted scan previous memory i summary) (r.result scan previous memory i).cause?
          (r.outcome (r.settled scan) previous (r.parameters scan i) session).2 := by
  rw [attemptsBy_succ hcount hprevious hmemory]
  cases hresult : r.result scan previous memory i with
  | accepted registered assessment => simp [decides, hresult, Outcome.isAccepted] at hdecides
  | rejected registered assessment reason =>
      rw [decides, hresult] at hdecides
      have hclear : ¬ (r.options.failEarly && reason.isClear) = true := ne_true_of_eq_false hdecides
      exact if_neg hclear
  | unsolved cause => rfl

/-- **An attempt that decides** is the last one, so that nothing is relaxed. -/
theorem attemptsBy_of_decides [LawfulMonad M] {plus : Nat → Nat → M Nat}
    (hcount : plus i 1 = pure (i + 1)) (hprevious : scan.previous = some previous)
    {session : Session σ} (hmemory : session.memory = r.memoryBefore scan previous memory i)
    (hdecides : r.decides scan previous memory i = true) (remaining : Nat) :
    r.lift.attemptsBy plus (r.settled scan) previous (remaining + 1) i (r.parameters scan i)
        summary last session =
      pure (r.attempts (r.settled scan) previous (remaining + 1) i (r.parameters scan i) summary
        last session) := by
  rw [attemptsBy_succ hcount hprevious hmemory, attempts_succ hprevious hmemory]
  cases hresult : r.result scan previous memory i with
  | accepted registered assessment => rfl
  | rejected registered assessment reason =>
      rw [decides, hresult] at hdecides
      have hclear : (r.options.failEarly && reason.isClear) = true := hdecides
      simp only [hclear, if_true]
  | unsolved cause => simp [decides, hresult, Outcome.isAccepted, Outcome.isClear] at hdecides

/-- An attempt that does not decide is noted and the next one follows. -/
theorem attempts_of_undecided (hprevious : scan.previous = some previous) {session : Session σ}
    (hmemory : session.memory = r.memoryBefore scan previous memory i)
    (hdecides : r.decides scan previous memory i = false) (remaining : Nat) :
    r.attempts (r.settled scan) previous (remaining + 1) i (r.parameters scan i) summary last
        session =
      r.attempts (r.settled scan) previous remaining (i + 1) (r.parameters scan (i + 1))
        (r.noted scan previous memory i summary) (r.result scan previous memory i).cause?
        (r.outcome (r.settled scan) previous (r.parameters scan i) session).2 :=
  attemptsBy_of_undecided (M := Id) rfl hprevious hmemory hdecides remaining

/-- **Attempts in a row**, from attempt `i` on. The induction is on the attempts left: one that
decides is reported, and any other is carried on to the next. -/
theorem Carries.stops (h : r.Carries scan previous memory i summary last)
    (hprevious : scan.previous = some previous) {remaining : Nat}
    (hcount : i + remaining = r.maxAttempts) (hpos : 0 < r.maxAttempts) {session : Session σ}
    (hmemory : session.memory = r.memoryBefore scan previous memory i) :
    ∃ k, r.StopsAt scan previous memory k ∧
      let run := r.attempts (r.settled scan) previous remaining i (r.parameters scan i)
        summary last session
      r.Reports scan previous memory k run.1 ∧
        run.2.memory = r.memoryBefore scan previous memory (k + 1) := by
  -- on the attempts that are left; what those before left behind is carried along
  induction remaining generalizing i summary last session with
  | zero =>
      cases i with
      | zero => omega
      | succ i =>
          refine ⟨i, ⟨by omega, fun j hlt => h.undecided j (by omega), .inr hcount⟩, ?_⟩
          exact ⟨h.reports_exhausted hprevious, hmemory⟩
  | succ remaining ih =>
      have hnext := (outcome_eq hprevious hmemory).2
      cases hdecides : r.decides scan previous memory i with
      | false =>
          rw [attempts_of_undecided hprevious hmemory hdecides]
          exact ih (h.succ hdecides) (by omega) hnext
      | true =>
          refine ⟨i, ⟨by omega, h.undecided, .inl hdecides⟩, ?_⟩
          rw [attempts_succ hprevious hmemory]
          cases hresult : r.result scan previous memory i with
          | accepted registered assessment =>
              exact ⟨h.reports_accepted hprevious hresult, hnext⟩
          | rejected registered assessment reason =>
              rw [decides, hresult] at hdecides
              have hclear : (r.options.failEarly && reason.isClear) = true := hdecides
              simp only [hclear, if_true]
              exact ⟨h.reports_clear hprevious hresult hclear, hnext⟩
          | unsolved cause =>
              simp [decides, hresult, Outcome.isAccepted, Outcome.isClear] at hdecides

/-- A scan with a previous one is registered in attempts, with any kind of sum. -/
theorem registerBy_of_previous {r : Registrar σ α M} (plus : Nat → Nat → M Nat)
    (hpoints : scan.points ≠ []) (hprevious : scan.previous = some previous) :
    r.registerBy plus scan =
      r.attemptsBy plus (r.settled scan) previous r.maxAttempts 0
        (.first r.options r.baseOptions scan.keypointSize)
        (Summary.initial scan.guess scan.points.length) none := by
  have hempty : ¬ scan.points.isEmpty = true := fun h => hpoints (List.isEmpty_iff.mp h)
  have hsettled : (r.settled scan).previous = some previous := by
    rw [settled]
    split <;> exact hprevious
  have hsize : (r.settled scan).keypointSize = scan.keypointSize := by
    rw [settled]
    split <;> rfl
  rw [registerBy, if_neg hempty]
  simp only [hsettled, hsize]

/-- **A scan with a previous one** is registered in attempts, from the first on. -/
theorem register_of_previous (hpoints : scan.points ≠ [])
    (hprevious : scan.previous = some previous) (session : Session σ) :
    r.register scan session =
      r.attempts (r.settled scan) previous r.maxAttempts 0 (r.parameters scan 0)
        (Summary.initial scan.guess scan.points.length) none session := by
  rw [register, registerBy_of_previous Count.exact hpoints hprevious]
  rfl

/-- **Registration stops at an attempt** and reports it. -/
theorem register_reports (hpoints : scan.points ≠ []) (hprevious : scan.previous = some previous)
    (hattempts : 0 < r.options.maxAttempts) (session : Session σ) :
    ∃ i, r.StopsAt scan previous session.memory i ∧
      r.Reports scan previous session.memory i (r.register scan session).1 ∧
      (r.register scan session).2.memory =
        r.memoryBefore scan previous session.memory (i + 1) := by
  rw [register_of_previous hpoints hprevious]
  exact carries_zero.stops hprevious (Nat.zero_add _) (maxAttempts_pos hattempts) rfl

end Run

/-! ### A solver that always fails -/

section Failing

variable {options : OdometryOptions α} {scan : Scan α} {previous : ScanMotion α} {i : Nat}

/-- **A registrar whose solver always fails.** -/
def failing (options : OdometryOptions α) : Registrar Unit α :=
  ⟨options, options.resolvedSolver, .pure fun _ _ => .error .degenerate,
    .empty options.solver.voxelSize options.maxPointsPerVoxel⟩

/-- None of its attempts decides. -/
theorem decides_failing (options : OdometryOptions α) (scan : Scan α) (previous : ScanMotion α)
    (memory : Unit) (i : Nat) : (failing options).decides scan previous memory i = false :=
  Bool.and_false _

/-- It stops at the last attempt allowed. -/
theorem StopsAt.of_failing {memory : Unit} (h : (failing options).StopsAt scan previous memory i) :
    i + 1 = (failing options).maxAttempts := by
  refine h.stops.resolve_left ?_
  rw [decides_failing]
  exact Bool.false_ne_true

end Failing

/-! ### The questions asked -/

section Logged

variable {r : Registrar σ α} {scan : Scan α} {previous : ScanMotion α}

/-- The registrar whose solver keeps the questions it is asked. -/
def logged (r : Registrar σ α) : Registrar (σ × List (Problem α × SolverOptions α)) α :=
  ⟨r.options, r.baseOptions, r.solver.logged, r.map⟩

/-- A log changes no parameters. -/
theorem parameters_logged (i : Nat) : r.logged.parameters scan i = r.parameters scan i := by
  induction i with
  | zero => rfl
  | succ i ih =>
      rw [parameters, parameters, ih]
      rfl

/-- A log changes no keypoints. -/
theorem keypoints_logged (i : Nat) : r.logged.keypoints scan i = r.keypoints scan i := by
  rw [keypoints, keypoints, parameters_logged]
  rfl

/-- A log changes no question. -/
theorem question_logged (i : Nat) :
    r.logged.question scan previous i = r.question scan previous i := by
  rw [question, question, keypoints_logged, parameters_logged]
  rfl

/-- The log has the questions of the attempts before. -/
theorem memoryBefore_logged (memory : σ) (i : Nat) :
    r.logged.memoryBefore scan previous (memory, []) i =
      (r.memoryBefore scan previous memory i, (List.range i).map (r.question scan previous)) := by
  induction i with
  | zero => rfl
  | succ i ih =>
      rw [memoryBefore, memoryBefore, ih, question_logged, List.range_succ, List.map_append]
      rfl

/-- **With a log every attempt has the same result.** -/
theorem result_logged (memory : σ) (i : Nat) :
    r.logged.result scan previous (memory, []) i = r.result scan previous memory i := by
  rw [result, result, answer, answer, memoryBefore_logged, question_logged]
  rfl

/-- With a log the attempts find the same candidates. -/
theorem candidates_logged (memory : σ) (i : Nat) :
    r.logged.candidates scan previous (memory, []) i = r.candidates scan previous memory i := by
  simp only [candidates, result_logged]

/-- With a log an attempt fails in the same way. -/
theorem failureAt_logged (memory : σ) (i : Nat) :
    r.logged.failureAt scan previous (memory, []) i = r.failureAt scan previous memory i := by
  rw [failureAt, failureAt, result_logged]
  rfl

/-- An attempt that stops with a log stops without it. -/
theorem stopsAt_logged {memory : σ} {i : Nat}
    (h : r.logged.StopsAt scan previous (memory, []) i) : r.StopsAt scan previous memory i := by
  obtain ⟨hlt, hundecided, hstops⟩ := h
  simp only [decides, result_logged] at hundecided hstops
  exact ⟨hlt, hundecided, hstops⟩

/-- What is reported with a log is reported without it. -/
theorem reports_logged {memory : σ} {i : Nat} {summary : Summary α}
    (h : r.logged.Reports scan previous (memory, []) i summary) :
    r.Reports scan previous memory i summary where
  attempts_eq := h.attempts_eq
  thinned_eq := h.thinned_eq
  keypoints_eq := by rw [h.keypoints_eq, keypoints_logged]
  isSuccess_eq := by rw [h.isSuccess_eq, result_logged]
  failure_eq := by rw [h.failure_eq, failureAt_logged]
  motion_eq := by rw [h.motion_eq, candidates_logged]
  assessment_eq := by rw [h.assessment_eq, candidates_logged]
  saturation_eq := by
    rw [h.saturation_eq, result_logged]
    rfl
  corrected_eq := h.corrected_eq
  allCorrected_eq := h.allCorrected_eq

/-- **Registration is the sequence of attempts** up to the one that it stops at: its summary
reports that attempt, the solver remembers what it does after that attempt, and it is asked the
questions of the attempts up to that one, in their order, and no others. -/
theorem register_stops (hpoints : scan.points ≠ []) (hprevious : scan.previous = some previous)
    (hattempts : 0 < r.options.maxAttempts) (session : Session σ) :
    ∃ i, r.StopsAt scan previous session.memory i ∧
      r.Reports scan previous session.memory i (r.register scan session).1 ∧
      (r.register scan session).2.memory =
        r.memoryBefore scan previous session.memory (i + 1) ∧
      let logged := r.logged.register scan ⟨(session.memory, []), session.sampler⟩
      logged.1 = (r.register scan session).1 ∧
        logged.2.memory.2 = (List.range (i + 1)).map (r.question scan previous) := by
  obtain ⟨i, hstops, hreports, hmemory⟩ := register_reports hpoints hprevious hattempts session
  obtain ⟨j, hstops', hreports', hmemory'⟩ := register_reports (r := r.logged) hpoints hprevious
    hattempts ⟨(session.memory, []), session.sampler⟩
  obtain rfl : i = j := stopsAt_unique hstops (stopsAt_logged hstops')
  refine ⟨i, hstops, hreports, hmemory, (reports_logged hreports').eq hreports, ?_⟩
  rw [hmemory', memoryBefore_logged]

/-- With a solver that always fails, all attempts are used up. -/
theorem register_stops_exhausted :
    let r : Registrar Unit Float :=
      ⟨.slowOutdoor, .standard, .pure fun _ _ => .error .degenerate, .empty 1 20⟩
    let scan : Scan Float := ⟨[.untimed ⟨1, 0, 0⟩], .identity, some .identity, 1, 0.8, 1.5⟩
    let summary := (r.register scan ⟨(), .fresh⟩).1
    summary.attempts = 10 ∧ summary.motion = scan.guess ∧
      summary.failure = some (.exhausted 10 (.unsolved .degenerate)) := by
  intro r scan summary
  have hpoints : scan.points ≠ [] := List.cons_ne_nil _ _
  obtain ⟨i, hstops, hreports, -⟩ := register_stops hpoints rfl
    (by decide : 0 < r.options.maxAttempts) ⟨(), .fresh⟩
  have hresult : ∀ j, r.result scan .identity () j = .unsolved .degenerate := fun _ => rfl
  have hlast : i + 1 = 10 := by
    rcases hstops.stops with hdecides | hlast
    · rw [decides, hresult] at hdecides
      cases hdecides
    · exact hlast
  refine ⟨hreports.attempts_eq.trans hlast, ?_, ?_⟩
  · have hnone : r.candidates scan .identity () (i + 1) = [] := by
      simp [candidates, hresult, Outcome.candidate?]
    rw [hreports.motion_eq, hnone]
    rfl
  · rw [hreports.failure_eq, failureAt, hresult]
    rfl

end Logged

end Registrar

end LidarOdometry
