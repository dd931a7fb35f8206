import LidarOdometry.Proofs.Registration.Exits

/-!
# Allowing More Attempts

The number of attempts allowed is only a bound. It decides neither the parameters of an attempt
nor what the solver is asked or answers in it, so that two robust registrations which allow
different numbers go through the same attempts until the smaller allowance is used up. A scan
that is accepted or fails clearly within the smaller one is decided for good: with the larger
one its summary is the same to the last field. A scan that uses up the smaller one is asked the
same questions again and at least one more.

Nothing but the wording of the last failure mentions the bound, which is why a report carries over
only if the attempt decides.

## Main definitions

* `Registrar.allowing`: a registrar that allows another number of attempts.
* `Registrar.asked`: the questions that a registration asks.

## Main results

* `Registrar.result_allowing`: the attempts do not depend on the number allowed.
* `Registrar.Reports.allowing`: the report of an attempt that decides does not depend on it.
* `Registrar.allowance_is_only_a_bound`: more attempts never change an earlier decision.
-/

namespace LidarOdometry

variable {σ α : Type} [Scalar α]

omit [Scalar α] in
/-- A pure solver that keeps its questions keeps the same ones whatever it remembers. -/
theorem Solver.IsPure.respects_logged {solver : Solver σ α} (hpure : solver.IsPure) :
    solver.logged.Respects fun memory memory' => memory.2 = memory'.2 := by
  rintro problem options ⟨memory, log⟩ ⟨memory', _⟩ rfl
  exact ⟨hpure problem options memory memory', rfl⟩

/-- **A scan is decided** if it is accepted, or if it fails before its attempts are used up. -/
def Summary.IsDecided (summary : Summary α) : Prop :=
  summary.isSuccess = true ∨
    ∃ error, summary.failure = some error ∧ ∀ attempts last, error ≠ .exhausted attempts last

namespace Registrar

variable {r : Registrar σ α} {scan : Scan α} {previous : ScanMotion α} {memory : σ} {i n m : Nat}
  {summary : Summary α}

omit [Scalar α] in
/-- **The registrar that allows `n` attempts.** -/
def allowing (r : Registrar σ α) (n : Nat) : Registrar σ α :=
  { r with options := { r.options with maxAttempts := n } }

/-- **The questions that a registration asks** the solver, in their order. -/
def asked (r : Registrar σ α) (scan : Scan α) (session : Session σ) :
    List (Problem α × SolverOptions α) :=
  (r.logged.register scan ⟨(session.memory, []), session.sampler⟩).2.memory.2

/-! ### The attempts do not depend on how many are allowed -/

omit [Scalar α] in
/-- The allowance is the number of attempts. -/
theorem maxAttempts_allowing (hrobust : r.options.robust = true) :
    (r.allowing n).maxAttempts = n :=
  if_pos hrobust

/-- The parameters of an attempt do not depend on the allowance. -/
theorem parameters_allowing (i : Nat) : (r.allowing n).parameters scan i = r.parameters scan i := by
  induction i with
  | zero => rfl
  | succ i ih =>
      rw [parameters, parameters, ih]
      rfl

/-- The keypoints of an attempt do not depend on the allowance. -/
theorem keypoints_allowing (i : Nat) : (r.allowing n).keypoints scan i = r.keypoints scan i := by
  rw [keypoints, keypoints, parameters_allowing]
  rfl

/-- What an attempt asks the solver does not depend on the allowance. -/
theorem question_allowing (i : Nat) :
    (r.allowing n).question scan previous i = r.question scan previous i := by
  rw [question, question, keypoints_allowing, parameters_allowing]
  rfl

/-- What the solver remembers before an attempt does not depend on the allowance. -/
theorem memoryBefore_allowing (i : Nat) : (r.allowing n).memoryBefore scan previous memory i =
    r.memoryBefore scan previous memory i := by
  induction i with
  | zero => rfl
  | succ i ih =>
      rw [memoryBefore, memoryBefore, ih, question_allowing]
      rfl

/-- **The result of an attempt** does not depend on how many are allowed. -/
theorem result_allowing (i : Nat) : (r.allowing n).result scan previous memory i =
    r.result scan previous memory i := by
  rw [result, result, answer, answer, memoryBefore_allowing, question_allowing]
  rfl

/-- Whether an attempt decides does not depend on the allowance. -/
theorem decides_allowing (i : Nat) : (r.allowing n).decides scan previous memory i =
    r.decides scan previous memory i := by
  rw [decides, decides, result_allowing]
  rfl

/-- What the attempts find does not depend on the allowance. -/
theorem candidates_allowing (i : Nat) : (r.allowing n).candidates scan previous memory i =
    r.candidates scan previous memory i := by
  simp only [candidates, result_allowing]

/-- An attempt that decides is stopped at whatever the number allowed, if it is allowed at all. -/
theorem StopsAt.allowing (h : (r.allowing n).StopsAt scan previous memory i)
    (hrobust : r.options.robust = true) (hdecides : r.decides scan previous memory i = true)
    (hlt : i < m) : (r.allowing m).StopsAt scan previous memory i where
  lt_maxAttempts := by
    rw [maxAttempts_allowing hrobust]
    exact hlt
  undecided j hj := by
    rw [decides_allowing, ← decides_allowing (n := n)]
    exact h.undecided j hj
  stops := .inl ((decides_allowing i).trans hdecides)

/-- **The report of an attempt that decides** is the same whatever the number allowed. -/
theorem Reports.allowing (h : (r.allowing n).Reports scan previous memory i summary)
    (hdecides : r.decides scan previous memory i = true) :
    (r.allowing m).Reports scan previous memory i summary where
  attempts_eq := h.attempts_eq
  thinned_eq := h.thinned_eq
  keypoints_eq := by rw [h.keypoints_eq, keypoints_allowing, keypoints_allowing]
  isSuccess_eq := by rw [h.isSuccess_eq, result_allowing, result_allowing]
  failure_eq := by
    rw [h.failure_eq, failureAt_of_decides ((decides_allowing i).trans hdecides),
      failureAt_of_decides ((decides_allowing i).trans hdecides), result_allowing,
      result_allowing]
  motion_eq := by
    rw [h.motion_eq, candidates_allowing, candidates_allowing]
  assessment_eq := by
    rw [h.assessment_eq, candidates_allowing, candidates_allowing]
  saturation_eq := by
    rw [h.saturation_eq, result_allowing, result_allowing]
    rfl
  corrected_eq := h.corrected_eq
  allCorrected_eq := h.allCorrected_eq

/-! ### The questions asked -/

/-- **What a pure solver is asked** does not depend on the session. -/
theorem asked_eq (hpure : r.solver.IsPure) (scan : Scan α) (session session' : Session σ) :
    r.asked scan session = r.asked scan session' :=
  (respects_register (r := r.logged) hpure.respects_logged scan
    ⟨(session.memory, []), session.sampler⟩ ⟨(session'.memory, []), session'.sampler⟩ rfl).2

/-- A scan without points is not asked about. -/
theorem asked_of_nil (hpoints : scan.points = []) (session : Session σ) :
    r.asked scan session = [] := by
  rw [asked, register_of_nil hpoints]

/-- Neither is a first scan. -/
theorem asked_of_first (hpoints : scan.points ≠ []) (hprevious : scan.previous = none)
    (session : Session σ) : r.asked scan session = [] := by
  obtain ⟨sampler, heq⟩ := register_of_first (r := r.logged) hpoints hprevious
    ⟨(session.memory, []), session.sampler⟩
  rw [asked, heq]

/-- The questions of any other scan are those of the attempts up to the one that registration
stops at. -/
theorem register_asks (hpoints : scan.points ≠ []) (hprevious : scan.previous = some previous)
    (hattempts : 0 < r.options.maxAttempts) (session : Session σ) :
    ∃ i, r.StopsAt scan previous session.memory i ∧
      r.Reports scan previous session.memory i (r.register scan session).1 ∧
      r.asked scan session = (List.range (i + 1)).map (r.question scan previous) := by
  obtain ⟨i, hstops, hreports, -⟩ := register_reports hpoints hprevious hattempts session
  obtain ⟨j, hstops', -, hmemory⟩ := register_reports (r := r.logged) hpoints hprevious
    hattempts ⟨(session.memory, []), session.sampler⟩
  obtain rfl : i = j := stopsAt_unique hstops (stopsAt_logged hstops')
  refine ⟨i, hstops, hreports, ?_⟩
  rw [asked, hmemory, memoryBefore_logged]

/-! ### More attempts -/

/-- An attempt that robust registration reports decides exactly if the scan is decided. -/
theorem Reports.decides_iff (h : r.Reports scan previous memory i summary)
    (hrobust : r.options.robust = true) :
    r.decides scan previous memory i = true ↔
      ∀ attempts last, summary.failure ≠ some (.exhausted attempts last) := by
  rw [h.failure_eq]
  constructor
  · intro hdecides attempts last hfailure
    rw [failureAt_of_decides hdecides] at hfailure
    exact Outcome.isSingle_of_cause? hfailure
  · intro hfailure
    by_contra hdecides
    obtain ⟨last, hlast⟩ := failureAt_of_undecided hrobust (eq_false_of_ne_true hdecides)
    exact hfailure _ _ hlast

/-- A scan is decided unless its attempts are used up. -/
theorem Ends.isDecided_iff (h : r.Ends scan memory summary) : summary.IsDecided ↔
    ∀ attempts last, summary.failure ≠ some (.exhausted attempts last) := by
  rw [Summary.IsDecided, h.isSuccess_iff]
  cases summary.failure with
  | none => simp
  | some error => simp

/-- Two allowances ask the same of the solver, attempt by attempt. -/
theorem question_allowing_eq (n m : Nat) :
    (r.allowing n).question scan previous = (r.allowing m).question scan previous := by
  funext i
  rw [question_allowing, question_allowing]

/-- **A scan that is decided** is decided alike, and nothing further is asked, if more attempts are
allowed. -/
theorem register_allowing_of_isDecided (hrobust : r.options.robust = true) (hn : 1 ≤ n)
    (hnm : n ≤ m) (scan : Scan α) (session : Session σ)
    (h : ((r.allowing n).register scan session).1.IsDecided) :
    ((r.allowing m).register scan session).1 = ((r.allowing n).register scan session).1 ∧
      (r.allowing m).asked scan session = (r.allowing n).asked scan session := by
  by_cases hpoints : scan.points = []
  · rw [register_of_nil hpoints, register_of_nil hpoints, asked_of_nil hpoints,
      asked_of_nil hpoints]
    exact ⟨rfl, rfl⟩
  cases hprevious : scan.previous with
  | none =>
      obtain ⟨_, hfew⟩ := register_of_first (r := r.allowing n) hpoints hprevious session
      obtain ⟨_, hmore⟩ := register_of_first (r := r.allowing m) hpoints hprevious session
      rw [hfew, hmore, asked_of_first hpoints hprevious, asked_of_first hpoints hprevious]
      exact ⟨rfl, rfl⟩
  | some previous =>
      obtain ⟨i, hstops, hreports, hasked⟩ := register_asks (r := r.allowing n) hpoints hprevious
        hn session
      obtain ⟨j, hstops', hreports', hasked'⟩ := register_asks (r := r.allowing m) hpoints
        hprevious (Nat.le_trans hn hnm) session
      -- the attempt that stops has decided, which it does under any allowance
      have hdecides : r.decides scan previous session.memory i = true := by
        rw [← decides_allowing (n := n), hreports.decides_iff hrobust]
        exact (register_ends (r := r.allowing n) hn scan session).isDecided_iff.mp h
      have hlt : i < m := by
        have hmax := hstops.lt_maxAttempts
        rw [maxAttempts_allowing hrobust] at hmax
        omega
      obtain rfl := stopsAt_unique hstops' (hstops.allowing hrobust hdecides hlt)
      refine ⟨hreports'.eq (hreports.allowing hdecides), ?_⟩
      rw [hasked, hasked', question_allowing_eq m n]

/-- None of the attempts decides if they are used up. -/
theorem StopsAt.undecided_of_exhausted (hstops : (r.allowing n).StopsAt scan previous memory i)
    (hreports : (r.allowing n).Reports scan previous memory i summary)
    (hrobust : r.options.robust = true) {attempts : Nat} {last : RegistrationError (Rejection α)}
    (h : summary.failure = some (.exhausted attempts last)) :
    i + 1 = n ∧ ∀ k < n, r.decides scan previous memory k = false := by
  have hdecides : (r.allowing n).decides scan previous memory i = false := by
    refine eq_false_of_ne_true fun hdecides => ?_
    exact (hreports.decides_iff hrobust).mp hdecides _ _ h
  have hlast : i + 1 = n := by
    rcases hstops.stops with hdecides' | hlast
    · rw [hdecides] at hdecides'
      cases hdecides'
    · exact hlast.trans (maxAttempts_allowing hrobust)
  refine ⟨hlast, fun k hk => ?_⟩
  rw [← hlast] at hk
  rw [← decides_allowing (n := n)]
  rcases Nat.lt_succ_iff_lt_or_eq.mp hk with hlt | rfl
  · exact hstops.undecided k hlt
  · exact hdecides

/-- Registration does not stop before an attempt decides, unless no more are allowed. -/
theorem StopsAt.le_of_undecided (hstops : (r.allowing m).StopsAt scan previous memory i)
    (hrobust : r.options.robust = true)
    (hundecided : ∀ k < n, r.decides scan previous memory k = false) :
    n ≤ i ∨ i + 1 = m := by
  rcases hstops.stops with hdecides | hlast
  · left
    by_contra hlt
    rw [decides_allowing, hundecided i (Nat.lt_of_not_le hlt)] at hdecides
    cases hdecides
  · exact .inr (hlast.trans (maxAttempts_allowing hrobust))

/-- **A scan that uses up its attempts** is asked about as often, and in the same way at first if
more attempts are allowed. -/
theorem asked_allowing_of_exhausted (hrobust : r.options.robust = true) (hn : 1 ≤ n) (hnm : n ≤ m)
    (scan : Scan α) (session : Session σ) {attempts : Nat}
    {last : RegistrationError (Rejection α)}
    (h : ((r.allowing n).register scan session).1.failure = some (.exhausted attempts last)) :
    ((r.allowing n).asked scan session).length = n ∧
      (r.allowing n).asked scan session <+: (r.allowing m).asked scan session ∧
      (n < m → n < ((r.allowing m).register scan session).1.attempts) := by
  by_cases hpoints : scan.points = []
  · rw [register_of_nil hpoints] at h
    cases h
  cases hprevious : scan.previous with
  | none =>
      obtain ⟨_, hfew⟩ := register_of_first (r := r.allowing n) hpoints hprevious session
      rw [hfew] at h
      cases h
  | some previous =>
      obtain ⟨i, hstops, hreports, hasked⟩ := register_asks (r := r.allowing n) hpoints hprevious
        hn session
      obtain ⟨j, hstops', hreports', hasked'⟩ := register_asks (r := r.allowing m) hpoints
        hprevious (Nat.le_trans hn hnm) session
      obtain ⟨hlast, hundecided⟩ := hstops.undecided_of_exhausted hreports hrobust h
      -- no attempt of the first allowance decides, so the second goes on at least as far
      have hlater := hstops'.le_of_undecided hrobust hundecided
      refine ⟨?_, ?_, fun hlt => ?_⟩
      · rw [hasked, List.length_map, List.length_range, hlast]
      · rw [hasked, hasked', question_allowing_eq n m,
          ← Nat.min_eq_left (show i + 1 ≤ j + 1 by omega), ← List.take_range]
        exact (List.take_prefix _ _).map _
      · rw [hreports'.attempts_eq]
        omega

/-- **Allowing more attempts never changes an earlier decision.** With a pure solver, a scan that
`n` attempts decide has the same summary, and the same questions are asked about it, if `m` are
allowed; and a scan that uses up `n` attempts is asked `n` questions about, which are the first ones
again if `m` are allowed, and takes more than `n` attempts if `m` is larger. The sessions before the
two registrations may differ. -/
theorem allowance_is_only_a_bound (hpure : r.solver.IsPure) (hrobust : r.options.robust = true)
    (hn : 1 ≤ n) (hnm : n ≤ m) (scan : Scan α) (session session' : Session σ) :
    let few := ((r.allowing n).register scan session).1
    let more := ((r.allowing m).register scan session').1
    (few.IsDecided → more = few ∧
      (r.allowing m).asked scan session' = (r.allowing n).asked scan session) ∧
      ∀ attempts last, few.failure = some (.exhausted attempts last) →
        ((r.allowing n).asked scan session).length = n ∧
          (r.allowing n).asked scan session <+: (r.allowing m).asked scan session' ∧
          (n < m → n < more.attempts) := by
  intro few more
  have hmore : more = ((r.allowing m).register scan session).1 :=
    oblivious_register (r := r.allowing m) hpure scan session' session
  have hasked : (r.allowing m).asked scan session' = (r.allowing m).asked scan session :=
    asked_eq (r := r.allowing m) hpure scan session' session
  rw [hmore, hasked]
  refine ⟨register_allowing_of_isDecided hrobust hn hnm scan session, fun attempts last h => ?_⟩
  exact asked_allowing_of_exhausted hrobust hn hnm scan session h

/-- With a solver that always fails, a third attempt is made after two have been used up. -/
theorem allowance_is_only_a_bound_third_attempt :
    let r : Registrar Unit Float :=
      ⟨.slowOutdoor, .standard, .pure fun _ _ => .error .degenerate, .empty 1 20⟩
    let scan : Scan Float := ⟨[.untimed ⟨1, 0, 0⟩], .identity, some .identity, 1, 0.8, 1.5⟩
    ((r.allowing 2).asked scan ⟨(), .fresh⟩).length = 2 ∧
      (r.allowing 2).asked scan ⟨(), .fresh⟩ <+: (r.allowing 10).asked scan ⟨(), .fresh⟩ ∧
      2 < ((r.allowing 10).register scan ⟨(), .fresh⟩).1.attempts := by
  intro r scan
  have hused : ((r.allowing 2).register scan ⟨(), .fresh⟩).1.failure =
      some (.exhausted 2 (.unsolved .degenerate)) := rfl
  have hbound := (allowance_is_only_a_bound (r := r) (Solver.isPure_pure _) rfl
    (by decide : 1 ≤ 2) (by decide : 2 ≤ 10) scan ⟨(), .fresh⟩ ⟨(), .fresh⟩).2 _ _ hused
  exact ⟨hbound.1, hbound.2.1, hbound.2.2 (by decide)⟩

end Registrar

end LidarOdometry
