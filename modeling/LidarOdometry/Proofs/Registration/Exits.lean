import LidarOdometry.Proofs.Registration.Attempts
import LidarOdometry.Proofs.Scan.Sampler

/-!
# How a Registration Ends

A registration has three exits. A scan without points is refused at once; a first scan is accepted
at its guess; and every other scan ends with the report of the attempt that registration stops at.
Only the third asks the solver. Whatever is said of all summaries is said of each of these three
(`Registrar.Ends`), and not of the loop again.

The failure of a scan whose attempts are used up names the cause of the last one. That cause is
the failure of a single attempt, so that failures are never nested more than once.

## Main definitions

* `RegistrationError.IsSingle`: failures of a single attempt.
* `Registrar.refused`, `Registrar.founded`: the summaries of scans that are not attempted.
* `Registrar.Ends`: the three exits, with the summary that each leaves.

## Main results

* `Registrar.register_of_nil`, `Registrar.register_of_first`: the exits that do not ask the solver.
* `Registrar.register_ends`: there are no others.
* `Registrar.failureAt_eq`: what the report of an attempt names as the failure.
* `Registrar.Ends.isSuccess_iff`, `Registrar.Ends.of_exhausted`,
  `Registrar.Ends.tooFewKeypoints_iff`: which failures belong to which exits.
-/

namespace LidarOdometry

variable {σ α : Type}

/-! ### Failures -/

/-- **Failures of a single attempt**: the solver failed, or its answer was rejected. -/
def RegistrationError.IsSingle {ρ : Type} : RegistrationError ρ → Prop
  | unsolved _ | rejected _ => True
  | tooFewKeypoints _ _ | exhausted _ _ => False

/-- Every failure has a wording. -/
theorem RegistrationError.message_ne_empty {ρ : Type} (write : ρ → String)
    (error : RegistrationError ρ) : error.message write ≠ "" := by
  unfold message
  cases error <;> simp

/-- A summary has a wording exactly if it has a failure. -/
theorem Summary.message_eq_empty_iff {summary : Summary α} (write : α → String) :
    summary.message write = "" ↔ summary.failure = none := by
  rw [message]
  cases hfailure : summary.failure with
  | none => simp
  | some error => simp [RegistrationError.message_ne_empty]

namespace Outcome

variable {outcome : Outcome α}

/-- An attempt has a cause of failure exactly if it is not accepted. -/
theorem cause?_eq_none_iff : outcome.cause? = none ↔ outcome.isAccepted = true := by
  cases outcome <;> simp [cause?, isAccepted]

/-- That cause is the failure of a single attempt. -/
theorem isSingle_of_cause? {error : RegistrationError (Rejection α)}
    (h : outcome.cause? = some error) : error.IsSingle := by
  cases outcome with
  | accepted registered assessment => cases h
  | rejected registered assessment reason =>
      cases h
      trivial
  | unsolved cause =>
      cases h
      trivial

end Outcome

namespace Registrar

variable [Scalar α] {r : Registrar σ α} {scan : Scan α} {previous : ScanMotion α} {memory : σ}
  {i n : Nat} {summary : Summary α} {last : RegistrationError (Rejection α)}

/-- **The failure that the report of an attempt names**: in robust registration an attempt that
does not decide has used up all that were allowed. -/
theorem failureAt_eq : r.failureAt scan previous memory i =
    if r.options.robust && !r.decides scan previous memory i then
      (r.result scan previous memory i).cause?.map (.exhausted r.maxAttempts)
    else (r.result scan previous memory i).cause? := by
  rw [failureAt, decides]
  cases haccepted : (r.result scan previous memory i).isAccepted with
  | false => rfl
  | true =>
      rw [Outcome.cause?_eq_none_iff.mpr haccepted]
      simp

/-- An attempt that decides is reported with what it failed for, if it did. -/
theorem failureAt_of_decides (h : r.decides scan previous memory i = true) :
    r.failureAt scan previous memory i = (r.result scan previous memory i).cause? := by
  rw [failureAt_eq, h, Bool.not_true, Bool.and_false]
  rfl

/-- Robust registration that does not decide has used up its attempts. -/
theorem failureAt_of_undecided (hrobust : r.options.robust = true)
    (h : r.decides scan previous memory i = false) : ∃ last,
      r.failureAt scan previous memory i = some (.exhausted r.maxAttempts last) := by
  have hcause : (r.result scan previous memory i).cause? ≠ none := by
    rw [Ne, Outcome.cause?_eq_none_iff]
    rw [decides, Bool.or_eq_false_iff] at h
    exact ne_true_of_eq_false h.1
  obtain ⟨last, hlast⟩ := Option.ne_none_iff_exists'.mp hcause
  rw [failureAt_eq, hrobust, h, hlast]
  exact ⟨last, rfl⟩

/-! ### The three exits -/

/-- The summary of a scan without points. -/
def refused (r : Registrar σ α) (scan : Scan α) : Summary α :=
  { Summary.initial scan.guess scan.points.length with
    failure := some (.tooFewKeypoints 0 (max r.options.minKeypoints 1)) }

/-- The summary of a first scan. -/
def founded (r : Registrar σ α) (scan : Scan α) : Summary α :=
  r.placed scan { Summary.initial scan.guess scan.points.length with
    keypoints := (Sampler.thin scan.keypointSize scan.points).length
    isSuccess := true }

/-- **A scan without points** is refused, and the session stays as it is. -/
theorem register_of_nil (hpoints : scan.points = []) (session : Session σ) :
    r.register scan session = (r.refused scan, session) := by
  rw [register, registerBy, if_pos (List.isEmpty_iff.mpr hpoints)]
  rfl

/-- The motion of a first scan is not undone. -/
theorem settled_of_first (hprevious : scan.previous = none) : r.settled scan = scan := by
  rw [settled, hprevious]
  exact if_neg fun h => absurd h.2 Bool.false_ne_true

/-- **A first scan** is accepted at its guess, and the solver remembers what it did. -/
theorem register_of_first (hpoints : scan.points ≠ []) (hprevious : scan.previous = none)
    (session : Session σ) : ∃ sampler,
      r.register scan session = (r.founded scan, { session with sampler }) := by
  have hempty : ¬ scan.points.isEmpty = true := fun h => hpoints (List.isEmpty_iff.mp h)
  rw [register, registerBy, if_neg hempty]
  simp only [settled_of_first hprevious, hprevious]
  exact ⟨_, rfl⟩

variable (r scan memory) in
/-- **How a registration ends**, with the summary that it leaves. -/
inductive Ends : Summary α → Prop
  /-- The scan has no points. -/
  | empty : scan.points = [] → Ends (r.refused scan)
  /-- The scan is the first. -/
  | first : scan.points ≠ [] → scan.previous = none → Ends (r.founded scan)
  /-- The scan was attempted up to attempt `i`. -/
  | attempted {previous : ScanMotion α} {i : Nat} {summary : Summary α} :
      scan.points ≠ [] → scan.previous = some previous → r.StopsAt scan previous memory i →
      r.Reports scan previous memory i summary → Ends summary

/-- **Every registration ends** in one of the three ways. -/
theorem register_ends (hattempts : 0 < r.options.maxAttempts) (scan : Scan α)
    (session : Session σ) : r.Ends scan session.memory (r.register scan session).1 := by
  by_cases hpoints : scan.points = []
  · rw [register_of_nil hpoints]
    exact .empty hpoints
  · cases hprevious : scan.previous with
    | none =>
        obtain ⟨sampler, heq⟩ := register_of_first (r := r) hpoints hprevious session
        rw [heq]
        exact .first hpoints hprevious
    | some previous =>
        obtain ⟨i, hstops, hreports, -⟩ := register_reports hpoints hprevious hattempts session
        exact .attempted hpoints hprevious hstops hreports

/-! ### What all summaries have in common -/

/-- Undoing the motion keeps every point. -/
theorem length_undone : (r.undone scan).length = scan.points.length := by
  rw [undone]
  split
  · rw [ScanMotion.settle, List.length_map]
  · rfl

namespace Ends

/-- The summary counts the points of the scan. -/
theorem thinned_eq (h : r.Ends scan memory summary) : summary.thinned = scan.points.length := by
  cases h with
  | empty _ => rfl
  | first _ _ => rfl
  | attempted _ _ _ hreports => exact hreports.thinned_eq

/-- **Every point of the thinned scan is placed.** -/
theorem length_corrected (h : r.Ends scan memory summary) :
    summary.corrected.length = scan.points.length := by
  cases h with
  | empty hpoints =>
      rw [hpoints]
      rfl
  | first _ _ => exact List.length_map _
  | attempted _ _ _ hreports =>
      rw [hreports.corrected_eq, ScanMotion.place, List.length_map, length_undone]

/-- **Keypoints are drawn** from a scan that has points: at least one, and no more than these. -/
theorem keypoints_of_ne_nil (h : r.Ends scan memory summary) (hpoints : scan.points ≠ []) :
    1 ≤ summary.keypoints ∧ summary.keypoints ≤ scan.points.length := by
  have hdrawn (size : α) {points : List (ScanPoint α)}
      (hlength : points.length = scan.points.length) :
      1 ≤ (Sampler.thin size points).length ∧
        (Sampler.thin size points).length ≤ scan.points.length := by
    have hne : points ≠ [] := by
      rw [← List.length_pos_iff, hlength]
      exact List.length_pos_iff.mpr hpoints
    refine ⟨List.length_pos_iff.mpr (Sampler.thin_ne_nil hne), ?_⟩
    rw [← hlength]
    exact Sampler.length_thin_le size points
  cases h with
  | empty hnil => exact absurd hnil hpoints
  | first _ _ => exact hdrawn _ rfl
  | attempted _ _ _ hreports =>
      rw [hreports.keypoints_eq]
      exact hdrawn _ length_undone

/-- **Attempts are counted** from one up to the most that are allowed. -/
theorem attempts_le (h : r.Ends scan memory summary) (hattempts : 0 < r.options.maxAttempts) :
    1 ≤ summary.attempts ∧ summary.attempts ≤ r.maxAttempts := by
  cases h with
  | empty _ => exact ⟨Nat.le_refl 1, maxAttempts_pos hattempts⟩
  | first _ _ => exact ⟨Nat.le_refl 1, maxAttempts_pos hattempts⟩
  | attempted _ _ hstops hreports =>
      rw [hreports.attempts_eq]
      exact ⟨Nat.succ_pos _, hstops.lt_maxAttempts⟩

/-- **A scan is accepted** exactly if there is no failure. -/
theorem isSuccess_iff (h : r.Ends scan memory summary) :
    summary.isSuccess = true ↔ summary.failure = none := by
  cases h with
  | empty _ => simp [refused, Summary.initial]
  | first _ _ => simp [founded, placed, Summary.initial]
  | @attempted previous i _ _ _ _ hreports =>
      rw [hreports.isSuccess_eq, hreports.failure_eq, failureAt_eq, ← Outcome.cause?_eq_none_iff]
      split
      · rw [Option.map_eq_none_iff]
      · rfl

/-- **Attempts are used up** only in robust registration, when the last one allowed has failed;
the failure names how many there were, and what the last one failed for. -/
theorem of_exhausted (h : r.Ends scan memory summary)
    (hfailure : summary.failure = some (.exhausted n last)) :
    r.options.robust = true ∧ n = r.maxAttempts ∧ summary.attempts = n ∧ last.IsSingle := by
  cases h with
  | empty _ => cases hfailure
  | first _ _ => cases hfailure
  | @attempted previous i _ _ _ hstops hreports =>
      rw [hreports.failure_eq, failureAt_eq] at hfailure
      split at hfailure
      · next hused =>
          rw [Bool.and_eq_true, Bool.not_eq_true'] at hused
          obtain ⟨cause, hcause, heq⟩ := Option.map_eq_some_iff.mp hfailure
          obtain ⟨rfl, rfl⟩ := RegistrationError.exhausted.inj heq
          -- an attempt that does not decide stops only if it is the last
          have hlast : i + 1 = r.maxAttempts := by
            rcases hstops.stops with hdecides | hlast
            · rw [hused.2] at hdecides
              cases hdecides
            · exact hlast
          exact ⟨hused.1, rfl, hreports.attempts_eq.trans hlast,
            Outcome.isSingle_of_cause? hcause⟩
      · exact (Outcome.isSingle_of_cause? hfailure).elim

/-- **Too few keypoints** are reported exactly of scans without points. -/
theorem tooFewKeypoints_iff (h : r.Ends scan memory summary) {found required : Nat} :
    summary.failure = some (.tooFewKeypoints found required) ↔
      scan.points = [] ∧ found = 0 ∧ required = max r.options.minKeypoints 1 := by
  cases h with
  | empty hpoints =>
      simp only [refused, Option.some.injEq, RegistrationError.tooFewKeypoints.injEq, hpoints,
        true_and]
      exact and_congr eq_comm eq_comm
  | first hpoints _ =>
      refine ⟨fun hfailure => ?_, fun hnil => absurd hnil.1 hpoints⟩
      cases hfailure
  | @attempted previous i _ hpoints _ _ hreports =>
      refine ⟨fun hfailure => ?_, fun hnil => absurd hnil.1 hpoints⟩
      rw [hreports.failure_eq, failureAt_eq] at hfailure
      split at hfailure
      · obtain ⟨cause, -, heq⟩ := Option.map_eq_some_iff.mp hfailure
        cases heq
      · exact (Outcome.isSingle_of_cause? hfailure).elim

/-- A refused scan counts one attempt. -/
theorem attempts_of_nil (h : r.Ends scan memory summary) (hpoints : scan.points = []) :
    summary.attempts = 1 := by
  cases h with
  | empty _ => rfl
  | first hne _ => exact absurd hpoints hne
  | attempted hne _ _ _ => exact absurd hpoints hne

end Ends

end Registrar

end LidarOdometry
