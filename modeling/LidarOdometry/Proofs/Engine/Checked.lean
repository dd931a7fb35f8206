import LidarOdometry.Proofs.Engine.Run
import LidarOdometry.Proofs.Solver.Checked

/-!
# Runs with Checked Sums

An engine adds counts while it registers a scan, and its solver adds cells. If both sums are checked
a call may come to nothing. If it does not, then it is the call of an engine whose sums are not
checked: the summary is the same, and so is what the engine keeps. By induction on the calls this
holds of runs, so that whatever is proved of runs holds of all that come to an end with checked
sums.

## Main definitions

* `SessionT.AgreesWith`: computations within a session that have the same result, if any.
* `Registrar.withSolver`, `Engine.withSolver`: the same with another solver.
* `Engine.callBy`, `Engine.runBy`: calls with any kind of sum.

## Main results

* `Registrar.agrees_registerBy`: the registration of a scan.
* `Engine.checked_run_agrees`: runs of an engine with checked sums.
-/

namespace LidarOdometry

variable {σ α β γ : Type}

/-! ### Computations within sessions -/

namespace SessionT

/-- A computation with checked sums **agrees with** one without, if in every session it has the same
result and leaves the same session, as far as it comes to an end. -/
def AgreesWith (checked : SessionT σ Option β) (c : SessionM σ β) : Prop :=
  ∀ session, Agrees (checked session) (c session)

/-- A result that is given agrees with itself. -/
theorem AgreesWith.pure (b : β) : AgreesWith (σ := σ) (Pure.pure b) (Pure.pure b) :=
  fun _ => .pure _

/-- A computation without a session agrees if its result does. -/
theorem AgreesWith.lift {x : Option β} {y : Id β} (h : Agrees x y) :
    AgreesWith (σ := σ) (liftM x) (liftM y) :=
  fun _ => h.bind fun _ => .pure _

/-- **One computation after another**, the session being handed on. -/
theorem AgreesWith.bind {checked : SessionT σ Option β} {c : SessionM σ β}
    {f : β → SessionT σ Option γ} {g : β → SessionM σ γ} (hc : checked.AgreesWith c)
    (hf : ∀ b, (f b).AgreesWith (g b)) : AgreesWith (checked >>= f) (c >>= g) := by
  intro session
  exact Agrees.bind (y := c session) (f := fun ended => f ended.1 ended.2)
    (g := fun ended => g ended.1 ended.2) (hc session) fun ended => hf ended.1 ended.2

/-- A decision agrees if both its branches do. -/
theorem AgreesWith.ite {p : Prop} [Decidable p] {checked checked' : SessionT σ Option β}
    {c c' : SessionM σ β} (h : checked.AgreesWith c) (h' : checked'.AgreesWith c') :
    AgreesWith (if p then checked else checked') (if p then c else c') := by
  split
  · exact h
  · exact h'

/-- The sampler adds nothing. -/
theorem AgreesWith.sample [Scalar α] (size : α) (points : List (ScanPoint α)) :
    AgreesWith (σ := σ) (SessionT.sample size points) (SessionT.sample size points) :=
  fun _ => .pure _

/-- A question to solvers that agree. -/
theorem AgreesWith.solve {checked : Solver σ α Option} {solver : Solver σ α}
    (h : checked.AgreesWith solver) (problem : Problem α) (options : SolverOptions α) :
    (SessionT.solve checked problem options).AgreesWith (SessionT.solve solver problem options) :=
  fun session => (h problem options session.memory).bind fun _ => .pure _

end SessionT

/-! ### Registration -/

namespace Registrar

open SessionT

variable {M N : Type → Type} [Scalar α]

omit [Scalar α] in
/-- The same registrar with another solver. -/
def withSolver (r : Registrar σ α M) (solver : Solver σ α N) : Registrar σ α N :=
  ⟨r.options, r.baseOptions, solver, r.map⟩

variable {r : Registrar σ α Option} {solver : Solver σ α} {scan : Scan α}

/-- One attempt: only its solver adds cells. -/
theorem agrees_outcome (hsolver : r.solver.AgreesWith solver) (scan : Scan α)
    (previous : ScanMotion α) (attempt : Attempt α) :
    (r.outcome scan previous attempt).AgreesWith
      ((r.withSolver solver).outcome scan previous attempt) :=
  .bind (.sample _ _) fun _ => .bind (.solve hsolver _ _) fun _ => .pure _

/-- The parameters of the next attempt: two counts are raised. -/
theorem agrees_nextBy (attempt : Attempt α) (maxNeighborhood : Nat) (thinningSize : α) :
    Agrees (attempt.nextBy Count.checked maxNeighborhood thinningSize)
      (attempt.next maxNeighborhood thinningSize) :=
  .bind (Count.agrees_checked _ _) fun _ => .bind (Count.agrees_checked _ _) fun _ => .pure _

/-- **Attempts with checked sums.** The induction is on the attempts left. -/
theorem agrees_attemptsBy (hsolver : r.solver.AgreesWith solver) (scan : Scan α)
    (previous : ScanMotion α) (remaining number : Nat) (attempt : Attempt α)
    (summary : Summary α) (last : Option (RegistrationError (Rejection α))) :
    (r.attemptsBy Count.checked scan previous remaining number attempt summary last).AgreesWith
      ((r.withSolver solver).attempts scan previous remaining number attempt summary last) := by
  -- on the attempts that are left, one sum and one answer at a time
  induction remaining generalizing number attempt summary last with
  | zero => exact .pure _
  | succ remaining ih =>
      rw [attempts, attemptsBy, attemptsBy]
      refine .bind (.lift (Count.agrees_checked _ _)) fun number =>
        .bind (agrees_outcome hsolver scan previous attempt) fun drawn => ?_
      obtain ⟨keypoints, outcome⟩ := drawn
      have hnext := agrees_nextBy attempt r.options.maxNeighborhood scan.thinningSize
      cases outcome with
      | accepted registered assessment => exact .pure _
      | rejected registered assessment reason =>
          exact .ite (.pure _) (.bind (.lift hnext) fun next => ih number next _ _)
      | unsolved cause => exact .bind (.lift hnext) fun next => ih number next _ _

/-- **The registration of a scan with checked sums.** -/
theorem agrees_registerBy (hsolver : r.solver.AgreesWith solver) (scan : Scan α) :
    (r.registerBy Count.checked scan).AgreesWith ((r.withSolver solver).register scan) := by
  have hsettled : (r.withSolver solver).settled scan = r.settled scan := rfl
  rw [register, registerBy, registerBy, hsettled]
  refine .ite (.pure _) ?_
  dsimp only
  cases (r.settled scan).previous with
  | none => exact .bind (.sample _ _) fun _ => .pure _
  | some previous => exact agrees_attemptsBy hsolver _ _ _ _ _ _ _

end Registrar

/-! ### Engines -/

namespace Engine

variable {M N : Type → Type} [Scalar α]

omit [Scalar α] in
/-- The same engine with another solver. -/
def withSolver (e : Engine σ α M) (solver : Solver σ α N) : Engine σ α N :=
  ⟨e.options, solver, e.session, e.trajectory, e.map⟩

/-- **What the engine does with a scan**, with any kind of sum. -/
def callBy [Monad M] (e : Engine σ α M) (plus : Nat → Nat → M Nat) :
    ScanCall α → M (Summary α × Engine σ α M)
  | .predicted points => e.registerBy plus points
  | .guessed points guess => e.registerFromBy plus points guess

/-- **Calls one after another**, with any kind of sum: their summaries, and the engine after
them. -/
def runBy [Monad M] (plus : Nat → Nat → M Nat) :
    Engine σ α M → List (ScanCall α) → M (List (Summary α) × Engine σ α M)
  | e, [] => return ([], e)
  | e, c :: calls => do
      let (summary, e) ← e.callBy plus c
      let (summaries, e) ← runBy plus e calls
      return (summary :: summaries, e)

variable {e ended : Engine σ α Option} {solver : Solver σ α} {points : List (ScanPoint α)}
  {guess : ScanMotion α} {summary : Summary α}

/-- The registration of a scan, thinned and placed. -/
theorem agrees_registrationBy (hsolver : e.solver.AgreesWith solver)
    (points : List (ScanPoint α)) (guess : ScanMotion α) :
    (e.registrationBy Count.checked points guess).AgreesWith
      ((e.withSolver solver).registrationBy Count.exact points guess) :=
  .bind (.sample _ _) fun _ => .bind (Registrar.agrees_registerBy hsolver _) fun _ => .pure _

/-- **A registration with checked sums** keeps what one without keeps. -/
theorem registerFrom_of_checked (hsolver : e.solver.AgreesWith solver)
    (h : e.registerFromBy Count.checked points guess = some (summary, ended)) :
    (e.withSolver solver).registerFrom points guess = (summary, ended.withSolver solver) ∧
      ended.solver = e.solver := by
  obtain ⟨⟨registered, session⟩, hregistered, h⟩ := Option.bind_eq_some_iff.mp h
  have hsame := agrees_registrationBy hsolver points guess e.session _ hregistered
  have hresult : (e.withSolver solver).registerFrom points guess =
      let run := (e.withSolver solver).registrationBy Count.exact points guess e.session
      (run.1, if run.1.isSuccess then { e.withSolver solver with session := run.2 }.keep run.1
        else { e.withSolver solver with session := run.2 }) := rfl
  obtain ⟨rfl, rfl⟩ := Prod.mk.inj (Option.some.inj h)
  rw [hresult, ← hsame]
  dsimp only
  split <;> exact ⟨rfl, rfl⟩

/-- **A call with checked sums.** -/
theorem call_of_checked {c : ScanCall α} (hsolver : e.solver.AgreesWith solver)
    (h : e.callBy Count.checked c = some (summary, ended)) :
    (e.withSolver solver).call c = (summary, ended.withSolver solver) ∧
      ended.solver = e.solver := by
  cases c with
  | predicted points => exact registerFrom_of_checked hsolver h
  | guessed points guess => exact registerFrom_of_checked hsolver h

/-- **A run with checked sums.** The induction is on the calls. -/
theorem run_of_checked {calls : List (ScanCall α)} {summaries : List (Summary α)}
    (hsolver : e.solver.AgreesWith solver)
    (h : runBy Count.checked e calls = some (summaries, ended)) :
    summaries = ((e.withSolver solver).history calls).map Prod.snd ∧
      ended.withSolver solver = (e.withSolver solver).after calls := by
  induction calls generalizing e summaries with
  | nil =>
      obtain ⟨rfl, rfl⟩ := Prod.mk.inj (Option.some.inj h)
      exact ⟨rfl, rfl⟩
  | cons c calls ih =>
      obtain ⟨⟨summary, next⟩, hcall, h⟩ := Option.bind_eq_some_iff.mp h
      obtain ⟨⟨later, last⟩, hrun, h⟩ := Option.bind_eq_some_iff.mp h
      obtain ⟨rfl, rfl⟩ := Prod.mk.inj (Option.some.inj h)
      obtain ⟨hsame, hnext⟩ := call_of_checked hsolver hcall
      obtain ⟨hsummaries, hended⟩ := ih (hnext ▸ hsolver) hrun
      rw [history, after_cons, hsame, List.map_cons, ← hsummaries]
      exact ⟨rfl, hended⟩

/-- **Whatever a run with checked sums comes to is what a run comes to.** If a new engine with the
point-to-plane solver, all sums of cells and counts being checked, gets through its calls, then the
engine without checks gives the same summaries and ends with the same trajectory and map. -/
theorem checked_run_agrees [EigenSolver α] {options : OdometryOptions α}
    {e ended : Engine Unit α Option} {calls : List (ScanCall α)} {summaries : List (Summary α)}
    (hnew : ofOptions options (PointToPlane.registerBy Word.checked) () = .ok e)
    (hrun : runBy Count.checked e calls = some (summaries, ended)) :
    ∃ e₀, ofOptions options PointToPlane.register () = .ok e₀ ∧
      summaries = (e₀.history calls).map Prod.snd ∧
      ended.trajectory = (e₀.after calls).trajectory ∧ ended.map = (e₀.after calls).map := by
  cases hvalid : options.validate with
  | error fault =>
      rw [ofOptions, hvalid] at hnew
      cases hnew
  | ok =>
      rw [ofOptions, hvalid] at hnew
      cases hnew
      obtain ⟨hsummaries, hended⟩ := run_of_checked PointToPlane.agreesWith_registerBy hrun
      refine ⟨_, ?_, hsummaries, congrArg (·.trajectory) hended, congrArg (·.map) hended⟩
      rw [ofOptions, hvalid]
      rfl

end Engine

end LidarOdometry
