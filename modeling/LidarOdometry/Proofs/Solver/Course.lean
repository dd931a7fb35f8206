import LidarOdometry.Proofs.Solver.Iteration

/-!
# The Course of the Solver

The solver makes round after round. In each it places the keypoints with the motion reached so far,
matches them, and makes a step from the matches; it stops after a step that is small, or when no
rounds are left, and fails where there are too few matches or no step. A *course* is the record of
some rounds in a row, told apart from the loop that makes them; what the solver returns is told by
its course: which motion, of how many residuals, and at which round it fails.

The keypoints are placed anew in every round. Placing reads raw coordinates and phases only, so
nothing of an earlier placement is left in a later one, and the keypoints that are returned lie
where the returned motion puts them.

## Main definitions

* `Problem.radius`, `Problem.tie`: what the solver searches, and what it ties the scan to.
* `Problem.found`: the residuals under a motion.
* `PointToPlane.Course`: a course of rounds.

## Main results

* `PointToPlane.register_eq`: the solver is its iteration, with the keypoints placed at the end.
* `PointToPlane.Round.iterate_succ`, `PointToPlane.Round.iterate_self`: one round, and a round that
  moves nothing.
* `PointToPlane.iterate_eq_ok_iff`, `PointToPlane.iterate_eq_error_iff`: what the iteration returns,
  by its course.
* `PointToPlane.register_tells_its_course`: what the solver returns.
-/

namespace LidarOdometry

variable {α : Type}

/-! ### Placing points again -/

/-- **Placing points again** leaves nothing of where they were placed before. -/
theorem ScanMotion.place_place [Scalar α] (m m' : ScanMotion α) (compensate compensate' : Bool)
    (points : List (ScanPoint α)) :
    m.place compensate (m'.place compensate' points) = m.place compensate points := by
  rw [place, place, List.map_map, place]
  rfl

/-! ### What the solver reads -/

namespace Problem

/-- The neighbourhood that is searched: at least two voxels wide while the map is young. -/
def radius (problem : Problem α) (options : SolverOptions α) : ℕ :=
  if problem.index < options.youngScans then max options.neighborhood 2 else options.neighborhood

/-- The scan that the motion is tied to: none while the map is young. -/
def tie (problem : Problem α) (options : SolverOptions α) : Option (ScanMotion α) :=
  if problem.index < options.youngScans then none else problem.previous

/-- **The residuals under a motion.** -/
def found [Scalar α] [EigenSolver α] (problem : Problem α) (options : SolverOptions α)
    (motion : ScanMotion α) : List (Residual α) :=
  PointToPlane.residuals problem.map (problem.radius options) options
    (motion.place options.compensate problem.keypoints)

end Problem

namespace PointToPlane

section Rounds

variable [Scalar α] [EigenSolver α] {problem : Problem α} {options : SolverOptions α}
  {start moved next : ScanMotion α} {size₀ : StepSize α} {e : SolverError} {m n count found : ℕ}
  {motion : ℕ → ScanMotion α} {size : ℕ → StepSize α}

/-! ### One round -/

/-- The iteration on a problem: at most `n` rounds from `start`. -/
def iterateOn (problem : Problem α) (options : SolverOptions α) (n : ℕ) (start : ScanMotion α)
    (count : ℕ) : Except SolverError (ScanMotion α × ℕ) :=
  iterate problem.map (problem.radius options) options problem.keypoints (problem.tie options) n
    start count

/-- **The solver is its iteration**, with the keypoints placed at the end. -/
theorem register_eq (problem : Problem α) (options : SolverOptions α) :
    (register problem options ()).1 =
      (iterateOn problem options options.iterations problem.guess 0).map fun (motion, count) =>
        ⟨motion, motion.place options.compensate problem.keypoints, count⟩ := by
  rw [register_apply, answer_eq]
  change (iterateOn problem options options.iterations problem.guess 0 >>= _) = _
  cases iterateOn problem options options.iterations problem.guess 0 <;> rfl

/-- **A round**: there are enough residuals under a motion, and the step from them is made. -/
structure Round (problem : Problem α) (options : SolverOptions α) (motion moved : ScanMotion α)
    (size : StepSize α) : Prop where
  enough : options.minResiduals ≤ (problem.found options motion).length
  step_eq : step motion (problem.found options motion) (problem.tie options) options =
    .ok (moved, size)

/-- **Where no round is made**: there are too few residuals, or the step from them fails. -/
inductive Stuck (problem : Problem α) (options : SolverOptions α) (motion : ScanMotion α) :
    SolverError → Prop
  | short : (problem.found options motion).length < options.minResiduals →
      Stuck problem options motion
        (.tooFewResiduals (problem.found options motion).length options.minResiduals)
  | failed {e : SolverError} : options.minResiduals ≤ (problem.found options motion).length →
      step motion (problem.found options motion) (problem.tie options) options = .error e →
      Stuck problem options motion e

/-- A round is made unless there is a reason not to. -/
theorem round_or_stuck (problem : Problem α) (options : SolverOptions α)
    (motion : ScanMotion α) : (∃ moved size, Round problem options motion moved size) ∨
      ∃ e, Stuck problem options motion e := by
  rcases lt_or_ge (problem.found options motion).length options.minResiduals with hshort | henough
  · exact .inr ⟨_, .short hshort⟩
  · cases hstep : step motion (problem.found options motion) (problem.tie options) options with
    | error e => exact .inr ⟨e, .failed henough hstep⟩
    | ok result => exact .inl ⟨result.1, result.2, henough, hstep⟩

/-- What is decided before a step. -/
theorem iterate_succ_eq (n : ℕ) (start : ScanMotion α) (count : ℕ) :
    iterateOn problem options (n + 1) start count =
      if (problem.found options start).length < options.minResiduals then
        .error (.tooFewResiduals (problem.found options start).length options.minResiduals)
      else step start (problem.found options start) (problem.tie options) options >>=
        fun (moved, size) =>
          if size.isSmall options then .ok (moved, (problem.found options start).length)
          else iterateOn problem options n moved (problem.found options start).length := by
  rw [iterateOn, iterate_succ, enoughResiduals_eq, Problem.found]
  dsimp only
  split <;> rfl

/-- **The iteration makes a round**, and stops after a small step. -/
theorem Round.iterate_succ (h : Round problem options start next size₀) (n count : ℕ) :
    iterateOn problem options (n + 1) start count =
      if size₀.isSmall options then .ok (next, (problem.found options start).length)
      else iterateOn problem options n next (problem.found options start).length := by
  rw [iterate_succ_eq, if_neg (not_lt.mpr h.enough), h.step_eq]
  rfl

/-- **A round that moves nothing** is made again and again. -/
theorem Round.iterate_self (h : Round problem options start start size₀) (n count : ℕ) :
    iterateOn problem options n start count =
      .ok (start, if n = 0 then count else (problem.found options start).length) := by
  induction n generalizing count with
  | zero => rfl
  | succ n ih =>
      rw [h.iterate_succ, if_neg n.succ_ne_zero]
      split
      · rfl
      · rw [ih, ite_self]

/-- **The iteration fails** where no round is made. -/
theorem Stuck.iterate_succ (h : Stuck problem options start e) (n count : ℕ) :
    iterateOn problem options (n + 1) start count = .error e := by
  cases h with
  | short hshort => rw [iterate_succ_eq, if_pos hshort]
  | failed henough hstep =>
      rw [iterate_succ_eq, if_neg (not_lt.mpr henough), hstep]
      rfl

/-- A round that is made is not stuck. -/
theorem Round.not_stuck (h : Round problem options start next size₀)
    (hstuck : Stuck problem options start e) : False := by
  cases hstuck with
  | short hshort => exact absurd h.enough (not_le.mpr hshort)
  | failed _ hstep =>
      rw [h.step_eq] at hstep
      cases hstep

/-- **A round has one outcome.** -/
theorem Round.unique {next' : ScanMotion α} {size₀' : StepSize α}
    (h : Round problem options start next size₀) (h' : Round problem options start next' size₀') :
    next' = next ∧ size₀' = size₀ := by
  have heq := h'.step_eq.symm.trans h.step_eq
  rw [Except.ok.injEq, Prod.mk.injEq] at heq
  exact heq

/-- A computation whose result is only transformed fails as it does. -/
theorem error_of_map_eq_error {ε β γ : Type} {f : β → γ} {result : Except ε β} {e : ε}
    (h : result.map f = .error e) : result = .error e := by
  cases result with
  | error e' =>
      cases h
      rfl
  | ok b => exact nomatch h

omit [EigenSolver α] in
/-- A step fails only by being degenerate or by leaving the numbers. -/
theorem error_of_finiteStep {k : ℕ} {equations : NormalEquations α k} {damping : α}
    (h : finiteStep equations damping = .error e) : e = .degenerate ∨ e = .diverged := by
  rw [finiteStep] at h
  split at h
  · cases h
    exact .inl rfl
  · split at h
    · cases h
    · cases h
      exact .inr rfl

omit [EigenSolver α] in
/-- **No step fails for want of residuals.** -/
theorem error_of_step {rs : List (Residual α)} {previous : Option (ScanMotion α)}
    (h : step start rs previous options = .error e) : e = .degenerate ∨ e = .diverged := by
  rw [step] at h
  split at h
  · rw [stepRigid_eq] at h
    exact error_of_finiteStep (error_of_map_eq_error h)
  · rw [stepContinuous_eq] at h
    exact error_of_finiteStep (error_of_map_eq_error h)

/-- **Too few residuals** stop a round exactly if their number is below the one required. -/
theorem stuck_tooFewResiduals_iff {required : ℕ} :
    Stuck problem options start (.tooFewResiduals found required) ↔
      required = options.minResiduals ∧ found < required ∧
        found = (problem.found options start).length := by
  constructor
  · intro h
    cases h with
    | short hshort => exact ⟨rfl, hshort, rfl⟩
    | failed _ hstep => exact (error_of_step hstep).elim (fun h => nomatch h) fun h => nomatch h
  · rintro ⟨rfl, hshort, rfl⟩
    exact .short hshort

/-- **A round is stuck for one reason.** -/
theorem Stuck.unique {e' : SolverError} (h : Stuck problem options start e)
    (h' : Stuck problem options start e') : e = e' := by
  have heq := (h.iterate_succ 0 0).symm.trans (h'.iterate_succ 0 0)
  exact Except.error.inj heq

/-! ### Courses -/

/-- **A course of `m` rounds** from `start`, with the motions reached and the sizes of the steps. -/
structure Course (problem : Problem α) (options : SolverOptions α) (start : ScanMotion α) (m : ℕ)
    (motion : ℕ → ScanMotion α) (size : ℕ → StepSize α) : Prop where
  start_eq : motion 0 = start
  round : ∀ k < m, Round problem options (motion k) (motion (k + 1)) (size k)

/-- A sequence with one more element in front. -/
def prepend {β : Type} (b : β) (f : ℕ → β) : ℕ → β
  | 0 => b
  | k + 1 => f k

/-- The course of no rounds. -/
theorem Course.refl (start : ScanMotion α) (size : ℕ → StepSize α) :
    Course problem options start 0 (fun _ => start) size :=
  ⟨rfl, fun k hk => absurd hk (Nat.not_lt_zero k)⟩

/-- **A round before a course.** -/
theorem Course.cons (hround : Round problem options start next size₀)
    (h : Course problem options next m motion size) :
    Course problem options start (m + 1) (prepend start motion) (prepend size₀ size) := by
  refine ⟨rfl, fun k hk => ?_⟩
  cases k with
  | zero =>
      change Round problem options start (motion 0) size₀
      rw [h.start_eq]
      exact hround
  | succ k => exact h.round k (Nat.lt_of_succ_lt_succ hk)

/-- The first round of a course. -/
theorem Course.head (h : Course problem options start (m + 1) motion size) :
    Round problem options start (motion 1) (size 0) :=
  h.start_eq ▸ h.round 0 m.succ_pos

/-- The course after its first round. -/
theorem Course.tail (h : Course problem options start (m + 1) motion size) :
    Course problem options (motion 1) m (fun k => motion (k + 1)) (fun k => size (k + 1)) :=
  ⟨rfl, fun k hk => h.round (k + 1) (Nat.succ_lt_succ hk)⟩

/-- The number of residuals in the last of some rounds, `count` if there are none. -/
def lastCount (problem : Problem α) (options : SolverOptions α) (motion : ℕ → ScanMotion α)
    (count : ℕ) : ℕ → ℕ
  | 0 => count
  | k + 1 => (problem.found options (motion k)).length

/-- One round before others does not change the last count. -/
theorem lastCount_prepend (start : ScanMotion α) (motion : ℕ → ScanMotion α) (count m : ℕ) :
    lastCount problem options (prepend start motion) count (m + 1) =
      lastCount problem options motion (problem.found options start).length m := by
  cases m <;> rfl

/-- The last count of a course is that of the course after its first round. -/
theorem Course.lastCount_tail (h : Course problem options start (m + 1) motion size) :
    lastCount problem options (fun k => motion (k + 1)) (problem.found options start).length m =
      lastCount problem options motion count (m + 1) := by
  cases m with
  | zero =>
      change _ = (problem.found options (motion 0)).length
      rw [h.start_eq]
      rfl
  | succ m => rfl

/-! ### How an iteration ends -/

/-- **A course that ends with an answer**, where at most `n` rounds are allowed. -/
structure Ends (problem : Problem α) (options : SolverOptions α) (n : ℕ) (start : ScanMotion α)
    (m : ℕ) (motion : ℕ → ScanMotion α) (size : ℕ → StepSize α) : Prop where
  course : Course problem options start m motion size
  /-- No more rounds are made than are allowed. -/
  le : m ≤ n
  /-- No step before the last is small. -/
  goes_on : ∀ k, k + 1 < m → (size k).isSmall options = false
  /-- Fewer rounds are made only if the last step is small. -/
  stops : m < n → ∃ k, m = k + 1 ∧ (size k).isSmall options = true

namespace Ends

/-- One round before those that end. -/
theorem cons (hround : Round problem options start next size₀)
    (hlarge : size₀.isSmall options = false) (h : Ends problem options n next m motion size) :
    Ends problem options (n + 1) start (m + 1) (prepend start motion) (prepend size₀ size) where
  course := h.course.cons hround
  le := Nat.succ_le_succ h.le
  goes_on := fun k hk => by
    cases k with
    | zero => exact hlarge
    | succ k => exact h.goes_on k (Nat.lt_of_succ_lt_succ hk)
  stops := fun hlt => by
    obtain ⟨k, rfl, hsmall⟩ := h.stops (Nat.lt_of_succ_lt_succ hlt)
    exact ⟨k + 1, rfl, hsmall⟩

/-- After a round whose step is not small, the rest of the course ends in the same way. -/
theorem tail (h : Ends problem options (n + 1) start (m + 1) motion size)
    (hlarge : (size 0).isSmall options = false) :
    Ends problem options n (motion 1) m (fun k => motion (k + 1)) (fun k => size (k + 1)) where
  course := h.course.tail
  le := Nat.le_of_succ_le_succ h.le
  goes_on := fun k hk => h.goes_on (k + 1) (Nat.succ_lt_succ hk)
  stops := fun hlt => by
    obtain ⟨k, hk, hsmall⟩ := h.stops (Nat.succ_lt_succ hlt)
    cases k with
    | zero =>
        rw [hlarge] at hsmall
        cases hsmall
    | succ k => exact ⟨k, Nat.succ_injective hk, hsmall⟩

/-- A round whose step is small is the only one. -/
theorem single (hround : Round problem options start next size₀)
    (hsmall : size₀.isSmall options = true) :
    Ends problem options (n + 1) start 1 (prepend start fun _ => next)
      (prepend size₀ fun _ => size₀) where
  course := .cons hround (.refl next fun _ => size₀)
  le := Nat.succ_le_succ n.zero_le
  goes_on := fun k hk => absurd hk (by omega)
  stops := fun _ => ⟨0, rfl, hsmall⟩

/-- A round is the only one if no other is allowed. -/
theorem once (hround : Round problem options start next size₀) :
    Ends problem options 1 start 1 (prepend start fun _ => next)
      (prepend size₀ fun _ => size₀) where
  course := .cons hround (.refl next fun _ => size₀)
  le := le_rfl
  goes_on := fun k hk => absurd hk (by omega)
  stops := fun hlt => absurd hlt (lt_irrefl 1)

/-- After a round whose step is small there is no other. -/
theorem eq_zero_of_small (h : Ends problem options n start (m + 1) motion size)
    (hsmall : (size 0).isSmall options = true) : m = 0 := by
  by_contra hm
  rw [h.goes_on 0 (by omega)] at hsmall
  cases hsmall

/-- If rounds are allowed, one is made. -/
theorem exists_succ (h : Ends problem options (n + 1) start m motion size) : ∃ k, m = k + 1 := by
  cases m with
  | zero =>
      obtain ⟨k, hk, -⟩ := h.stops n.succ_pos
      cases hk
  | succ k => exact ⟨k, rfl⟩

end Ends

/-- **What the iteration answers**, by its course. -/
theorem iterate_eq_ok_iff : iterateOn problem options n start count = .ok (moved, found) ↔
    ∃ m motion size, Ends problem options n start m motion size ∧ moved = motion m ∧
      found = lastCount problem options motion count m := by
  -- on the number of rounds that are allowed; the start and the count are those reached so far
  induction n generalizing start count with
  | zero =>
      constructor
      · intro h
        cases h
        exact ⟨0, _, fun _ => ⟨0, 0⟩,
          ⟨.refl _ _, le_rfl, fun k hk => absurd hk (Nat.not_lt_zero _),
            fun h => absurd h (lt_irrefl 0)⟩, rfl, rfl⟩
      · rintro ⟨m, motion, size, hends, rfl, rfl⟩
        obtain rfl := Nat.le_zero.mp hends.le
        rw [hends.course.start_eq]
        rfl
  | succ n ih =>
      rcases round_or_stuck problem options start with ⟨next, size₀, hround⟩ | ⟨e, hstuck⟩
      · rw [hround.iterate_succ]
        split
        · next hsmall =>
            constructor
            · intro h
              cases h
              exact ⟨1, _, _, .single hround hsmall, rfl, rfl⟩
            · rintro ⟨m, motion, size, hends, rfl, rfl⟩
              obtain ⟨k, rfl⟩ := hends.exists_succ
              obtain ⟨hnext, hsize⟩ := hround.unique hends.course.head
              obtain rfl : k = 0 := hends.eq_zero_of_small (hsize ▸ hsmall)
              rw [hnext, lastCount, hends.course.start_eq]
        · next hlarge =>
            rw [Bool.not_eq_true] at hlarge
            rw [ih]
            constructor
            · rintro ⟨m, motion, size, hends, rfl, rfl⟩
              exact ⟨m + 1, _, _, hends.cons hround hlarge, rfl, (lastCount_prepend _ _ _ _).symm⟩
            · rintro ⟨m, motion, size, hends, rfl, rfl⟩
              obtain ⟨k, rfl⟩ := hends.exists_succ
              obtain ⟨hnext, hsize⟩ := hround.unique hends.course.head
              exact ⟨k, _, _, hnext ▸ hends.tail (hsize ▸ hlarge), rfl,
                hends.course.lastCount_tail.symm⟩
      · rw [hstuck.iterate_succ]
        refine iff_of_false (fun h => nomatch h) ?_
        rintro ⟨m, motion, size, hends, -⟩
        obtain ⟨k, rfl⟩ := hends.exists_succ
        exact hends.course.head.not_stuck hstuck

/-- **A course that ends with a failure**, where at most `n` rounds are allowed. -/
structure Fails (problem : Problem α) (options : SolverOptions α) (n : ℕ) (start : ScanMotion α)
    (e : SolverError) (m : ℕ) (motion : ℕ → ScanMotion α) (size : ℕ → StepSize α) : Prop where
  course : Course problem options start m motion size
  /-- A round is left. -/
  lt : m < n
  /-- No step is small. -/
  goes_on : ∀ k < m, (size k).isSmall options = false
  /-- The next round cannot be made. -/
  stuck : Stuck problem options (motion m) e

namespace Fails

/-- One round before those that fail. -/
theorem cons (hround : Round problem options start next size₀)
    (hlarge : size₀.isSmall options = false) (h : Fails problem options n next e m motion size) :
    Fails problem options (n + 1) start e (m + 1) (prepend start motion) (prepend size₀ size) where
  course := h.course.cons hround
  lt := Nat.succ_lt_succ h.lt
  goes_on := fun k hk => by
    cases k with
    | zero => exact hlarge
    | succ k => exact h.goes_on k (Nat.lt_of_succ_lt_succ hk)
  stuck := h.stuck

/-- After its first round, a course fails in the same way. -/
theorem tail (h : Fails problem options (n + 1) start e (m + 1) motion size) :
    Fails problem options n (motion 1) e m (fun k => motion (k + 1)) (fun k => size (k + 1)) where
  course := h.course.tail
  lt := Nat.lt_of_succ_lt_succ h.lt
  goes_on := fun k hk => h.goes_on (k + 1) (Nat.succ_lt_succ hk)
  stuck := h.stuck

/-- Where a round can be made, some are. -/
theorem exists_succ (h : Fails problem options n start e m motion size)
    (hround : Round problem options start next size₀) : ∃ k, m = k + 1 := by
  cases m with
  | zero => exact (hround.not_stuck (h.course.start_eq ▸ h.stuck)).elim
  | succ k => exact ⟨k, rfl⟩

end Fails

/-- **How the iteration fails**, by its course. -/
theorem iterate_eq_error_iff : iterateOn problem options n start count = .error e ↔
    ∃ m motion size, Fails problem options n start e m motion size := by
  -- on the rounds that are left: the first one is made, or it is where the iteration fails
  induction n generalizing start count with
  | zero =>
      refine iff_of_false (fun h => nomatch h) ?_
      rintro ⟨m, motion, size, hfails⟩
      exact absurd hfails.lt (Nat.not_lt_zero m)
  | succ n ih =>
      rcases round_or_stuck problem options start with ⟨next, size₀, hround⟩ | ⟨e', hstuck⟩
      · rw [hround.iterate_succ]
        split
        · next hsmall =>
            refine iff_of_false (fun h => nomatch h) ?_
            rintro ⟨m, motion, size, hfails⟩
            obtain ⟨k, rfl⟩ := hfails.exists_succ hround
            obtain ⟨-, hsize⟩ := hround.unique hfails.course.head
            rw [← hsize, hfails.goes_on 0 k.succ_pos] at hsmall
            cases hsmall
        · next hlarge =>
            rw [Bool.not_eq_true] at hlarge
            rw [ih]
            constructor
            · rintro ⟨m, motion, size, hfails⟩
              exact ⟨m + 1, _, _, hfails.cons hround hlarge⟩
            · rintro ⟨m, motion, size, hfails⟩
              obtain ⟨k, rfl⟩ := hfails.exists_succ hround
              obtain ⟨hnext, -⟩ := hround.unique hfails.course.head
              exact ⟨k, _, _, hnext ▸ hfails.tail⟩
      · rw [hstuck.iterate_succ]
        constructor
        · intro h
          cases h
          exact ⟨0, _, fun _ => ⟨0, 0⟩, .refl start _, n.succ_pos,
            fun k hk => absurd hk (Nat.not_lt_zero k), hstuck⟩
        · rintro ⟨m, motion, size, hfails⟩
          cases m with
          | zero => exact congrArg _ (hstuck.unique (hfails.course.start_eq ▸ hfails.stuck))
          | succ k => exact (hfails.course.head.not_stuck hstuck).elim

/-! ### The solver -/

/-- **Keypoints placed by a motion**: each is as it was but for its map coordinates, which are
those that the motion gives it. -/
def PlacedBy (motion : ScanMotion α) (compensate : Bool) (points placed : List (ScanPoint α)) :
    Prop :=
  List.Forall₂ (fun p q => q.raw = p.raw ∧ q.time = p.time ∧ q.phase = p.phase ∧
    q.world = motion.locate compensate p) points placed

omit [EigenSolver α] in
/-- Keypoints are placed by a motion exactly if they are what the program's placement gives. -/
theorem placedBy_iff {compensate : Bool} {points placed : List (ScanPoint α)} :
    PlacedBy moved compensate points placed ↔ placed = moved.place compensate points := by
  have hpoint : ∀ p q : ScanPoint α, (q.raw = p.raw ∧ q.time = p.time ∧ q.phase = p.phase ∧
      q.world = moved.locate compensate p) ↔
        { p with world := moved.locate compensate p } = q := fun p q => by
    rw [ScanPoint.ext_iff]
    tauto
  have hmap := List.forall₂_map_left_iff (R := Eq) (l := points) (u := placed)
    (f := fun p : ScanPoint α => { p with world := moved.locate compensate p })
  rw [List.forall₂_eq_eq_eq] at hmap
  simp only [PlacedBy, hpoint, ← hmap]
  exact eq_comm

/-- **What the solver answers** is what its iteration does, with the keypoints placed. -/
theorem register_eq_ok_iff {registered : Registered α} :
    (register problem options ()).1 = .ok registered ↔
      iterateOn problem options options.iterations problem.guess 0 =
        .ok (registered.motion, registered.residuals) ∧
      PlacedBy registered.motion options.compensate problem.keypoints registered.keypoints := by
  rw [register_eq, placedBy_iff]
  obtain ⟨motion, keypoints, residuals⟩ := registered
  dsimp only
  cases iterateOn problem options options.iterations problem.guess 0 with
  | error e => exact iff_of_false (fun h => nomatch h) fun h => nomatch h.1
  | ok result =>
      constructor
      · intro h
        cases h
        exact ⟨rfl, rfl⟩
      · rintro ⟨h, rfl⟩
        cases h
        rfl

/-- **How the solver fails** is how its iteration does. -/
theorem register_eq_error_iff : (register problem options ()).1 = .error e ↔
    iterateOn problem options options.iterations problem.guess 0 = .error e := by
  rw [register_eq]
  constructor
  · exact error_of_map_eq_error
  · intro h
    rw [h]
    rfl

/-- **What the solver returns is told by its course.** It answers exactly if there is a course of
rounds from the guess, each a step from the residuals under the motion before it, of which there are
enough, such that no step before the last is small and rounds are left unused only if the last step
is small; the answer is the motion that the course reaches, the number of residuals in its last
round, and the keypoints in their order, unchanged but for their places, which are those that the
returned motion gives them. It fails for too few residuals exactly if in a round that is left, after
steps that were not small, it finds fewer than the options require; these two numbers are named. It
makes no difference to a round where the keypoints were placed in an earlier one. -/
theorem register_tells_its_course (problem : Problem α) (options : SolverOptions α) :
    (∀ registered, (register problem options ()).1 = .ok registered ↔
      ∃ m motion size, Ends problem options options.iterations problem.guess m motion size ∧
        registered.motion = motion m ∧
        registered.residuals = lastCount problem options motion 0 m ∧
        PlacedBy registered.motion options.compensate problem.keypoints registered.keypoints) ∧
    (∀ found required, (register problem options ()).1 = .error (.tooFewResiduals found required) ↔
      required = options.minResiduals ∧ found < required ∧
        ∃ m motion size, Course problem options problem.guess m motion size ∧
          m < options.iterations ∧ (∀ k < m, (size k).isSmall options = false) ∧
          found = (problem.found options (motion m)).length) ∧
    ∀ (earlier motion : ScanMotion α) (compensate : Bool),
      residuals problem.map (problem.radius options) options (motion.place options.compensate
        (earlier.place compensate problem.keypoints)) = problem.found options motion := by
  refine ⟨fun registered => ?_, fun found required => ?_, fun earlier motion compensate => ?_⟩
  · rw [register_eq_ok_iff, iterate_eq_ok_iff]
    constructor
    · rintro ⟨⟨m, motion, size, hends, hmotion, hcount⟩, hplaced⟩
      exact ⟨m, motion, size, hends, hmotion, hcount, hplaced⟩
    · rintro ⟨m, motion, size, hends, hmotion, hcount, hplaced⟩
      exact ⟨⟨m, motion, size, hends, hmotion, hcount⟩, hplaced⟩
  · rw [register_eq_error_iff, iterate_eq_error_iff]
    constructor
    · rintro ⟨m, motion, size, hfails⟩
      obtain ⟨hrequired, hshort, hfound⟩ := stuck_tooFewResiduals_iff.mp hfails.stuck
      exact ⟨hrequired, hshort, m, motion, size, hfails.course, hfails.lt, hfails.goes_on, hfound⟩
    · rintro ⟨hrequired, hshort, m, motion, size, hcourse, hlt, hgoes_on, hfound⟩
      exact ⟨m, motion, size, hcourse, hlt, hgoes_on,
        stuck_tooFewResiduals_iff.mpr ⟨hrequired, hshort, hfound⟩⟩
  · rw [ScanMotion.place_place, Problem.found]

end Rounds

/-- A keypoint hovers over the floor. Where one residual is enough, a course of one round moves the
sensor, and its count is returned; where two are required, the first round fails and says so. -/
theorem register_tells_its_course_over_floor :
    letI : EigenSolver ℝ := ⟨Mat3.jacobi⟩
    let hovering : ScanPoint ℝ := .sampled ⟨3, 9 / 2, 1 / 4⟩ 0 (1 / 2)
    ∃ answers, ∃ map : VoxelMap ℝ,
      VoxelMap.Run (.empty 8 20) [.insert (floorPoints ⟨4, 4, 0⟩ 2 1) ⟨20, 0⟩] answers map ∧
      let problem : Problem ℝ := ⟨map, [hovering], slide, none, 0⟩
      (∃ registered, (register problem singleStep ()).1 = .ok registered ∧
        registered.motion.finish.position ≠ slide.finish.position ∧
        registered.keypoints = registered.motion.place false [hovering] ∧
        registered.residuals = 1) ∧
      (register problem { singleStep with minResiduals := 2 } ()).1 =
        .error (.tooFewResiduals 1 2) := by
  let _ : EigenSolver ℝ := ⟨Mat3.jacobi⟩
  intro hovering
  obtain ⟨answers, map, hrun, r, moved, size, hresiduals, hstep, hmoved⟩ := exists_step_over_floor
  refine ⟨answers, map, hrun, ?_⟩
  intro problem
  have hfound : problem.found singleStep slide = [r] := hresiduals
  have hcount : 1 = (problem.found singleStep slide).length := by
    rw [hfound]
    rfl
  have hround : Round problem singleStep slide moved size := ⟨hcount.le, hfound ▸ hstep⟩
  obtain ⟨hanswers, -⟩ := register_tells_its_course problem singleStep
  obtain ⟨-, hfails, -⟩ := register_tells_its_course problem { singleStep with minResiduals := 2 }
  exact ⟨⟨⟨moved, moved.place false [hovering], 1⟩,
    (hanswers _).mpr ⟨1, _, _, .once hround, rfl, hcount, placedBy_iff.mpr rfl⟩, hmoved, rfl, rfl⟩,
    (hfails 1 2).mpr ⟨rfl, one_lt_two, 0, _, _, .refl slide fun _ => size, one_pos,
      fun k hk => absurd hk (Nat.not_lt_zero k), hcount⟩⟩

end PointToPlane

end LidarOdometry
