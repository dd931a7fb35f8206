import LidarOdometry.Registration.Registrar

/-!
# What a Session Decides

A registration reads and writes a session, the grid of the sampler and the memory of the solver.
The grid is emptied before each use, so nothing depends on it. The memory decides nothing if
the solver is *pure*, that is, if its answers do not depend on it. Registering a scan
with a pure solver is therefore *oblivious*: the summary is the same in every session.

Both are cases of one law. A registration *respects* any relation of memories that the solver
respects: equality, which every solver does, or the relation that holds of all memories, which a
pure one does.

## Main definitions

* `Sampler.thin`: the first return of every voxel, whatever the sampler was used for before.
* `Solver.IsPure`: equal questions get equal answers.
* `SessionM.Oblivious`: computations whose result does not depend on the session.
* `SessionM.Respects`: computations that answer alike where memories are related.

## Main results

* `Registrar.respects_register`: registering a scan respects what the solver respects.
* `Registrar.oblivious_register`: with a pure solver, registering a scan is oblivious.
-/

namespace LidarOdometry

variable {σ α β γ : Type}

/-! ### Drawing keypoints -/

section Drawing

variable [Scalar α] {size : α} {points : List (ScanPoint α)}

/-- **The first return of every voxel**, in order of arrival. -/
def Sampler.thin (size : α) (points : List (ScanPoint α)) : List (ScanPoint α) :=
  (VoxelGrid.firsts size ∅ points).1

/-- A point is kept if its voxel has not been visited. -/
theorem VoxelGrid.firsts_cons (grid : VoxelGrid) (p : ScanPoint α) (ps : List (ScanPoint α)) :
    (VoxelGrid.firsts size grid (p :: ps)).1 =
      if grid.contains (VoxelKey.ofPoint size p.raw) then
        (VoxelGrid.firsts size (grid.insert (VoxelKey.ofPoint size p.raw)) ps).1
      else p :: (VoxelGrid.firsts size (grid.insert (VoxelKey.ofPoint size p.raw)) ps).1 := by
  simp only [VoxelGrid.firsts, Std.HashSet.containsThenInsert_fst,
    Std.HashSet.containsThenInsert_snd]

/-- The first return of all is always kept. -/
theorem Sampler.thin_ne_nil (hpoints : points ≠ []) : Sampler.thin size points ≠ [] := by
  obtain ⟨p, ps, rfl⟩ := List.exists_cons_of_ne_nil hpoints
  rw [thin, VoxelGrid.firsts_cons, Std.HashSet.contains_empty, if_neg Bool.false_ne_true]
  exact List.cons_ne_nil _ _

end Drawing

/-! ### Solvers -/

/-- A solver is **pure** if equal questions get equal answers, whatever it remembers. -/
def Solver.IsPure (solver : Solver σ α) : Prop :=
  ∀ problem options memory memory',
    (solver problem options memory).1 = (solver problem options memory').1

/-- A function makes a pure solver. -/
theorem Solver.isPure_pure
    (answer : Problem α → SolverOptions α → Except SolverError (Registered α)) :
    (Solver.pure answer).IsPure := fun _ _ _ _ => rfl

/-- A solver **respects** a relation of memories if it answers alike wherever its memories are
related, and leaves them related. -/
def Solver.Respects (R : σ → σ → Prop) (solver : Solver σ α) : Prop :=
  ∀ problem options memory memory', R memory memory' →
    (solver problem options memory).1 = (solver problem options memory').1 ∧
      R (solver problem options memory).2 (solver problem options memory').2

/-- **A pure solver** answers from any two sessions alike. -/
theorem Solver.IsPure.respects {solver : Solver σ α} (h : solver.IsPure) :
    solver.Respects fun _ _ => True :=
  fun problem options memory memory' _ => ⟨h problem options memory memory', trivial⟩

/-- Every solver answers alike from one session. -/
theorem Solver.respects_eq (solver : Solver σ α) : solver.Respects Eq := by
  rintro problem options memory _ rfl
  exact ⟨rfl, rfl⟩

/-! ### Computations within sessions -/

namespace SessionM

/-- A computation is **oblivious** if its result does not depend on the session. -/
def Oblivious (c : SessionM σ β) : Prop :=
  ∀ session session' : Session σ, (c session).1 = (c session').1

/-- A computation **respects** a relation of memories if its result is the same wherever the
memories are related, and leaves them related, whatever the samplers are. -/
def Respects (R : σ → σ → Prop) (c : SessionM σ β) : Prop :=
  ∀ session session' : Session σ, R session.memory session'.memory →
    (c session).1 = (c session').1 ∧ R (c session).2.memory (c session').2.memory

variable {R : σ → σ → Prop}

/-- A given result respects every relation. -/
theorem Respects.pure (b : β) : Respects R (Pure.pure b) :=
  fun _ _ h => ⟨rfl, h⟩

/-- What does not read the session leaves it as it is. -/
theorem Respects.lift (c : Id β) : Respects R (liftM c) :=
  fun _ _ h => ⟨rfl, h⟩

/-- **One computation after another** respects a relation if both do. -/
theorem Respects.bind {c : SessionM σ β} {f : β → SessionM σ γ} (hc : Respects R c)
    (hf : ∀ b, Respects R (f b)) : Respects R (c >>= f) := by
  intro session session' h
  obtain ⟨hresult, hnext⟩ := hc session session' h
  change (f (c session).1 (c session).2).1 = (f (c session').1 (c session').2).1 ∧
    R (f (c session).1 (c session).2).2.memory (f (c session').1 (c session').2).2.memory
  rw [hresult]
  exact hf _ _ _ hnext

/-- The grid is emptied before each use. -/
theorem Respects.sample [Scalar α] (size : α) (points : List (ScanPoint α)) :
    Respects R (SessionT.sample size points) :=
  fun _ _ h => ⟨rfl, h⟩

/-- A question to a solver that respects a relation respects it. -/
theorem Respects.solve {solver : Solver σ α} (hsolver : solver.Respects R) (problem : Problem α)
    (options : SolverOptions α) : Respects R (SessionT.solve solver problem options) :=
  fun session session' h => hsolver problem options session.memory session'.memory h

end SessionM

/-! ### Registration -/

namespace Registrar

open SessionM

variable [Scalar α] {r : Registrar σ α} {R : σ → σ → Prop}

/-- The outcome of an attempt respects what its solver does. -/
theorem respects_outcome (hsolver : r.solver.Respects R) (scan : Scan α)
    (previous : ScanMotion α) (attempt : Attempt α) :
    Respects R (r.outcome scan previous attempt) :=
  .bind (.sample _ _) fun _ => .bind (.solve hsolver _ _) fun _ => .pure _

/-- The induction is on the attempts left. -/
theorem respects_attempts (hsolver : r.solver.Respects R) (scan : Scan α)
    (previous : ScanMotion α) (remaining number : Nat) (attempt : Attempt α)
    (summary : Summary α) (last : Option (RegistrationError (Rejection α))) :
    Respects R (r.attempts scan previous remaining number attempt summary last) := by
  induction remaining generalizing number attempt summary last with
  | zero => exact .pure _
  | succ remaining ih =>
      rw [attempts, attemptsBy]
      refine .bind (.lift _) fun number =>
        .bind (respects_outcome hsolver scan previous attempt) fun ⟨keypoints, outcome⟩ => ?_
      cases outcome with
      | accepted registered assessment => exact .pure _
      | rejected registered assessment reason =>
          dsimp only
          split
          · exact .pure _
          · exact .bind (.lift _) fun next => ih number next _ _
      | unsolved cause => exact .bind (.lift _) fun next => ih number next _ _

/-- **Registering a scan respects** what the solver respects. -/
theorem respects_register (hsolver : r.solver.Respects R) (scan : Scan α) :
    Respects R (r.register scan) := by
  rw [register, registerBy]
  dsimp only
  split
  · exact .pure _
  · split
    · exact .bind (.sample _ _) fun _ => .pure _
    · exact respects_attempts hsolver _ _ _ _ _ _ _

/-- **With a pure solver, registering a scan is oblivious.** -/
theorem oblivious_register (hpure : r.solver.IsPure) (scan : Scan α) :
    Oblivious (r.register scan) :=
  fun session session' => (respects_register hpure.respects scan session session' trivial).1

end Registrar

end LidarOdometry
