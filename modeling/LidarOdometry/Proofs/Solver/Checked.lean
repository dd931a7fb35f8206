import LidarOdometry.Proofs.Voxel.KeySpace
import LidarOdometry.Solver.PointToPlane

/-!
# The Solver with Checked Sums

The solver adds cells only where it searches the map. With checked sums a search finds what it
should or nothing comes of it, and what has nothing for a part has no result. So by induction on the
steps the solver with checked sums answers as the solver does, errors included, if it answers.

## Main definitions

* `Solver.AgreesWith`: a solver that answers as another one, if it answers.

## Main results

* `PointToPlane.agrees_iterateBy`: the iteration.
* `PointToPlane.agreesWith_registerBy`: the solver.
-/

namespace LidarOdometry

variable {σ α : Type}

/-- A solver **agrees with** another one that always answers, if whatever it answers is what that
one does, and if it remembers the same. -/
def Solver.AgreesWith (checked : Solver σ α Option) (solver : Solver σ α) : Prop :=
  ∀ problem options memory,
    Agrees (checked problem options memory) (solver problem options memory)

/-- **Computations with errors**, one after another. An error is a result. -/
theorem Agrees.bindExcept {ε β γ : Type} {x : ExceptT ε Option β} {y : ExceptT ε Id β}
    {f : β → ExceptT ε Option γ} {g : β → ExceptT ε Id γ} (hx : Agrees x.run y.run)
    (hf : ∀ b, Agrees (f b).run (g b).run) : Agrees (x >>= f).run (y >>= g).run := by
  rw [ExceptT.run_bind, ExceptT.run_bind]
  refine .bind hx fun result => ?_
  cases result with
  | error e => exact .pure _
  | ok b => exact hf b

/-- A computation that cannot fail, among others that can. -/
theorem Agrees.lift {ε β : Type} {x : Option β} {y : Id β} (h : Agrees x y) :
    Agrees (ExceptT.lift x : ExceptT ε Option β).run (ExceptT.lift y : ExceptT ε Id β).run := by
  intro c hc
  obtain ⟨b, hb, rfl⟩ := Option.map_eq_some_iff.mp hc
  rw [h b hb]
  rfl

namespace PointToPlane

variable [Scalar α] [EigenSolver α] (map : VoxelMap α) (neighborhood : Nat)
  (options : SolverOptions α) (keypoints : List (ScanPoint α))

/-- A keypoint is matched with what the search finds. -/
theorem agrees_residualsBy : Agrees (residualsBy Word.checked map neighborhood options keypoints)
    (residuals map neighborhood options keypoints) :=
  .filterMapM (fun _ => .bind (map.agrees_neighborsBy _ _ _) fun _ => .pure _) keypoints

/-- The residuals of a round: keypoints are matched with what is found among cells. -/
theorem agrees_enoughResidualsBy (motion : ScanMotion α) :
    Agrees (enoughResidualsBy Word.checked map neighborhood options keypoints motion).run
      (enoughResidualsBy Word.wrapping map neighborhood options keypoints motion).run := by
  have hresiduals := agrees_residualsBy map neighborhood options
    (motion.place options.compensate keypoints)
  refine .bindExcept hresiduals.lift fun rs => ?_
  split
  · exact .pure _
  · exact .pure _

/-- **The iteration with checked sums.** The induction is on the steps left. -/
theorem agrees_iterateBy (previous : Option (ScanMotion α)) (n : Nat) (motion : ScanMotion α)
    (count : Nat) :
    Agrees (iterateBy Word.checked map neighborhood options keypoints previous n motion count).run
      (iterateBy Word.wrapping map neighborhood options keypoints previous n motion count).run := by
  induction n generalizing motion count with
  | zero => exact .pure _
  | succ n ih =>
      refine .bindExcept (agrees_enoughResidualsBy _ _ _ _ _) fun rs =>
        .bindExcept (.pure _) fun (motion, size) => ?_
      dsimp only
      split
      · exact .pure _
      · exact ih motion rs.length

/-- **The answer with checked sums.** -/
theorem agrees_answerBy (problem : Problem α) (options : SolverOptions α) :
    Agrees (answerBy Word.checked problem options).run (answer problem options) :=
  .bindExcept (agrees_iterateBy _ _ _ _ _ _ _ _) fun _ => .pure _

/-- **The solver with checked sums** agrees with the solver. -/
theorem agreesWith_registerBy :
    Solver.AgreesWith (registerBy Word.checked : Solver Unit α Option) register :=
  fun problem options _ => .bind (agrees_answerBy problem options) fun _ => .pure _

end PointToPlane

end LidarOdometry
