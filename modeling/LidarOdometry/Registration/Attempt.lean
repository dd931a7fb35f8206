import LidarOdometry.Options.Basic
import LidarOdometry.Scan.Motion

/-!
# Parameters of an Attempt

A scan may be registered in several attempts. Each has its own parameters, derived from those of
the attempt before it: a wider neighbourhood, more iterations, tighter thresholds, more distant
planes and denser keypoints.

## Main definitions

* `Attempt`: the parameters, at first `Attempt.first` and then `Attempt.next`.
* `Attempt.nextBy`: the parameters of the next attempt, with any kind of sum.
* `Attempt.solverFor`: what the solver is told in the attempt.
-/

namespace LidarOdometry

/-- **The parameters of one attempt** at registering a scan. -/
@[ext]
structure Attempt (α : Type) where
  solver : SolverOptions α
  /-- The voxel size by which keypoints are drawn. -/
  keypointSize : α
  /-- The guessed shift above which the neighbourhood is widened. -/
  wideningDistance : α
  /-- The guessed rotation above which the neighbourhood is widened. -/
  wideningRotation : α
deriving DecidableEq, Repr

namespace Attempt

variable {α : Type} [Scalar α]

omit [Scalar α] in
/-- The parameters of the first attempt. -/
def first (options : OdometryOptions α) (solver : SolverOptions α) (keypointSize : α) :
    Attempt α :=
  ⟨solver, keypointSize, options.wideningDistance, options.wideningRotation⟩

/-- A tenth of a threshold, but no less than `least`; a threshold that is not above `least` stays
as it is. -/
def tighten (threshold least : α) : α :=
  if least < threshold then Scalar.max (threshold / 10.0) least else threshold

/-- **The parameters of the next attempt.** The neighbourhood grows up to `maxNeighborhood`, the
iterations up to fifty, and the voxel size of the keypoints shrinks down to `thinningSize`, by
which the scan itself was thinned; what is beyond its limit already stays there. Both counts are
added to by `plus` before they are limited. -/
def nextBy {M : Type → Type} [Monad M] (p : Attempt α) (plus : Nat → Nat → M Nat)
    (maxNeighborhood : Nat) (thinningSize : α) : M (Attempt α) := do
  let neighborhood ← plus p.solver.neighborhood 1
  let iterations ← plus p.solver.iterations 20
  return {
    solver := { p.solver with
      neighborhood := max (min neighborhood maxNeighborhood) p.solver.neighborhood
      iterations := max (min iterations 50) p.solver.iterations
      rotationThreshold := tighten p.solver.rotationThreshold 1e-5
      shiftThreshold := tighten p.solver.shiftThreshold 1e-4
      maxPlaneDistance := p.solver.maxPlaneDistance * 1.5 }
    keypointSize := Scalar.max (p.keypointSize / 1.5) (Scalar.min thinningSize p.keypointSize)
    wideningDistance := p.wideningDistance / 2.0
    wideningRotation := p.wideningRotation / 2.0 }

/-- **The parameters of the next attempt**, with counts of any size. -/
def next (p : Attempt α) (maxNeighborhood : Nat) (thinningSize : α) : Attempt α :=
  p.nextBy Count.exact maxNeighborhood thinningSize

/-- The next attempt, field by field. -/
theorem next_eq (p : Attempt α) (maxNeighborhood : Nat) (thinningSize : α) :
    p.next maxNeighborhood thinningSize = {
      solver := { p.solver with
        neighborhood := max (min (p.solver.neighborhood + 1) maxNeighborhood) p.solver.neighborhood
        iterations := max (min (p.solver.iterations + 20) 50) p.solver.iterations
        rotationThreshold := tighten p.solver.rotationThreshold 1e-5
        shiftThreshold := tighten p.solver.shiftThreshold 1e-4
        maxPlaneDistance := p.solver.maxPlaneDistance * 1.5 }
      keypointSize := Scalar.max (p.keypointSize / 1.5) (Scalar.min thinningSize p.keypointSize)
      wideningDistance := p.wideningDistance / 2.0
      wideningRotation := p.wideningRotation / 2.0 } := rfl

/-- **What the solver is told in the attempt**: the neighbourhood is at least two voxels wide if
the guess is far from the previous scan, in distance or in angle. -/
def solverFor (p : Attempt α) (guess : ScanMotion α)
    (previous : Option (ScanMotion α)) : SolverOptions α :=
  match previous with
  | none => p.solver
  | some previous =>
      let shift := guess.finish.distance previous.finish
      let rotation := previous.finish.turn guess.finish
      if p.wideningDistance < shift ∨ p.wideningRotation < rotation then p.solver.widened
      else p.solver

end Attempt

end LidarOdometry
