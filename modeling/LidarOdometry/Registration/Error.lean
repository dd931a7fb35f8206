import LidarOdometry.Solver.Basic

/-!
# Registration Errors

Why a scan was not registered. The reason of a rejection is of any type `ρ`: the library itself
gives the criteria that were missed, and a reason in words serves as well.

## Main definitions

* `RegistrationError`: the causes.
* `RegistrationError.message`: their wording.
-/

namespace LidarOdometry

/-- **Why a scan was not registered.** -/
inductive RegistrationError (ρ : Type) where
  /-- Too few keypoints were left after thinning. -/
  | tooFewKeypoints (found required : Nat)
  /-- The solver failed. -/
  | unsolved (cause : SolverError)
  /-- The registered scan was not plausible. -/
  | rejected (reason : ρ)
  /-- Every attempt failed, the last one for the given cause. -/
  | exhausted (attempts : Nat) (last : RegistrationError ρ)
deriving DecidableEq, Repr

/-- The wording of an error, the reason of a rejection being written by `write`. -/
def RegistrationError.message {ρ : Type} (write : ρ → String) : RegistrationError ρ → String
  | tooFewKeypoints found required =>
      s!"not enough keypoints after sampling: {found} < {required}"
  | unsolved cause => "solver did not converge: " ++ cause.message
  | rejected reason => "registration rejected: " ++ write reason
  | exhausted attempts last =>
      s!"registration failed after {attempts} attempts: " ++ last.message write

end LidarOdometry
