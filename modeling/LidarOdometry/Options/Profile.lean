import LidarOdometry.Options.Basic

/-!
# Profiles by Name

## Main definitions

* `Profile`: the named presets.
* `Profile.ofName?`: the preset with a given name.
* `Profile.named`: the same, an unknown name being an error with its wording.
* `OdometryOptions.ofProfile`: its options.
-/

namespace LidarOdometry

/-- **A named preset of the options.** -/
inductive Profile where
  | driving
  | slowOutdoor
deriving DecidableEq, Repr

/-- The preset with a name, in letters of either case. Only the letters of the English alphabet
have two cases here. -/
def Profile.ofName? (name : String) : Option Profile :=
  match String.ofList (name.toList.map Char.toLower) with
  | "driving" => some .driving
  | "slow_outdoor" | "slow-outdoor" => some .slowOutdoor
  | _ => none

/-- A name that no preset has. -/
structure UnknownProfile where
  name : String
deriving DecidableEq, Repr

/-- The wording of an unknown name. -/
def UnknownProfile.message (error : UnknownProfile) : String :=
  "unknown profile `" ++ error.name ++ "`, expected `driving` or `slow_outdoor`"

/-- The preset with a name, or the complaint that there is none. -/
def Profile.named (name : String) : Except UnknownProfile Profile :=
  match ofName? name with
  | some profile => .ok profile
  | none => .error ⟨name⟩

/-- The options of a preset. -/
def OdometryOptions.ofProfile {α : Type} [Scalar α] : Profile → OdometryOptions α
  | .driving => driving
  | .slowOutdoor => slowOutdoor

end LidarOdometry
