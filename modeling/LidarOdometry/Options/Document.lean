import LidarOdometry.Options.Settings
import LidarOdometry.Options.Validity
import LidarOdometry.Settings.Toml.Document

/-!
# Options from Documents

## Main definitions

* `OptionsError`: why options are refused.
* `OdometryOptions.validated`: options that are valid.
* `OdometryOptions.ofToml`: valid options from a TOML document.
-/

namespace LidarOdometry

/-- **Why options are refused.** -/
inductive OptionsError where
  /-- The document is malformed, or holds a value of the wrong kind. -/
  | unreadable
  | invalid (fault : OptionFault Float)
deriving DecidableEq, Repr

/-- The wording of a fault. -/
def OptionFault.message {α : Type} (write : α → String) (fault : OptionFault α) : String :=
  "invalid option `" ++ fault.field ++ "`: " ++ fault.requirement.message write

namespace OdometryOptions

/-- The options themselves, provided that they are valid. -/
def validated (o : OdometryOptions Float) : Except OptionsError (OdometryOptions Float) :=
  match o.validate with
  | .ok () => .ok o
  | .error fault => .error (.invalid fault)

/-- **Valid options from a TOML document**, on top of the driving profile. -/
def ofToml (text : String) : Except OptionsError (OdometryOptions Float) :=
  match (Toml.read? text).bind (read Toml.conventions) with
  | none => .error .unreadable
  | some o => o.validated

end OdometryOptions

end LidarOdometry
