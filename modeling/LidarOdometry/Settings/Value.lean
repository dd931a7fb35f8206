/-!
# Settings

Settings files are trees of values. The values are the same whatever format the file has; the
formats differ in a few conventions on how a value may be given.

## Main definitions

* `Setting`: a value of a settings file.
* `Setting.natural?`, `Setting.real?`, `Setting.boolean?`: values of a wanted kind.
* `Conventions`: what the formats differ in; `Conventions.json` for JSON.
-/

namespace LidarOdometry

/-- **A value of a settings file.** -/
inductive Setting where
  | null
  | boolean (b : Bool)
  | integer (n : Int)
  | real (x : Float)
  | text (s : String)
  /-- A date or a time of day; nothing more is ever asked of it. -/
  | moment
  | list (items : List Setting)
  | table (entries : List (String × Setting))

/-- **What settings formats differ in.** -/
structure Conventions where
  /-- Whether a record given by position may have more items than fields. -/
  allowsSurplus : Bool
  /-- Whether a value stands for having no content. -/
  isBlank : Setting → Bool

namespace Setting

/-- A number that is not negative and fits in a 64-bit word. -/
def natural? : Setting → Option Nat
  | integer n => if 0 ≤ n ∧ n.toNat < UInt64.size then some n.toNat else none
  | _ => none

/-- A number with or without a fraction. -/
def real? : Setting → Option Float
  | real x => some x
  | integer n => some (Float.ofInt n)
  | _ => none

/-- A truth value. -/
def boolean? : Setting → Option Bool
  | boolean b => some b
  | _ => none

/-- The name of a choice, which is either the text itself or the name of the only entry of a
table, provided that the entry has no content. -/
def choice? (c : Conventions) : Setting → Option String
  | text s => some s
  | table [(s, v)] => if c.isBlank v then some s else none
  | _ => none

end Setting

/-- JSON has a null for no content, and a record given by position has no item too many. -/
def Conventions.json : Conventions where
  allowsSurplus := false
  isBlank
    | .null => true
    | _ => false

end LidarOdometry
