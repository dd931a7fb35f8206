import LidarOdometry.Settings.Value

/-!
# Records in Settings Files

A record is described by the list of its fields, each with its name, how its value is written
and how a value is read into it. Reading starts from a record of default values and replaces
the fields that the file mentions; entries with other names are passed over.

## Main definitions

* `Field`: one field of a record.
* `Schema.read`: a record read from a value.
* `Schema.write`: the table of all fields of a record.
-/

namespace LidarOdometry

/-- **A field of a record**, as it stands in settings files. -/
structure Field (ρ : Type) where
  name : String
  /-- The value of the field. -/
  get : ρ → Setting
  /-- The record with the field replaced, `none` if the value is not of the field's kind. -/
  set? : Conventions → Setting → ρ → Option ρ

namespace Field

variable {ρ : Type}

/-- A field of numbers with a fraction. -/
def real (name : String) (get : ρ → Float) (set : Float → ρ → ρ) : Field ρ :=
  ⟨name, fun r => .real (get r), fun _ v r => v.real?.map (set · r)⟩

/-- A field of counts. -/
def natural (name : String) (get : ρ → Nat) (set : Nat → ρ → ρ) : Field ρ :=
  ⟨name, fun r => .integer (get r), fun _ v r => v.natural?.map (set · r)⟩

/-- A field of truth values. -/
def boolean (name : String) (get : ρ → Bool) (set : Bool → ρ → ρ) : Field ρ :=
  ⟨name, fun r => .boolean (get r), fun _ v r => v.boolean?.map (set · r)⟩

/-- A field that holds one of several choices, which are known by name. -/
def choice {β : Type} (name : String) (nameOf : β → String) (ofName? : String → Option β)
    (get : ρ → β) (set : β → ρ → ρ) : Field ρ :=
  ⟨name, fun r => .text (nameOf (get r)),
    fun c v r => ((v.choice? c).bind ofName?).map (set · r)⟩

end Field

/-- The fields of a record, in their order. -/
abbrev Schema (ρ : Type) := List (Field ρ)

namespace Schema

variable {ρ : Type}

/-- One entry of a table read into a record. An unknown name changes nothing. -/
def readEntry (schema : Schema ρ) (c : Conventions) (r : ρ) (entry : String × Setting) :
    Option ρ :=
  match schema.find? fun field => field.name == entry.1 with
  | none => some r
  | some field => field.set? c entry.2 r

/-- Items read into the fields of a record by position. -/
def readItems (c : Conventions) : Schema ρ → List Setting → ρ → Option ρ
  | _, [], r => some r
  | [], _ :: _, r => if c.allowsSurplus then some r else none
  | field :: fields, item :: items, r => (field.set? c item r).bind (readItems c fields items)

/-- **A record read from a value**, on top of default values: a table by names, or a list by
position. A moment is a table without entries of interest. -/
def read (schema : Schema ρ) (c : Conventions) (default : ρ) : Setting → Option ρ
  | .table entries => entries.foldlM (schema.readEntry c) default
  | .list items => readItems c schema items default
  | .moment => some default
  | _ => none

/-- **A record as a table** of all its fields. -/
def write (schema : Schema ρ) (r : ρ) : Setting :=
  .table (schema.map fun field => (field.name, field.get r))

/-- A field that is itself a record; its missing fields have default values of their own. -/
def field {τ : Type} (schema : Schema τ) (default : τ) (name : String) (get : ρ → τ)
    (set : τ → ρ → ρ) : Field ρ :=
  ⟨name, fun r => schema.write (get r), fun c v r => (schema.read c default v).map (set · r)⟩

end Schema

end LidarOdometry
