import LidarOdometry.Settings.Schema
import Mathlib.Data.List.Nodup

/-!
# Records Read by Name

A table is read into a record entry by entry, in the order of the file. If the fields of a schema
*stand alone*, so that setting one changes no other, and if no name is given twice, the order does
not matter: every field that is named has the value that its entry gives, and every other field
keeps its default.

## Main definitions

* `Field.StandsAlone`: setting a field changes no other.
* `Schema.Lawful`: the fields of a schema stand alone and make up the record.
* `Schema.Fits`: no name is given twice, and every value is of its field's kind.
* `Setting.given`: the value that a table gives to a name, or a default.
* `Field.Agrees`: a record has the value of a field that a table gives.

## Main results

* `Schema.Lawful.read_table`: a table is read into the record that agrees with it.
* `Schema.Lawful.fits_of_read_table`: a table that is read fits.
* `Schema.Lawful.read_table_eq_some_iff`: what is read from a table.
-/

namespace LidarOdometry

variable {ρ β : Type} {c : Conventions} {entries : List (String × Setting)} {default target : ρ}

/-! ### Fields -/

namespace Field

variable {f : Field ρ} {schema : Schema ρ}

/-- **A field takes a value** if the value is of its kind. -/
def Takes (f : Field ρ) (c : Conventions) (v : Setting) : Prop :=
  ∀ r, f.set? c v r ≠ none

/-- **A field stands alone** in a schema: whether it takes a value does not depend on the record,
and a value that it takes changes no other field. -/
def StandsAlone (f : Field ρ) (schema : Schema ρ) : Prop :=
  ∀ c v, (∀ r, f.set? c v r = none) ∨ ∃ change : ρ → ρ, ∀ r, f.set? c v r = some (change r) ∧
    ∀ g ∈ schema, g.name ≠ f.name → g.get (change r) = g.get r

/-- A field whose values are read first and then set stands alone if setting changes no other. -/
theorem StandsAlone.of_map {read : Conventions → Setting → Option β} {set : β → ρ → ρ}
    (hset : ∀ c v r, f.set? c v r = (read c v).map (set · r))
    (hothers : ∀ x r, ∀ g ∈ schema, g.name ≠ f.name → g.get (set x r) = g.get r) :
    f.StandsAlone schema := by
  intro c v
  cases hread : read c v with
  | none =>
      refine .inl fun r => ?_
      rw [hset, hread, Option.map_none]
  | some x =>
      refine .inr ⟨set x, fun r => ⟨?_, hothers x r⟩⟩
      rw [hset, hread, Option.map_some]

end Field

/-- **The value that a table gives** to a name, or a default. -/
def Setting.given (entries : List (String × Setting)) (read : Setting → Option β) (name : String)
    (default : β) : β :=
  ((entries.lookup name).bind read).getD default

/-- A name that is not given has the default. -/
theorem Setting.given_of_none {read : Setting → Option β} {name : String} {default : β}
    (h : entries.lookup name = none) : given entries read name default = default := by
  rw [given, h]
  rfl

/-- A name that is given has the value that is read. -/
theorem Setting.given_of_some {read : Setting → Option β} {name : String} {default x : β}
    {v : Setting} (h : entries.lookup name = some v) (hread : read v = some x) :
    given entries read name default = x := by
  rw [given, h, Option.bind_some, hread]
  rfl

/-- **Defaults that differ** are told apart exactly where no value is given. -/
theorem Setting.given_eq_given_iff {read : Setting → Option β} {name : String} {default other : β}
    (hread : ∀ v, entries.lookup name = some v → read v ≠ none) (hne : default ≠ other) :
    given entries read name default = given entries read name other ↔
      entries.lookup name ≠ none := by
  cases hlookup : entries.lookup name with
  | none =>
      rw [given_of_none hlookup, given_of_none hlookup]
      exact iff_of_false hne (not_not_intro rfl)
  | some v =>
      obtain ⟨x, hx⟩ := Option.ne_none_iff_exists'.mp (hread v hlookup)
      rw [given_of_some hlookup hx, given_of_some hlookup hx]
      exact iff_of_true rfl (Option.some_ne_none v)

namespace Field

variable {f : Field ρ}

/-- **A record agrees** with a table in a field: it has the value that the table gives to the
field, or that of a default record if the table does not name the field. -/
def Agrees (f : Field ρ) (c : Conventions) (entries : List (String × Setting))
    (default target : ρ) : Prop :=
  match entries.lookup f.name with
  | none => f.get target = f.get default
  | some v => ∀ r r', f.set? c v r = some r' → f.get r' = f.get target

/-- An entry with another name does not matter. -/
theorem agrees_cons {entry : String × Setting} (hne : f.name ≠ entry.1) :
    f.Agrees c (entry :: entries) default target ↔ f.Agrees c entries default target := by
  rw [Agrees, Agrees, List.lookup_cons, beq_false_of_ne hne]

/-- Only the field itself matters of a default record. -/
theorem Agrees.of_get_eq {other : ρ} (h : f.Agrees c entries default target)
    (heq : f.get other = f.get default) : f.Agrees c entries other target := by
  rw [Agrees] at h ⊢
  split
  · next hnone =>
      rw [hnone] at h
      exact h.trans heq.symm
  · next v hsome =>
      rw [hsome] at h
      exact h

/-- What has been set is not named again. -/
theorem Agrees.of_head {entry : String × Setting} {next : ρ}
    (h : f.Agrees c (entry :: entries) default target) (hname : f.name = entry.1)
    (hset : f.set? c entry.2 default = some next)
    (hnames : ((entry :: entries).map Prod.fst).Nodup) : f.Agrees c entries next target := by
  have hrest : entries.lookup f.name = none := by
    rw [hname, List.lookup_eq_none_iff]
    rintro ⟨name, v⟩ hmem
    have hne : entry.1 ≠ name := by
      rintro rfl
      exact (List.nodup_cons.mp hnames).1 (List.mem_map.mpr ⟨_, hmem, rfl⟩)
    exact bne_iff_ne.mpr hne
  rw [Agrees, List.lookup_cons, hname, beq_self_eq_true] at h
  rw [Agrees, hrest]
  exact (h default next hset).symm

/-- A record agrees in a field whose values are read first and then set if it has the given
value. -/
theorem Agrees.of_given {read : Setting → Option β} {set : β → ρ → ρ} {get : ρ → β}
    (hset : ∀ v r, f.set? c v r = (read v).map (set · r))
    (hwrite : ∀ r r', get r = get r' → f.get r = f.get r') (hget : ∀ x r, get (set x r) = x)
    (htarget : get target = Setting.given entries read f.name (get default)) :
    f.Agrees c entries default target := by
  rw [Agrees]
  split
  · next hnone => exact hwrite _ _ (htarget.trans (Setting.given_of_none hnone))
  · next v hsome =>
      intro r r' hr
      rw [hset] at hr
      obtain ⟨x, hx, rfl⟩ := Option.map_eq_some_iff.mp hr
      exact hwrite _ _ ((hget x r).trans (htarget.trans (Setting.given_of_some hsome hx)).symm)

section Kinds

variable {name : String}

/-- A field with a real number agrees if its value is the given one. -/
theorem Agrees.real {get : ρ → Float} {set : Float → ρ → ρ} (hget : ∀ x r, get (set x r) = x)
    (htarget : get target = Setting.given entries Setting.real? name (get default)) :
    (Field.real name get set).Agrees c entries default target :=
  .of_given (fun _ _ => rfl) (fun _ _ h => congrArg Setting.real h) hget htarget

/-- A field with a count agrees if its value is the given one. -/
theorem Agrees.natural {get : ρ → Nat} {set : Nat → ρ → ρ} (hget : ∀ x r, get (set x r) = x)
    (htarget : get target = Setting.given entries Setting.natural? name (get default)) :
    (Field.natural name get set).Agrees c entries default target :=
  .of_given (fun _ _ => rfl) (fun _ _ h => congrArg (fun n : Nat => Setting.integer n) h) hget
    htarget

/-- A field with a truth value agrees if its value is the given one. -/
theorem Agrees.boolean {get : ρ → Bool} {set : Bool → ρ → ρ} (hget : ∀ x r, get (set x r) = x)
    (htarget : get target = Setting.given entries Setting.boolean? name (get default)) :
    (Field.boolean name get set).Agrees c entries default target :=
  .of_given (fun _ _ => rfl) (fun _ _ h => congrArg Setting.boolean h) hget htarget

/-- A field with one of several names agrees if its value is the given one. -/
theorem Agrees.choice {nameOf : β → String} {ofName? : String → Option β} {get : ρ → β}
    {set : β → ρ → ρ} (hget : ∀ x r, get (set x r) = x)
    (htarget : get target =
      Setting.given entries (fun v => (v.choice? c).bind ofName?) name (get default)) :
    (Field.choice name nameOf ofName? get set).Agrees c entries default target :=
  .of_given (fun _ _ => rfl) (fun _ _ h => congrArg (fun x => Setting.text (nameOf x)) h) hget
    htarget

/-- A field with a table of its own agrees if its value is the given table's. -/
theorem Agrees.field {τ : Type} {schema : Schema τ} {standard : τ} {get : ρ → τ} {set : τ → ρ → ρ}
    (hget : ∀ x r, get (set x r) = x)
    (htarget : get target = Setting.given entries (schema.read c standard) name (get default)) :
    (schema.field standard name get set).Agrees c entries default target :=
  .of_given (fun _ _ => rfl) (fun _ _ h => congrArg schema.write h) hget htarget

end Kinds

end Field

/-! ### Schemas -/

namespace Schema

variable {schema : Schema ρ}

/-- **The fields of a schema** have names of their own, stand alone, and make up the record. -/
structure Lawful (schema : Schema ρ) : Prop where
  nodup_names : (schema.map Field.name).Nodup
  standsAlone : ∀ f ∈ schema, f.StandsAlone schema
  ext : ∀ r r', (∀ f ∈ schema, f.get r = f.get r') → r = r'

/-- **A table fits a schema**: it gives no name twice, and to the fields only values that they
take. Other names do not matter. -/
structure Fits (schema : Schema ρ) (c : Conventions) (entries : List (String × Setting)) :
    Prop where
  nodup_names : (entries.map Prod.fst).Nodup
  takes : ∀ entry ∈ entries, ∀ f ∈ schema, f.name = entry.1 → f.Takes c entry.2

/-- Entries that fit a schema still do without the first. -/
theorem Fits.tail {entry : String × Setting} (h : schema.Fits c (entry :: entries)) :
    schema.Fits c entries where
  nodup_names := (List.nodup_cons.mp h.nodup_names).2
  takes e he := h.takes e (List.mem_cons_of_mem _ he)

/-- A value that is found is of its field's kind. -/
theorem Fits.takes_of_lookup (h : schema.Fits c entries) {f : Field ρ} (hf : f ∈ schema)
    {v : Setting} (hlookup : entries.lookup f.name = some v) : f.Takes c v := by
  obtain ⟨before, after, rfl, -⟩ := List.lookup_eq_some_iff.mp hlookup
  exact h.takes (f.name, v) (List.mem_append_right _ List.mem_cons_self) f hf rfl

/-- A record is determined by how it is written. -/
theorem Lawful.write_injective (h : schema.Lawful) {r r' : ρ}
    (heq : schema.write r = schema.write r') : r = r' := by
  refine h.ext r r' fun f hf => ?_
  have hentries := List.map_inj_left.mp (Setting.table.inj heq) f hf
  exact congrArg Prod.snd hentries

/-- **An entry** sets the field that it names, or it names none. -/
theorem readEntry_cases (schema : Schema ρ) (c : Conventions) (r : ρ)
    (entry : String × Setting) :
    ((∀ f ∈ schema, f.name ≠ entry.1) ∧ schema.readEntry c r entry = some r) ∨
      ∃ f ∈ schema, f.name = entry.1 ∧ schema.readEntry c r entry = f.set? c entry.2 r := by
  rw [readEntry]
  cases hfind : schema.find? (fun field => field.name == entry.1) with
  | none =>
      refine .inl ⟨fun f hf hname => ?_, rfl⟩
      exact List.find?_eq_none.mp hfind f hf (beq_iff_eq.mpr hname)
  | some f =>
      have hname := List.find?_some hfind
      exact .inr ⟨f, List.mem_of_find?_eq_some hfind, beq_iff_eq.mp hname, rfl⟩

/-- **A table is read** into the record that agrees with it. The induction is on the entries, and
the record read so far takes the place of the default: a field that has been set keeps its value,
as no later entry names it. -/
theorem Lawful.read_table (h : schema.Lawful) (hfits : schema.Fits c entries)
    (hagrees : ∀ f ∈ schema, f.Agrees c entries default target) :
    schema.read c default (.table entries) = some target := by
  change entries.foldlM (schema.readEntry c) default = some target
  -- on the entries: each settles its own field, and leaves the others as they agree
  induction entries generalizing default with
  | nil =>
      obtain rfl : default = target := h.ext _ _ fun f hf => (hagrees f hf).symm
      rfl
  | cons entry entries ih =>
      rw [List.foldlM_cons]
      rcases schema.readEntry_cases c default entry with ⟨hunknown, hread⟩ | ⟨f, hf, hname, hread⟩
      · rw [hread]
        exact ih hfits.tail fun g hg => (Field.agrees_cons (hunknown g hg)).mp (hagrees g hg)
      · have htakes := hfits.takes entry List.mem_cons_self f hf hname
        rcases h.standsAlone f hf c entry.2 with hrefuses | ⟨change, hchange⟩
        · exact absurd (hrefuses default) (htakes default)
        obtain ⟨hset, hothers⟩ := hchange default
        rw [hread, hset]
        refine ih hfits.tail fun g hg => ?_
        by_cases hsame : g.name = f.name
        · obtain rfl : g = f := List.inj_on_of_nodup_map h.nodup_names hg hf hsame
          exact (hagrees g hg).of_head hname hset hfits.nodup_names
        · have hagrees' := (Field.agrees_cons (hname ▸ hsame)).mp (hagrees g hg)
          exact hagrees'.of_get_eq (hothers g hg hsame)

/-- **A table that is read fits**, if it gives no name twice. -/
theorem Lawful.fits_of_read_table (h : schema.Lawful) (hnames : (entries.map Prod.fst).Nodup)
    (hread : schema.read c default (.table entries) = some target) : schema.Fits c entries := by
  change entries.foldlM (schema.readEntry c) default = some target at hread
  refine ⟨hnames, ?_⟩
  clear hnames
  induction entries generalizing default with
  | nil => exact fun entry hentry => absurd hentry List.not_mem_nil
  | cons entry entries ih =>
      rw [List.foldlM_cons] at hread
      obtain ⟨next, hnext, hrest⟩ := Option.bind_eq_some_iff.mp hread
      refine List.forall_mem_cons.mpr ⟨fun f hf hname => ?_, ih hrest⟩
      rcases schema.readEntry_cases c default entry with ⟨hunknown, -⟩ | ⟨g, hg, hname', heq⟩
      · exact absurd hname (hunknown f hf)
      · obtain rfl : f = g :=
          List.inj_on_of_nodup_map h.nodup_names hf hg (hname.trans hname'.symm)
        rcases h.standsAlone f hf c entry.2 with hrefuses | ⟨change, hchange⟩
        · rw [heq, hrefuses default] at hnext
          cases hnext
        · intro r hr
          rw [(hchange r).1] at hr
          cases hr

/-- **What is read from a table** that gives no name twice: the record that agrees with it,
provided that it fits. -/
theorem Lawful.read_table_eq_some_iff (h : schema.Lawful) (hnames : (entries.map Prod.fst).Nodup)
    (hagrees : ∀ f ∈ schema, f.Agrees c entries default target) {r : ρ} :
    schema.read c default (.table entries) = some r ↔ schema.Fits c entries ∧ r = target := by
  constructor
  · intro hread
    have hfits := h.fits_of_read_table hnames hread
    exact ⟨hfits, Option.some.inj (hread.symm.trans (h.read_table hfits hagrees))⟩
  · rintro ⟨hfits, rfl⟩
    exact h.read_table hfits hagrees

end Schema

end LidarOdometry
