import Mathlib
import LidarOdometry.Options.Document
import LidarOdometry.Proofs.Options.Validity
import LidarOdometry.Proofs.Settings.Schema

/-!
# Options Override Defaults

Options are read from a settings file as defaults with some fields replaced. What the defaults are
depends on the place. A field that the file leaves out at the top keeps the value of the driving
profile, and so does the whole solver if the file says nothing of it. But a file that has a solver
section, be it an empty one, leaves the driving profile there: the fields that the section leaves
out have the standard values of solvers, among them a third of the iterations.

## Main definitions

* `SolverOptions.overridden`, `OdometryOptions.overridden`: options with fields replaced.

## Main results

* `SolverOptions.read_table_eq_some_iff`, `OdometryOptions.read_table_eq_some_iff`: what is read
  from a table.
* `OdometryOptions.read_overrides`: options override defaults, in documents, too.
* `OdometryOptions.not_read_overrides_driving`: a solver section leaves the driving profile.
-/

namespace LidarOdometry

open Setting (given)

variable {c : Conventions} {entries : List (String × Setting)}

/-! ### Names of choices -/

/-- No two metrics have one name. -/
theorem Metric.name_injective : Function.Injective Metric.name := by
  intro m m' h
  cases m <;> cases m' <;> first | rfl | exact absurd h (by decide)

/-- No two ways of compensation have one name. -/
theorem Compensation.name_injective : Function.Injective Compensation.name := by
  intro m m' h
  cases m <;> cases m' <;> first | rfl | exact absurd h (by decide)

/-- No two ways of initialization have one name. -/
theorem Initialization.name_injective : Function.Injective Initialization.name := by
  intro m m' h
  cases m <;> cases m' <;> first | rfl | exact absurd h (by decide)

/-! ### Solver options -/

namespace SolverOptions

/-- **Solver options with fields replaced** by the values that a table gives to them. -/
def overridden (c : Conventions) (entries : List (String × Setting)) (o : SolverOptions Float) :
    SolverOptions Float where
  voxelSize := given entries Setting.real? "size_voxel_map" o.voxelSize
  iterations := given entries Setting.natural? "num_iters_icp" o.iterations
  neighborhood := given entries Setting.natural? "voxel_neighborhood" o.neighborhood
  minNeighbors := given entries Setting.natural? "min_number_neighbors" o.minNeighbors
  maxNeighbors := given entries Setting.natural? "max_number_neighbors" o.maxNeighbors
  planarityPower := given entries Setting.real? "power_planarity" o.planarityPower
  maxPlaneDistance := given entries Setting.real? "max_dist_to_plane" o.maxPlaneDistance
  rotationThreshold :=
    given entries Setting.real? "threshold_orientation_norm" o.rotationThreshold
  shiftThreshold := given entries Setting.real? "threshold_translation_norm" o.shiftThreshold
  locationWeight := given entries Setting.real? "beta_location_consistency" o.locationWeight
  velocityWeight := given entries Setting.real? "beta_constant_velocity" o.velocityWeight
  minResiduals := given entries Setting.natural? "min_number_residuals" o.minResiduals
  damping := given entries Setting.real? "damping" o.damping
  compensate := given entries Setting.boolean? "point_to_plane_with_distortion" o.compensate
  metric := given entries (fun v => (v.choice? c).bind Metric.ofName?) "distance" o.metric
  youngScans := given entries Setting.natural? "init_num_frames" o.youngScans

/-- The fields of the solver's table are independent of one another. -/
theorem lawful_schema : schema.Lawful where
  nodup_names := by decide
  standsAlone := by
    simp only [schema, List.forall_mem_cons, List.not_mem_nil, false_implies, implies_true,
      and_true]
    -- every field is read first and then set
    and_intros <;> refine .of_map (fun _ _ _ => rfl) fun x o => ?_
    all_goals
      simp only [List.forall_mem_cons, List.not_mem_nil, false_implies, implies_true, and_true]
      and_intros
    -- each of the others is as it was, and the field itself is not one of the others
    all_goals first
      | exact fun _ => rfl
      | exact fun hname => absurd rfl hname
  ext o o' h := by
    simp only [schema, List.forall_mem_cons, Field.real, Field.natural, Field.boolean,
      Field.choice, Setting.real.injEq, Setting.integer.injEq, Setting.boolean.injEq,
      Setting.text.injEq, Int.natCast_inj, Metric.name_injective.eq_iff] at h
    obtain ⟨h₁, h₂, h₃, h₄, h₅, h₆, h₇, h₈, h₉, h₁₀, h₁₁, h₁₂, h₁₃, h₁₄, h₁₅, h₁₆, -⟩ := h
    exact SolverOptions.ext h₁ h₂ h₃ h₄ h₅ h₆ h₇ h₈ h₉ h₁₀ h₁₁ h₁₂ h₁₃ h₁₄ h₁₅ h₁₆

/-- **Field by field** the overridden options are what the text gives, or what stood before. -/
theorem agrees_overridden (o : SolverOptions Float) :
    ∀ f ∈ schema, f.Agrees c entries o (o.overridden c entries) := by
  simp only [schema, List.forall_mem_cons]
  exact ⟨.real (fun _ _ => rfl) rfl, .natural (fun _ _ => rfl) rfl, .natural (fun _ _ => rfl) rfl,
    .natural (fun _ _ => rfl) rfl, .natural (fun _ _ => rfl) rfl, .real (fun _ _ => rfl) rfl,
    .real (fun _ _ => rfl) rfl, .real (fun _ _ => rfl) rfl, .real (fun _ _ => rfl) rfl,
    .real (fun _ _ => rfl) rfl, .real (fun _ _ => rfl) rfl, .natural (fun _ _ => rfl) rfl,
    .real (fun _ _ => rfl) rfl, .boolean (fun _ _ => rfl) rfl, .choice (fun _ _ => rfl) rfl,
    .natural (fun _ _ => rfl) rfl, nofun⟩

/-- **Solver options read from a table**: the standard ones with fields replaced. -/
theorem read_table_eq_some_iff (hnames : (entries.map Prod.fst).Nodup) {o : SolverOptions Float} :
    read c (.table entries) = some o ↔
      schema.Fits c entries ∧ o = SolverOptions.standard.overridden c entries :=
  lawful_schema.read_table_eq_some_iff hnames (agrees_overridden _)

end SolverOptions

/-! ### Odometry options -/

namespace OdometryOptions

/-- **Odometry options with fields replaced** by the values that a table gives to them. -/
def overridden (c : Conventions) (entries : List (String × Setting)) (o : OdometryOptions Float) :
    OdometryOptions Float where
  youngThinningSize := given entries Setting.real? "init_voxel_size" o.youngThinningSize
  youngKeypointSize := given entries Setting.real? "init_sample_voxel_size" o.youngKeypointSize
  youngScans := given entries Setting.natural? "init_num_frames" o.youngScans
  thinningSize := given entries Setting.real? "voxel_size" o.thinningSize
  keypointSize := given entries Setting.real? "sample_voxel_size" o.keypointSize
  maxDistance := given entries Setting.real? "max_distance" o.maxDistance
  maxPointsPerVoxel :=
    given entries Setting.natural? "max_num_points_in_voxel" o.maxPointsPerVoxel
  verbose := given entries Setting.boolean? "debug_print" o.verbose
  minPointDistance := given entries Setting.real? "min_distance_points" o.minPointDistance
  maxCorrection := given entries Setting.real? "distance_error_threshold" o.maxCorrection
  robust := given entries Setting.boolean? "robust_registration" o.robust
  sparseOverlap := given entries Setting.real? "robust_full_voxel_threshold" o.sparseOverlap
  wideningDistance :=
    given entries Setting.real? "robust_neighborhood_min_dist" o.wideningDistance
  wideningRotation :=
    given entries Setting.real? "robust_neighborhood_min_orientation" o.wideningRotation
  maxGap := given entries Setting.real? "robust_relative_trans_threshold" o.maxGap
  failEarly := given entries Setting.boolean? "robust_fail_early" o.failEarly
  maxAttempts := given entries Setting.natural? "robust_num_attempts" o.maxAttempts
  maxNeighborhood :=
    given entries Setting.natural? "robust_max_voxel_neighborhood" o.maxNeighborhood
  failEarlyRatio := given entries Setting.real? "robust_fail_early_ratio" o.failEarlyRatio
  scanPeriod := given entries Setting.real? "nominal_frame_period" o.scanPeriod
  minKeypoints := given entries Setting.natural? "min_number_keypoints" o.minKeypoints
  compensation :=
    given entries (fun v => (v.choice? c).bind Compensation.ofName?) "motion_compensation"
      o.compensation
  initialization :=
    given entries (fun v => (v.choice? c).bind Initialization.ofName?) "initialization"
      o.initialization
  solver := given entries (SolverOptions.read c) "solver" o.solver

/-- The fields of the whole text are independent of one another. -/
theorem lawful_schema : schema.Lawful where
  nodup_names := by decide
  standsAlone := by
    simp only [schema, List.forall_mem_cons, List.not_mem_nil, false_implies, implies_true,
      and_true]
    and_intros <;> refine .of_map (fun _ _ _ => rfl) fun x o => ?_
    all_goals
      simp only [List.forall_mem_cons, List.not_mem_nil, false_implies, implies_true, and_true]
      and_intros
    all_goals first
      | exact fun _ => rfl
      | exact fun hname => absurd rfl hname
  ext o o' h := by
    simp only [schema, List.forall_mem_cons, Field.real, Field.natural, Field.boolean,
      Field.choice, Schema.field, Setting.real.injEq, Setting.integer.injEq,
      Setting.boolean.injEq, Setting.text.injEq, Int.natCast_inj,
      Compensation.name_injective.eq_iff, Initialization.name_injective.eq_iff] at h
    obtain ⟨h₁, h₂, h₃, h₄, h₅, h₆, h₇, h₈, h₉, h₁₀, h₁₁, h₁₂, h₁₃, h₁₄, h₁₅, h₁₆, h₁₇, h₁₈, h₁₉,
      h₂₀, h₂₁, h₂₂, h₂₃, hsolver, -⟩ := h
    exact OdometryOptions.ext h₁ h₂ h₃ h₄ h₅ h₆ h₇ h₈ h₉ h₁₀ h₁₁ h₁₂ h₁₃ h₁₄ h₁₅ h₁₆ h₁₇ h₁₈ h₁₉
      h₂₀ h₂₁ h₂₂ h₂₃ (SolverOptions.lawful_schema.write_injective hsolver)

/-- **Field by field** the overridden options are what the text gives, or what stood before. -/
theorem agrees_overridden (o : OdometryOptions Float) :
    ∀ f ∈ schema, f.Agrees c entries o (o.overridden c entries) := by
  simp only [schema, List.forall_mem_cons]
  exact ⟨.real (fun _ _ => rfl) rfl, .real (fun _ _ => rfl) rfl, .natural (fun _ _ => rfl) rfl,
    .real (fun _ _ => rfl) rfl, .real (fun _ _ => rfl) rfl, .real (fun _ _ => rfl) rfl,
    .natural (fun _ _ => rfl) rfl, .boolean (fun _ _ => rfl) rfl, .real (fun _ _ => rfl) rfl,
    .real (fun _ _ => rfl) rfl, .boolean (fun _ _ => rfl) rfl, .real (fun _ _ => rfl) rfl,
    .real (fun _ _ => rfl) rfl, .real (fun _ _ => rfl) rfl, .real (fun _ _ => rfl) rfl,
    .boolean (fun _ _ => rfl) rfl, .natural (fun _ _ => rfl) rfl, .natural (fun _ _ => rfl) rfl,
    .real (fun _ _ => rfl) rfl, .real (fun _ _ => rfl) rfl, .natural (fun _ _ => rfl) rfl,
    .choice (fun _ _ => rfl) rfl, .choice (fun _ _ => rfl) rfl, .field (fun _ _ => rfl) rfl,
    nofun⟩

/-- **Odometry options read from a table**: the driving profile with fields replaced. -/
theorem read_table_eq_some_iff (hnames : (entries.map Prod.fst).Nodup)
    {o : OdometryOptions Float} : read c (.table entries) = some o ↔
      schema.Fits c entries ∧ o = driving.overridden c entries :=
  lawful_schema.read_table_eq_some_iff hnames (agrees_overridden _)

/-- The solver options of a table without a solver section. -/
theorem solver_overridden_of_none (h : entries.lookup "solver" = none)
    (o : OdometryOptions Float) : (o.overridden c entries).solver = o.solver :=
  Setting.given_of_none h

section SolverSection

variable {inner : List (String × Setting)}

/-- **The solver options of a solver section**: the standard ones with fields replaced. -/
theorem solver_overridden_of_table (h : entries.lookup "solver" = some (.table inner))
    (hnames : (inner.map Prod.fst).Nodup) (hfits : schema.Fits c entries)
    (o : OdometryOptions Float) : SolverOptions.schema.Fits c inner ∧
      (o.overridden c entries).solver = SolverOptions.standard.overridden c inner := by
  have hfield : SolverOptions.schema.field .standard "solver" solver
      (fun s (o : OdometryOptions Float) => { o with solver := s }) ∈ schema := by
    simp [schema]
  have htakes := hfits.takes_of_lookup hfield h driving
  obtain ⟨s, hread⟩ : ∃ s, SolverOptions.read c (.table inner) = some s := by
    rw [← Option.isSome_iff_exists, Option.isSome_iff_ne_none]
    exact fun hnone => htakes (Option.map_eq_none_iff.mpr hnone)
  obtain ⟨hinner, rfl⟩ := (SolverOptions.read_table_eq_some_iff hnames).mp hread
  exact ⟨hinner, Setting.given_of_some h hread⟩

/-- **The standard options and those of the driving profile** differ in two fields. Once a section
names both it does not matter which of them it overrides. -/
theorem overridden_standard_eq_iff (hfits : SolverOptions.schema.Fits c inner) :
    SolverOptions.standard.overridden c inner = driving.solver.overridden c inner ↔
      inner.lookup "num_iters_icp" ≠ none ∧ inner.lookup "max_dist_to_plane" ≠ none := by
  have hnatural : ∀ v, inner.lookup "num_iters_icp" = some v → v.natural? ≠ none :=
    fun v hv hnone =>
      hfits.takes_of_lookup (f := .natural "num_iters_icp" SolverOptions.iterations
        fun n o => { o with iterations := n }) (by simp [SolverOptions.schema]) hv .standard
        (Option.map_eq_none_iff.mpr hnone)
  have hreal : ∀ v, inner.lookup "max_dist_to_plane" = some v → v.real? ≠ none :=
    fun v hv hnone =>
      hfits.takes_of_lookup (f := .real "max_dist_to_plane" SolverOptions.maxPlaneDistance
        fun x o => { o with maxPlaneDistance := x }) (by simp [SolverOptions.schema]) hv .standard
        (Option.map_eq_none_iff.mpr hnone)
  -- two fields differ between the defaults, so they have to be given
  have hiterations : (.standard : SolverOptions Float).iterations ≠
      (driving : OdometryOptions Float).solver.iterations := by decide
  have hdistance : (.standard : SolverOptions Float).maxPlaneDistance ≠
      driving.solver.maxPlaneDistance := by decide
  rw [← Setting.given_eq_given_iff hnatural hiterations,
    ← Setting.given_eq_given_iff hreal hdistance]
  constructor
  · intro heq
    exact ⟨congrArg SolverOptions.iterations heq, congrArg SolverOptions.maxPlaneDistance heq⟩
  · rintro ⟨hiterations, hdistance⟩
    exact SolverOptions.ext rfl hiterations rfl rfl rfl rfl hdistance rfl rfl rfl rfl rfl rfl rfl
      rfl rfl

end SolverSection

/-! ### Documents -/

/-- Validation passes valid options on unchanged, and nothing else. -/
theorem validated_eq_ok_iff {o o' : OdometryOptions Float} :
    o.validated = .ok o' ↔ o' = o ∧ o'.validate = .ok () := by
  rw [validated]
  split
  · next hvalid =>
      constructor
      · rintro ⟨⟩
        exact ⟨rfl, hvalid⟩
      · rintro ⟨rfl, -⟩
        rfl
  · next fault hfault =>
      constructor
      · rintro ⟨⟩
      · rintro ⟨rfl, hvalid⟩
        rw [hfault] at hvalid
        cases hvalid

/-- **A document** is read, and then the options are validated. -/
theorem ofToml_eq_ok_iff {text : String} (h : Toml.read? text = some (.table entries))
    (hnames : (entries.map Prod.fst).Nodup) {o : OdometryOptions Float} :
    ofToml text = .ok o ↔ schema.Fits Toml.conventions entries ∧
      o = driving.overridden Toml.conventions entries ∧ o.validate = .ok () := by
  rw [ofToml, h, Option.bind_some]
  cases hread : read Toml.conventions (.table entries) with
  | none =>
      refine ⟨nofun, fun hfits => ?_⟩
      rw [(read_table_eq_some_iff hnames).mpr ⟨hfits.1, rfl⟩] at hread
      cases hread
  | some o' =>
      obtain ⟨hfits, rfl⟩ := (read_table_eq_some_iff hnames).mp hread
      exact validated_eq_ok_iff.trans ⟨fun h => ⟨hfits, h⟩, fun h => h.2⟩

/-- **Options override defaults.** A table that gives no name twice is read exactly if its values
are of the kinds of their fields, and then into the driving profile with the fields replaced that
it names. So are the options of a document, if they pass validation. The solver options of a table
that has a solver section are the standard ones with fields replaced. They are those of the
driving profile with these fields replaced exactly if the section names both fields in which the
two differ. -/
theorem read_overrides (c : Conventions) (entries : List (String × Setting))
    (hnames : (entries.map Prod.fst).Nodup) :
    (∀ o, read c (.table entries) = some o ↔
      schema.Fits c entries ∧ o = driving.overridden c entries) ∧
    (∀ text, Toml.read? text = some (.table entries) → ∀ o, ofToml text = .ok o ↔
      schema.Fits Toml.conventions entries ∧
        o = driving.overridden Toml.conventions entries ∧ o.validate = .ok ()) ∧
    (entries.lookup "solver" = none → (driving.overridden c entries).solver = driving.solver) ∧
    ∀ inner, entries.lookup "solver" = some (.table inner) → (inner.map Prod.fst).Nodup →
      schema.Fits c entries → SolverOptions.schema.Fits c inner ∧
        (driving.overridden c entries).solver = SolverOptions.standard.overridden c inner ∧
        ((driving.overridden c entries).solver = driving.solver.overridden c inner ↔
          inner.lookup "num_iters_icp" ≠ none ∧ inner.lookup "max_dist_to_plane" ≠ none) := by
  refine ⟨fun o => read_table_eq_some_iff hnames, fun text h o => ofToml_eq_ok_iff h hnames,
    fun h => solver_overridden_of_none h _, fun inner h hinner hfits => ?_⟩
  obtain ⟨hfits', hsolver⟩ := solver_overridden_of_table h hinner hfits driving
  rw [hsolver]
  exact ⟨hfits', rfl, overridden_standard_eq_iff hfits'⟩

/-- A document with a solver section of one field. -/
theorem read_overrides_solver_section :
    let inner : List (String × Setting) := [("num_iters_icp", .integer 5)]
    let entries : List (String × Setting) := [("voxel_size", .integer 2), ("solver", .table inner)]
    schema.Fits Toml.conventions entries ∧ ∃ o : OdometryOptions Float,
      ofToml "voxel_size = 2\n[solver]\nnum_iters_icp = 5\n" = .ok o ∧
        o = { driving with
          thinningSize := 2, solver := { SolverOptions.standard with iterations := 5 } } ∧
        o.solver = SolverOptions.standard.overridden Toml.conventions inner := by
  intro inner entries
  have htext : Toml.read? "voxel_size = 2\n[solver]\nnum_iters_icp = 5\n" =
      some (.table entries) := by cbv
  have hnames : (entries.map Prod.fst).Nodup := by decide
  obtain ⟨hread, hdocument, -, hsection⟩ := read_overrides Toml.conventions entries hnames
  have hsettings : read Toml.conventions (.table entries) = some { driving with
      thinningSize := 2, solver := { SolverOptions.standard with iterations := 5 } } := by rfl
  obtain ⟨hfits, hoptions⟩ := (hread _).mp hsettings
  obtain ⟨-, hsolver, -⟩ := hsection inner rfl (by decide) hfits
  have hvalid : ({ driving with
      thinningSize := 2, solver := { SolverOptions.standard with iterations := 5 } } :
      OdometryOptions Float).validate = .ok () := by rfl
  exact ⟨hfits, _, (hdocument _ htext _).mpr ⟨hfits, hoptions, hvalid⟩, rfl, hoptions ▸ hsolver⟩

/-- **A solver section leaves the driving profile**, also in the fields that it does not name. -/
theorem not_read_overrides_driving :
    let inner : List (String × Setting) := [("voxel_neighborhood", .integer 1)]
    let entries : List (String × Setting) := [("solver", .table inner)]
    Toml.read? "[solver]\nvoxel_neighborhood = 1\n" = some (.table entries) ∧
      schema.Fits Toml.conventions entries ∧
      ∃ o : OdometryOptions Float, ofToml "[solver]\nvoxel_neighborhood = 1\n" = .ok o ∧
        o.solver.iterations = 10 ∧
        o ≠ { driving with solver := driving.solver.overridden Toml.conventions inner } := by
  intro inner entries
  have htext : Toml.read? "[solver]\nvoxel_neighborhood = 1\n" = some (.table entries) := by cbv
  have hnames : (entries.map Prod.fst).Nodup := by decide
  have hread : schema.read Toml.conventions driving (.table entries) =
      some { driving with solver := .standard } := by rfl
  have hfits := lawful_schema.fits_of_read_table hnames hread
  have hoptions : { driving with solver := .standard } =
      driving.overridden Toml.conventions entries :=
    ((read_table_eq_some_iff hnames).mp hread).2
  have hdocument := (ofToml_eq_ok_iff htext hnames).mpr ⟨hfits, hoptions, by rfl⟩
  refine ⟨htext, hfits, _, hdocument, rfl, fun heq => ?_⟩
  have hiterations : (10 : Nat) = 30 := congrArg (fun o => o.solver.iterations) heq
  exact absurd hiterations (by decide)

end OdometryOptions

end LidarOdometry
