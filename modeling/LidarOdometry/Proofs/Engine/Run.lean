import LidarOdometry.Engine
import LidarOdometry.Proofs.Options.Validity
import LidarOdometry.Proofs.Registration.Exits
import LidarOdometry.Proofs.Voxel.Refinement

/-!
# Runs of an Engine

An engine is called with scan after scan, each with or without a guess of its motion. A call
registers the thinned scan against the map as it stands. If the scan is rejected nothing but the
session changes; if it is accepted its motion joins the trajectory, and the map goes on by an
insertion and a pruning. Options and solver never change, and the map represents groups of points
throughout.

## Main definitions

* `ScanCall`, `Engine.call`: a scan to be registered, and what the engine does with it.
* `Engine.scanFor`: the thinned scan, with its guess.
* `Engine.after`, `Engine.history`: the engine after calls, and the calls with their summaries.

## Main results

* `Engine.exists_ofOptions`: valid options make an engine.
* `Engine.call_eq`: all that a call does.
* `Engine.exists_of_rejected`, `Engine.exists_of_accepted`: the engine after a call.
* `Engine.exists_call_eq_founded`: the first scan is accepted at once.
* `Engine.after_induction`: what every call preserves holds after a run.
* `Engine.exists_last_accepted`: the last accepted scan of a run.
* `Engine.represents_after`: the map after a run represents groups.
-/

namespace LidarOdometry

variable {σ α : Type}

/-- **A scan to be registered.** -/
inductive ScanCall (α : Type) where
  /-- The motion is guessed from the trajectory. -/
  | predicted (points : List (ScanPoint α))
  /-- The motion is guessed outside. -/
  | guessed (points : List (ScanPoint α)) (guess : ScanMotion α)

/-- The points of the scan. -/
def ScanCall.points : ScanCall α → List (ScanPoint α)
  | predicted points => points
  | guessed points _ => points

namespace Engine

variable [Scalar α] {e : Engine σ α} {c : ScanCall α}

/-! ### Calls -/

/-- **What the engine does with a scan.** -/
def call (e : Engine σ α) : ScanCall α → Summary α × Engine σ α
  | .predicted points => e.register points
  | .guessed points guess => e.registerFrom points guess

/-- The guess that a scan is registered from. -/
def guessFor (e : Engine σ α) : ScanCall α → ScanMotion α
  | .predicted points => e.options.initialization.predictTimed e.trajectory points
  | .guessed _ guess => guess

/-- **The scan that is registered**, thinned and with its guess. -/
def scanFor (e : Engine σ α) (c : ScanCall α) : Scan α :=
  let (thinningSize, keypointSize) := e.options.gridSizes e.trajectory.length
  ⟨Sampler.thin thinningSize c.points, e.guessFor c, e.trajectory.getLast?, e.trajectory.length,
    thinningSize, keypointSize⟩

/-- **All that a call does.** What the sampler was used for before does not matter to it. -/
theorem call_eq (e : Engine σ α) (c : ScanCall α) : ∃ sampler,
    let run := e.registrar.register (e.scanFor c) ⟨e.session.memory, sampler⟩
    let summary := { run.1 with
      allCorrected := run.1.motion.place (e.options.compensation != .none) c.points }
    e.call c = (summary,
      if summary.isSuccess then { e with session := run.2 }.keep summary
      else { e with session := run.2 }) := by
  cases c with
  | predicted points => exact ⟨_, rfl⟩
  | guessed points guess => exact ⟨_, rfl⟩

/-- After a rejected call nothing but the session has changed. -/
theorem exists_of_rejected (h : (e.call c).1.isSuccess = false) :
    ∃ session, (e.call c).2 = { e with session } := by
  obtain ⟨sampler, heq⟩ := e.call_eq c
  rw [heq] at h ⊢
  exact ⟨_, if_neg (ne_true_of_eq_false h)⟩

/-- A rejected call does not change the map. -/
theorem map_of_rejected (h : (e.call c).1.isSuccess = false) : (e.call c).2.map = e.map := by
  obtain ⟨session, heq⟩ := exists_of_rejected h
  rw [heq]

/-- After an accepted call its points have entered the map and its motion the trajectory. -/
theorem exists_of_accepted (h : (e.call c).1.isSuccess = true) :
    ∃ session, (e.call c).2 = { e with session }.keep (e.call c).1 := by
  obtain ⟨sampler, heq⟩ := e.call_eq c
  rw [heq] at h ⊢
  exact ⟨_, if_pos h⟩

/-- An accepted call appends the motion of its summary to the trajectory. -/
theorem trajectory_of_accepted (h : (e.call c).1.isSuccess = true) :
    (e.call c).2.trajectory = e.trajectory ++ [(e.call c).1.motion] := by
  obtain ⟨session, heq⟩ := exists_of_accepted h
  rw [heq]
  rfl

/-- A first scan has no previous one. -/
theorem scanFor_previous_of_first (htrajectory : e.trajectory = []) :
    (e.scanFor c).previous = none := by
  change e.trajectory.getLast? = none
  rw [htrajectory, List.getLast?_nil]

/-- **The first scan** is accepted at once, and the solver remembers what it did. -/
theorem exists_call_eq_founded (htrajectory : e.trajectory = []) (hpoints : c.points ≠ []) :
    ∃ sampler,
      let founded := e.registrar.founded (e.scanFor c)
      let summary := { founded with
        allCorrected := founded.motion.place (e.options.compensation != .none) c.points }
      e.call c = (summary, { e with session := ⟨e.session.memory, sampler⟩ }.keep summary) := by
  obtain ⟨sampler, heq⟩ := e.call_eq c
  obtain ⟨sampler', hfounded⟩ := Registrar.register_of_first (r := e.registrar)
    (Sampler.thin_ne_nil hpoints) (scanFor_previous_of_first htrajectory)
    ⟨e.session.memory, sampler⟩
  rw [hfounded] at heq
  exact ⟨sampler', heq⟩

/-- The first scan is accepted at its guess. -/
theorem call_first (htrajectory : e.trajectory = []) (hpoints : c.points ≠ []) :
    (e.call c).1.isSuccess = true ∧ (e.call c).1.motion = e.guessFor c := by
  obtain ⟨sampler, heq⟩ := exists_call_eq_founded htrajectory hpoints
  rw [heq]
  exact ⟨rfl, rfl⟩

/-- Calls change neither the options nor the solver. -/
theorem call_settings (e : Engine σ α) (c : ScanCall α) :
    (e.call c).2.options = e.options ∧ (e.call c).2.solver = e.solver := by
  cases hsuccess : (e.call c).1.isSuccess with
  | true =>
      obtain ⟨session, heq⟩ := exists_of_accepted hsuccess
      rw [heq]
      exact ⟨rfl, rfl⟩
  | false =>
      obtain ⟨session, heq⟩ := exists_of_rejected hsuccess
      rw [heq]
      exact ⟨rfl, rfl⟩

/-! ### Runs -/

/-- **The engine after calls** made one after the other. -/
def after (e : Engine σ α) (calls : List (ScanCall α)) : Engine σ α :=
  calls.foldl (fun e c => (e.call c).2) e

/-- A run starts with its first call. -/
theorem after_cons (e : Engine σ α) (c : ScanCall α) (calls : List (ScanCall α)) :
    e.after (c :: calls) = (e.call c).2.after calls := rfl

/-- A run over two lists of calls is one run after the other. -/
theorem after_append (e : Engine σ α) (earlier later : List (ScanCall α)) :
    e.after (earlier ++ later) = (e.after earlier).after later :=
  List.foldl_append

/-- A single call. -/
theorem after_singleton (e : Engine σ α) (c : ScanCall α) : e.after [c] = (e.call c).2 := rfl

/-- One call after others. -/
theorem after_concat (e : Engine σ α) (earlier : List (ScanCall α)) (c : ScanCall α) :
    e.after (earlier ++ [c]) = ((e.after earlier).call c).2 :=
  e.after_append earlier [c]

/-- **The calls with their summaries.** -/
def history : Engine σ α → List (ScanCall α) → List (ScanCall α × Summary α)
  | _, [] => []
  | e, c :: calls => (c, (e.call c).1) :: history (e.call c).2 calls

/-- After a run of rejected calls nothing but the session has changed. -/
theorem exists_of_all_rejected {calls : List (ScanCall α)}
    (h : ∀ entry ∈ e.history calls, entry.2.isSuccess = false) :
    ∃ session, e.after calls = { e with session } := by
  induction calls generalizing e with
  | nil => exact ⟨e.session, rfl⟩
  | cons c calls ih =>
      rw [history, List.forall_mem_cons] at h
      obtain ⟨session, heq⟩ := exists_of_rejected h.1
      obtain ⟨session', heq'⟩ := ih h.2
      rw [after_cons, heq', heq]
      exact ⟨session', rfl⟩

/-- **What every call preserves** holds after a run. -/
theorem after_induction {P : Engine σ α → Prop} (hstep : ∀ e c, P e → P (e.call c).2)
    (h : P e) (calls : List (ScanCall α)) : P (e.after calls) := by
  induction calls generalizing e with
  | nil => exact h
  | cons c calls ih => exact ih (hstep e c h)

/-- Runs change neither the options nor the solver. -/
theorem after_settings (e : Engine σ α) (calls : List (ScanCall α)) :
    (e.after calls).options = e.options ∧ (e.after calls).solver = e.solver := by
  refine after_induction (P := fun e' => e'.options = e.options ∧ e'.solver = e.solver)
    (fun e' c h => ?_) ⟨rfl, rfl⟩ calls
  obtain ⟨hoptions, hsolver⟩ := e'.call_settings c
  exact ⟨hoptions.trans h.1, hsolver.trans h.2⟩

/-- As long as the trajectory has no motions no scan was accepted, and the map is as it was. -/
theorem map_after_of_trajectory_eq_nil {calls : List (ScanCall α)}
    (h : (e.after calls).trajectory = []) : (e.after calls).map = e.map := by
  refine after_induction (P := fun e' => e'.trajectory = [] → e'.map = e.map)
    (fun e' c ih hnil => ?_) (fun _ => rfl) calls h
  cases hsuccess : (e'.call c).1.isSuccess with
  | true =>
      rw [trajectory_of_accepted hsuccess] at hnil
      exact absurd hnil (List.append_ne_nil_of_right_ne_nil _ (List.cons_ne_nil _ _))
  | false =>
      obtain ⟨session, heq⟩ := exists_of_rejected hsuccess
      rw [heq] at hnil ⊢
      exact ih hnil

/-- **The last accepted scan** of a run. The induction is on the calls: if some later one is
accepted the last of those is, and otherwise the first call is the last accepted. -/
theorem exists_last_accepted {calls : List (ScanCall α)}
    (h : ∃ entry ∈ e.history calls, entry.2.isSuccess = true) :
    ∃ earlier c later, calls = earlier ++ c :: later ∧
      ((e.after earlier).call c).1.isSuccess = true ∧
      ∀ entry ∈ ((e.after earlier).call c).2.history later, entry.2.isSuccess = false := by
  induction calls generalizing e with
  | nil =>
      obtain ⟨entry, hentry, -⟩ := h
      cases hentry
  | cons c calls ih =>
      by_cases hrest : ∃ entry ∈ (e.call c).2.history calls, entry.2.isSuccess = true
      · obtain ⟨earlier, c', later, rfl, hsuccess, hlater⟩ := ih hrest
        exact ⟨c :: earlier, c', later, rfl, hsuccess, hlater⟩
      · obtain ⟨entry, hentry, hsuccess⟩ := h
        rcases List.mem_cons.mp hentry with rfl | hentry
        · refine ⟨[], c, calls, rfl, hsuccess, fun entry' hentry' => ?_⟩
          exact eq_false_of_ne_true fun hsuccess' => hrest ⟨entry', hentry', hsuccess'⟩
        · exact absurd ⟨entry, hentry, hsuccess⟩ hrest

/-- An engine that has motions has accepted scans, and its map is the one that the last of these
has left. -/
theorem exists_map_eq_of_trajectory_ne_nil {calls : List (ScanCall α)} (hnew : e.trajectory = [])
    (h : (e.after calls).trajectory ≠ []) :
    ∃ earlier c later, calls = earlier ++ c :: later ∧
      ((e.after earlier).call c).1.isSuccess = true ∧
      (∀ entry ∈ ((e.after earlier).call c).2.history later, entry.2.isSuccess = false) ∧
      (e.after calls).map = ((e.after earlier).call c).2.map := by
  have haccepted : ∃ entry ∈ e.history calls, entry.2.isSuccess = true := by
    by_contra hnone
    have hrejected : ∀ entry ∈ e.history calls, entry.2.isSuccess = false := fun entry hentry =>
      eq_false_of_ne_true fun hsuccess => hnone ⟨entry, hentry, hsuccess⟩
    obtain ⟨session, heq⟩ := exists_of_all_rejected hrejected
    rw [heq] at h
    exact h hnew
  obtain ⟨earlier, c, later, rfl, hsuccess, hlater⟩ := exists_last_accepted haccepted
  obtain ⟨session, heq⟩ := exists_of_all_rejected hlater
  refine ⟨earlier, c, later, rfl, hsuccess, hlater, ?_⟩
  rw [after_append, after_cons, heq]

/-! ### New engines -/

/-- A new engine, field by field. -/
theorem eq_of_ofOptions {options : OdometryOptions α} {solver : Solver σ α} {memory : σ}
    (h : ofOptions options solver memory = .ok e) :
    e = ⟨options, solver, ⟨memory, .fresh⟩, [],
      .empty options.resolvedSolver.voxelSize options.maxPointsPerVoxel⟩ := by
  cases hvalid : options.validate with
  | error fault =>
      rw [ofOptions, hvalid] at h
      cases h
  | ok =>
      rw [ofOptions, hvalid] at h
      cases h
      rfl

/-- An engine keeps the options and the solver it was made with. -/
theorem settings_after_ofOptions {options : OdometryOptions α} {solver : Solver σ α} {memory : σ}
    (h : ofOptions options solver memory = .ok e) (calls : List (ScanCall α)) :
    (e.after calls).options = options ∧ (e.after calls).solver = solver := by
  obtain ⟨hoptions, hsolver⟩ := e.after_settings calls
  have hnew := eq_of_ofOptions h
  exact ⟨hoptions.trans (by rw [hnew]), hsolver.trans (by rw [hnew])⟩

/-- There is a new engine only for valid options. -/
theorem valid_of_ofOptions {options : OdometryOptions α} {solver : Solver σ α} {memory : σ}
    (h : ofOptions options solver memory = .ok e) : options.Valid := by
  rw [← OdometryOptions.validate_eq_ok_iff]
  cases hvalid : options.validate with
  | error fault =>
      rw [ofOptions, hvalid] at h
      cases h
  | ok => rfl

/-- For valid options there is one, with any solver. -/
theorem exists_ofOptions {options : OdometryOptions α} (hvalid : options.Valid)
    (solver : Solver σ α) (memory : σ) : ∃ e, ofOptions options solver memory = .ok e := by
  rw [ofOptions, OdometryOptions.validate_eq_ok_iff.mpr hvalid]
  exact ⟨_, rfl⟩

/-- After its first scan an engine has one motion, the guess. -/
theorem trajectory_after_first {options : OdometryOptions α} {solver : Solver σ α} {memory : σ}
    (h : ofOptions options solver memory = .ok e) (hpoints : c.points ≠ []) :
    (e.after [c]).trajectory = [e.guessFor c] := by
  have htrajectory : e.trajectory = [] := by rw [eq_of_ofOptions h]
  obtain ⟨hsuccess, hmotion⟩ := call_first htrajectory hpoints
  have happended := trajectory_of_accepted hsuccess
  rw [htrajectory, hmotion] at happended
  exact happended

/-! ### The map -/

section Map

variable {g : VoxelGroups α}

/-- The groups of the map of an engine after an accepted scan. -/
def groupsAfter (e : Engine σ α) (g : VoxelGroups α) (summary : Summary α) : VoxelGroups α :=
  (g.insert e.map.voxelSize (e.options.density.clamp e.map.capacity)
    (summary.corrected.map ScanPoint.world)).prune summary.motion.finish.position
      e.options.maxDistance

/-- **An accepted scan** takes the groups of the map through an insertion and a pruning. -/
theorem represents_keep (h : e.map.Represents g) (ht : e.map.arena.Tracked)
    (summary : Summary α) : (e.keep summary).map.Represents (e.groupsAfter g summary) ∧
      (e.keep summary).map.arena.Tracked := by
  have hinsert := h.performs_performCall ht
    (.insert (summary.corrected.map ScanPoint.world) e.options.density)
  have hinserted := (h.performs hinsert.1).1
  have hprune := hinserted.performs_performCall hinsert.2
    (.prune summary.motion.finish.position e.options.maxDistance)
  exact ⟨(hinserted.performs hprune.1).1, hprune.2⟩

/-- **The map after a run** represents groups. -/
theorem represents_after {options : OdometryOptions α} {solver : Solver σ α} {memory : σ}
    (h : ofOptions options solver memory = .ok e) (calls : List (ScanCall α)) :
    ∃ g, (e.after calls).map.Represents g ∧ (e.after calls).map.arena.Tracked := by
  refine after_induction (P := fun e => ∃ g, e.map.Represents g ∧ e.map.arena.Tracked)
    (fun e c hmap => ?_) ?_ calls
  · obtain ⟨g, hrepresents, htracked⟩ := hmap
    cases hsuccess : (e.call c).1.isSuccess with
    | true =>
        obtain ⟨session, heq⟩ := exists_of_accepted hsuccess
        rw [heq]
        exact ⟨_, represents_keep hrepresents htracked (e.call c).1⟩
    | false =>
        obtain ⟨session, heq⟩ := exists_of_rejected hsuccess
        rw [heq]
        exact ⟨g, hrepresents, htracked⟩
  · rw [eq_of_ofOptions h]
    exact ⟨_, VoxelMap.represents_empty _ _, VoxelArena.tracked_empty _⟩

end Map

end Engine

end LidarOdometry
