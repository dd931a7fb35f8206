import LidarOdometry.Proofs.Engine.Run
import LidarOdometry.Proofs.Registration.Acceptance

/-!
# Accepted Scans of an Engine

In every run of an engine a scan after the first is accepted exactly if the attempt that
registration stops at is answered with an acceptable motion. Acceptable motions are within bounds as
far as they are numbers, but a motion that is not a number is asked for less, so a solver may put
it into the trajectory. If its finish is not a number the map is lost with it: no voxel is near a
place that is not a number, and pruning leaves none.

## Main definitions

* `Engine.believing`: a solver that believes its guess if there are enough keypoints.
* `Engine.lost`: a solver that finds every scan nowhere.

## Main results

* `Engine.isSuccess_call_iff_passes`, `Engine.isSuccess_call_iff`: when a scan is accepted, in any
  arithmetic and in floating point.
* `Engine.call_believing`, `Engine.call_doubting`: scans with enough keypoints, and with too few.
* `Engine.calls_believing`: a run with a rejected scan between two accepted ones.
* `Engine.size_map_of_hasNaN`: a finish that is not a number empties the map.
* `Engine.accepted_iff_acceptable`: acceptance in all runs, for all solvers and all values.
-/

namespace LidarOdometry

/-! ### Pruning around a place that is not a number -/

/-- No points are near a place that is not a number. -/
theorem VoxelGroups.not_isNear_of_hasNaN {place : Vec3 Float} (h : place.HasNaN)
    (distanceSq : Float) (points : List (Vec3 Float)) : ¬ IsNear place distanceSq points := by
  rintro ⟨first, -, hnear⟩
  obtain ⟨hnumber, -, -⟩ := NotANumber.le_iff.mp hnear
  rw [NotANumber.isNaN_normSq (NotANumber.hasNaN_sub (.inr h))] at hnumber
  cases hnumber

/-- **Pruning around a place that is not a number** leaves nothing. -/
theorem VoxelGroups.size_prune_of_hasNaN {place : Vec3 Float} (h : place.HasNaN)
    (g : VoxelGroups Float) (maxDistance : Float) : (g.prune place maxDistance).size = 0 := by
  refine Finset.sum_eq_zero fun key _ => ?_
  rw [prune, group_filter, if_neg (not_isNear_of_hasNaN h _ _), List.length_nil]

namespace Engine

/-! ### One call -/

section Call

variable {σ α : Type} [Scalar α] {e : Engine σ α} {c : ScanCall α} {previous : ScanMotion α}

/-- An accepted scan has points. -/
theorem points_ne_nil_of_accepted (h : (e.call c).1.isSuccess = true) :
    (e.scanFor c).points ≠ [] := by
  obtain ⟨sampler, heq⟩ := e.call_eq c
  rw [heq] at h
  intro hpoints
  rw [Registrar.register_of_nil hpoints] at h
  cases h

/-- **A scan after the first is accepted** exactly if the attempt that registration stops at is
answered with a motion that passes. -/
theorem isSuccess_call_iff_passes (hvalid : e.options.Valid)
    (hprevious : e.trajectory.getLast? = some previous) : (e.call c).1.isSuccess = true ↔
      (e.scanFor c).points ≠ [] ∧ ∃ i registered,
        e.registrar.StopsAt (e.scanFor c) previous e.session.memory i ∧
        e.registrar.answer (e.scanFor c) previous e.session.memory i = .ok registered ∧
        Passes e.options (e.guessFor c) previous registered.motion := by
  by_cases hpoints : (e.scanFor c).points = []
  · exact ⟨fun h => absurd hpoints (points_ne_nil_of_accepted h), fun h => absurd hpoints h.1⟩
  · obtain ⟨sampler, heq⟩ := e.call_eq c
    have hregister := Registrar.isSuccess_register_iff (r := e.registrar) hpoints hprevious
      (Nat.pos_of_ne_zero hvalid.maxAttempts) ⟨e.session.memory, sampler⟩
    rw [heq]
    exact hregister.trans ⟨fun h => ⟨hpoints, h⟩, fun h => h.2⟩

/-- The motion of the summary is what the solver answers in that attempt. -/
theorem motion_call (hvalid : e.options.Valid) (hprevious : e.trajectory.getLast? = some previous)
    (hpoints : (e.scanFor c).points ≠ []) {i : Nat} {registered : Registered α}
    (hstops : e.registrar.StopsAt (e.scanFor c) previous e.session.memory i)
    (hanswer : e.registrar.answer (e.scanFor c) previous e.session.memory i = .ok registered) :
    (e.call c).1.motion = registered.motion := by
  obtain ⟨sampler, heq⟩ := e.call_eq c
  rw [heq]
  exact Registrar.motion_register (r := e.registrar) hpoints hprevious
    (Nat.pos_of_ne_zero hvalid.maxAttempts) ⟨e.session.memory, sampler⟩ hstops hanswer

/-- The motion of an accepted scan passes. -/
theorem passes_call (hvalid : e.options.Valid)
    (hprevious : e.trajectory.getLast? = some previous)
    (h : (e.call c).1.isSuccess = true) :
    Passes e.options (e.guessFor c) previous (e.call c).1.motion := by
  obtain ⟨hpoints, i, registered, hstops, hanswer, hpasses⟩ :=
    (isSuccess_call_iff_passes hvalid hprevious).mp h
  rw [motion_call hvalid hprevious hpoints hstops hanswer]
  exact hpasses

/-- **A scan is accepted in the first attempt** if its answer passes. -/
theorem call_of_answer (hvalid : e.options.Valid)
    (hprevious : e.trajectory.getLast? = some previous) (hpoints : c.points ≠ [])
    {registered : Registered α}
    (hanswer : e.registrar.answer (e.scanFor c) previous e.session.memory 0 = .ok registered)
    (hpasses : Passes e.options (e.guessFor c) previous registered.motion) :
    (e.call c).1.isSuccess = true ∧ (e.call c).1.motion = registered.motion := by
  have hthinned : (e.scanFor c).points ≠ [] := Sampler.thin_ne_nil hpoints
  have hstops : e.registrar.StopsAt (e.scanFor c) previous e.session.memory 0 :=
    Registrar.stopsAt_zero (Nat.pos_of_ne_zero hvalid.maxAttempts) hanswer hpasses
  refine ⟨?_, motion_call hvalid hprevious hthinned hstops hanswer⟩
  exact (isSuccess_call_iff_passes hvalid hprevious).mpr
    ⟨hthinned, 0, registered, hstops, hanswer, hpasses⟩

end Call

/-! ### A solver that believes its guess -/

section Believing

variable {α : Type} [Scalar α] {needed : Nat} {e : Engine Unit α} {c : ScanCall α}
  {previous : ScanMotion α} {p q : ScanPoint α}

omit [Scalar α] in
/-- A solver that believes its guess if it is given enough keypoints, and fails otherwise. -/
def believing (needed : Nat) : Solver Unit α :=
  .pure fun problem _ =>
    if problem.keypoints.length < needed then
      .error (.tooFewResiduals problem.keypoints.length needed)
    else .ok ⟨problem.guess, problem.keypoints, 0⟩

/-- **A scan with enough keypoints** is accepted at its guess if that passes. -/
theorem call_believing (hvalid : e.options.Valid) (hsolver : e.solver = believing needed)
    (hprevious : e.trajectory.getLast? = some previous) (hpoints : c.points ≠ [])
    (henough : needed ≤ (e.registrar.keypoints (e.scanFor c) 0).length)
    (hpasses : Passes e.options (e.guessFor c) previous (e.guessFor c)) :
    (e.call c).1.isSuccess = true ∧ (e.call c).1.motion = e.guessFor c := by
  obtain ⟨registered, hanswer, hmotion⟩ : ∃ registered,
      e.registrar.answer (e.scanFor c) previous e.session.memory 0 = .ok registered ∧
        registered.motion = e.guessFor c := by
    have hbelieving : e.registrar.solver = believing needed := hsolver
    rw [Registrar.answer, hbelieving]
    exact ⟨_, if_neg (Nat.not_lt.mpr henough), rfl⟩
  rw [← hmotion]
  refine call_of_answer hvalid hprevious hpoints hanswer ?_
  rw [hmotion]
  exact hpasses

/-- **A scan with too few points** is not registered in any attempt. -/
theorem call_doubting (hvalid : e.options.Valid) (hsolver : e.solver = believing needed)
    (hrobust : e.options.robust = true) (hprevious : e.trajectory.getLast? = some previous)
    (hpoints : c.points ≠ []) (hfew : c.points.length < needed) :
    (e.call c).1.isSuccess = false ∧
      ∃ last, (e.call c).1.failure = some (.exhausted e.options.maxAttempts last) := by
  have hthinned : (e.scanFor c).points ≠ [] := Sampler.thin_ne_nil hpoints
  have hanswer : ∀ i, ∃ cause,
      e.registrar.answer (e.scanFor c) previous e.session.memory i = .error cause := by
    intro i
    have hkeypoints : (e.registrar.keypoints (e.scanFor c) i).length < needed := by
      calc (e.registrar.keypoints (e.scanFor c) i).length
          ≤ (e.registrar.undone (e.scanFor c)).length := Sampler.length_thin_le _ _
        _ = (e.scanFor c).points.length := Registrar.length_undone
        _ ≤ c.points.length := Sampler.length_thin_le _ _
        _ < needed := hfew
    have hbelieving : e.registrar.solver = believing needed := hsolver
    rw [Registrar.answer, hbelieving]
    exact ⟨_, if_pos hkeypoints⟩
  obtain ⟨sampler, heq⟩ := e.call_eq c
  obtain ⟨i, -, hreports, -⟩ := Registrar.register_reports (r := e.registrar) hthinned hprevious
    (Nat.pos_of_ne_zero hvalid.maxAttempts) ⟨e.session.memory, sampler⟩
  obtain ⟨cause, hcause⟩ := hanswer i
  have hresult : e.registrar.result (e.scanFor c) previous e.session.memory i =
      .unsolved cause := by
    rw [Registrar.result, hcause]
    rfl
  have hundecided : e.registrar.decides (e.scanFor c) previous e.session.memory i = false := by
    rw [Registrar.decides, hresult]
    exact Bool.and_false _
  have hmost : e.registrar.maxAttempts = e.options.maxAttempts := if_pos hrobust
  obtain ⟨last, hlast⟩ := Registrar.failureAt_of_undecided hrobust hundecided
  rw [heq, ← hmost]
  refine ⟨hreports.isSuccess_eq.trans ?_, last, hreports.failure_eq.trans hlast⟩
  rw [hresult]
  rfl

/-- Two points in different voxels of both grids are the keypoints of their scan, unless its motion
is undone first. -/
theorem keypoints_of_pair (hmode : e.options.compensation ≠ .constantVelocity)
    (hpoints : c.points = [p, q])
    (hthinned : let size := (e.options.gridSizes e.trajectory.length).1
      p.voxel size ≠ q.voxel size)
    (hdrawn : let size := (e.options.gridSizes e.trajectory.length).2
      p.voxel size ≠ q.voxel size) :
    e.registrar.keypoints (e.scanFor c) 0 = [p, q] := by
  have hscan : (e.scanFor c).points = [p, q] := by
    change Sampler.thin _ c.points = [p, q]
    rw [hpoints]
    exact Sampler.thin_pair hthinned
  have hundone : e.registrar.undone (e.scanFor c) = [p, q] := (if_neg hmode).trans hscan
  rw [Registrar.keypoints, hundone]
  exact Sampler.thin_pair hdrawn

/-- **A run with this solver**, which asks for two keypoints. The first scan is accepted; a scan of
less than two points uses up its attempts and is rejected; and a scan of two points that are far
enough apart is accepted at its guess, if that passes as a motion after the first. -/
theorem calls_believing {options : OdometryOptions α} {fresh : Engine Unit α}
    (hfresh : ofOptions options (believing 2) () = .ok fresh) (hrobust : options.robust = true)
    (hmode : options.compensation ≠ .constantVelocity) {c' : ScanCall α} {guess : ScanMotion α}
    (hpoints : c.points ≠ []) (hpoints' : c'.points ≠ []) (hfew : c'.points.length < 2)
    (hthinned : p.voxel (options.gridSizes 1).1 ≠ q.voxel (options.gridSizes 1).1)
    (hdrawn : p.voxel (options.gridSizes 1).2 ≠ q.voxel (options.gridSizes 1).2)
    (hpasses : Passes options guess (fresh.guessFor c) guess) :
    (fresh.call c).1.isSuccess = true ∧
      (let rejected := ((fresh.after [c]).call c').1
      rejected.isSuccess = false ∧
        ∃ last, rejected.failure = some (.exhausted options.maxAttempts last)) ∧
      (let accepted := ((fresh.after [c, c']).call (.guessed [p, q] guess)).1
      accepted.isSuccess = true ∧ accepted.motion = guess) ∧
      (fresh.after [c, c', .guessed [p, q] guess]).trajectory = [fresh.guessFor c, guess] := by
  have hvalid : options.Valid := valid_of_ofOptions hfresh
  have htrajectory := trajectory_after_first hfresh hpoints
  have hnew : fresh.trajectory = [] := by rw [eq_of_ofOptions hfresh]
  obtain ⟨hoptions, hsolver⟩ := settings_after_ofOptions hfresh [c]
  obtain ⟨hrejected, hfailure⟩ := call_doubting (hoptions ▸ hvalid) hsolver (hoptions ▸ hrobust)
    (htrajectory ▸ List.getLast?_singleton) hpoints' hfew
  obtain ⟨session, heq⟩ := exists_of_rejected hrejected
  obtain ⟨hoptions', hsolver'⟩ := settings_after_ofOptions hfresh [c, c']
  have htrajectory' : (fresh.after [c, c']).trajectory = [fresh.guessFor c] :=
    (congrArg Engine.trajectory heq).trans htrajectory
  have hkeypoints : (fresh.after [c, c']).registrar.keypoints
      ((fresh.after [c, c']).scanFor (.guessed [p, q] guess)) 0 = [p, q] := by
    refine keypoints_of_pair (hoptions'.symm ▸ hmode) rfl ?_ ?_
    · rw [hoptions', htrajectory']
      exact hthinned
    · rw [hoptions', htrajectory']
      exact hdrawn
  obtain ⟨haccepted, hmotion⟩ := call_believing (c := .guessed [p, q] guess)
    (hoptions'.symm ▸ hvalid) hsolver' (htrajectory' ▸ List.getLast?_singleton)
    (List.cons_ne_nil _ _) (congrArg List.length hkeypoints).ge (hoptions'.symm ▸ hpasses)
  have hend : fresh.after [c, c', .guessed [p, q] guess] =
      ((fresh.after [c, c']).call (.guessed [p, q] guess)).2 := fresh.after_concat [c, c'] _
  refine ⟨(call_first hnew hpoints).1, ⟨hrejected, hoptions ▸ hfailure⟩, ⟨haccepted, hmotion⟩, ?_⟩
  rw [hend, trajectory_of_accepted haccepted, hmotion, htrajectory']
  rfl

/-- A scan of a single point. -/
def singlePoint : ScanCall Float :=
  .predicted [.untimed ⟨1, 0, 0⟩]

/-- A scan of two points that are far enough apart. -/
def twoPoints : ScanCall Float :=
  .predicted [.untimed 0, .untimed ⟨2, 0, 0⟩]

/-- A step ahead, from the origin. -/
def stepAhead : ScanMotion Float :=
  .between .identity ⟨.identity, ⟨1, 0, 0⟩⟩

/-- The same points, seen during the step. -/
def twoPointsAhead : ScanCall Float :=
  .guessed [.untimed 0, .untimed ⟨2, 0, 0⟩] stepAhead

/-- In robust registration, a scan of one point between two scans of two points is rejected after
ten attempts. -/
theorem calls_believing_slowOutdoor {fresh : Engine Unit Float}
    (hfresh : ofOptions .slowOutdoor (believing 2) () = .ok fresh) :
    (fresh.call twoPoints).1.isSuccess = true ∧
      ((fresh.after [twoPoints]).call singlePoint).1.isSuccess = false ∧
      (∃ last, ((fresh.after [twoPoints]).call singlePoint).1.failure =
        some (.exhausted 10 last)) ∧
      ((fresh.after [twoPoints, singlePoint]).call twoPointsAhead).1.isSuccess = true ∧
      (fresh.after [twoPoints, singlePoint, twoPointsAhead]).trajectory =
        [fresh.guessFor twoPoints, stepAhead] := by
  have hpasses : Passes .slowOutdoor stepAhead (fresh.guessFor twoPoints) stepAhead := by
    rw [eq_of_ofOptions hfresh]
    exact ⟨by decide +kernel, by decide +kernel⟩
  have hpoints : twoPoints.points ≠ [] := List.cons_ne_nil _ _
  have hpoint : singlePoint.points ≠ [] := List.cons_ne_nil _ _
  obtain ⟨hfirst, ⟨hrejected, hfailure⟩, ⟨haccepted, -⟩, htrajectory⟩ :=
    calls_believing (p := .untimed 0) (q := .untimed ⟨2, 0, 0⟩) hfresh rfl (by decide) hpoints
      hpoint Nat.one_lt_two (by decide +kernel) (by decide +kernel) hpasses
  exact ⟨hfirst, hrejected, hfailure, haccepted, htrajectory⟩

end Believing

variable {σ : Type} {e : Engine σ Float} {c : ScanCall Float} {previous : ScanMotion Float}

/-! ### One call in floating point -/

/-- **A scan after the first is accepted** exactly if the attempt that registration stops at is
answered with an acceptable motion. -/
theorem isSuccess_call_iff (hvalid : e.options.Valid)
    (hprevious : e.trajectory.getLast? = some previous) : (e.call c).1.isSuccess = true ↔
      (e.scanFor c).points ≠ [] ∧ ∃ i registered,
        e.registrar.StopsAt (e.scanFor c) previous e.session.memory i ∧
        e.registrar.answer (e.scanFor c) previous e.session.memory i = .ok registered ∧
        Acceptable e.options (e.guessFor c) previous registered.motion := by
  simp only [isSuccess_call_iff_passes hvalid hprevious, passes_iff_acceptable]

/-- The motion of an accepted scan is acceptable. -/
theorem acceptable_call (hvalid : e.options.Valid)
    (hprevious : e.trajectory.getLast? = some previous)
    (h : (e.call c).1.isSuccess = true) :
    Acceptable e.options (e.guessFor c) previous (e.call c).1.motion :=
  passes_iff_acceptable.mp (passes_call hvalid hprevious h)

/-- **A finish that is not a number** empties the map. -/
theorem size_map_of_hasNaN {g : VoxelGroups Float} (hmap : e.map.Represents g)
    (htracked : e.map.arena.Tracked) (h : (e.call c).1.isSuccess = true)
    (hfinish : (e.call c).1.motion.finish.position.HasNaN) : (e.call c).2.map.size = 0 := by
  obtain ⟨session, heq⟩ := exists_of_accepted h
  have hkept := (represents_keep (e := { e with session }) hmap htracked (e.call c).1).1
  rw [heq, hkept.size_eq]
  exact VoxelGroups.size_prune_of_hasNaN hfinish _ _

/-! ### A solver that is lost -/

/-- A pose that is nowhere. -/
def nowhere : Pose Float :=
  ⟨.identity, ⟨0 / 0, 0 / 0, 0 / 0⟩⟩

/-- Its place is not a number. -/
theorem hasNaN_nowhere : nowhere.position.HasNaN :=
  .inl (by decide)

/-- A solver that finds every scan nowhere. -/
def lost : Solver Unit Float :=
  .pure fun problem _ => .ok
    ⟨⟨nowhere, nowhere, problem.guess.startTime, problem.guess.finishTime⟩, problem.keypoints, 0⟩

/-- **A solver that is lost is believed**: each scan after the first is accepted in the first
attempt. -/
theorem call_lost {e : Engine Unit Float} (hvalid : e.options.Valid) (hsolver : e.solver = lost)
    (hprevious : e.trajectory.getLast? = some previous) (hpoints : c.points ≠ []) :
    (e.call c).1.isSuccess = true ∧ (e.call c).1.motion.start = nowhere ∧
      (e.call c).1.motion.finish = nowhere := by
  obtain ⟨registered, hanswer, hstart, hfinish⟩ : ∃ registered,
      e.registrar.answer (e.scanFor c) previous e.session.memory 0 = .ok registered ∧
        registered.motion.start = nowhere ∧ registered.motion.finish = nowhere := by
    have hlost : e.registrar.solver = lost := hsolver
    rw [Registrar.answer, hlost]
    exact ⟨_, rfl, rfl, rfl⟩
  have hacceptable : Acceptable e.options (e.guessFor c) previous registered.motion := by
    rw [acceptable_iff_of_start (hstart ▸ hasNaN_nowhere), hfinish]
    exact .of_isNaN (NotANumber.isNaN_distance (.inl hasNaN_nowhere))
  obtain ⟨hsuccess, hmotion⟩ := call_of_answer hvalid hprevious hpoints hanswer
    (passes_iff_acceptable.mpr hacceptable)
  rw [hmotion]
  exact ⟨hsuccess, hstart, hfinish⟩

/-- A new engine whose solver is lost has its second scan accepted, whatever the scans are. -/
theorem after_lost {options : OdometryOptions Float} {fresh : Engine Unit Float}
    (hfresh : ofOptions options lost () = .ok fresh) {c c' : ScanCall Float}
    (hpoints : c.points ≠ []) (hpoints' : c'.points ≠ []) :
    let e := fresh.after [c]
    e.trajectory = [fresh.guessFor c] ∧ (e.call c').1.isSuccess = true ∧
      (e.call c').1.motion.start = nowhere ∧ (e.call c').1.motion.finish = nowhere := by
  have htrajectory := trajectory_after_first hfresh hpoints
  obtain ⟨hoptions, hsolver⟩ := settings_after_ofOptions hfresh [c]
  refine ⟨htrajectory, call_lost ?_ hsolver (htrajectory ▸ List.getLast?_singleton) hpoints'⟩
  rw [hoptions]
  exact valid_of_ofOptions hfresh

/-- Its trajectory is not a number then, and its map is empty. -/
theorem trajectory_after_lost {options : OdometryOptions Float} {fresh : Engine Unit Float}
    (hfresh : ofOptions options lost () = .ok fresh) {c c' : ScanCall Float}
    (hpoints : c.points ≠ []) (hpoints' : c'.points ≠ []) :
    let e := fresh.after [c, c']
    ∃ first second, e.trajectory = [first, second] ∧ second.start.position.HasNaN ∧
      second.finish.position.HasNaN ∧ e.map.size = 0 := by
  obtain ⟨htrajectory, hsuccess, hstart, hfinish⟩ := after_lost hfresh hpoints hpoints'
  obtain ⟨g, hmap, htracked⟩ := represents_after hfresh [c]
  have happended := trajectory_of_accepted hsuccess
  rw [htrajectory] at happended
  have hstart' : ((fresh.after [c]).call c').1.motion.start.position.HasNaN := by
    rw [hstart]
    exact hasNaN_nowhere
  have hfinish' : ((fresh.after [c]).call c').1.motion.finish.position.HasNaN := by
    rw [hfinish]
    exact hasNaN_nowhere
  exact ⟨fresh.guessFor c, ((fresh.after [c]).call c').1.motion, happended, hstart', hfinish',
    size_map_of_hasNaN hmap htracked hsuccess hfinish'⟩

/-! ### Whole runs -/

/-- **Acceptance in every run.** A check passes if nothing is exceeded, and what passes is within
bounds exactly if the measures and their thresholds are numbers. In every run of an engine, with
any solver, a scan after the first is accepted exactly if the attempt that registration stops
at is answered with an acceptable motion. Such a motion joins the trajectory even if it is not a
number: then its finish alone is asked to be acceptable, or its start alone, and where its finish
is not a number the map is lost. -/
theorem accepted_iff_acceptable {options : OdometryOptions Float} {solver : Solver σ Float}
    {memory : σ} {fresh : Engine σ Float} (hfresh : ofOptions options solver memory = .ok fresh) :
    (∀ (a : Assessment Float) (periods : Float),
      (a.check options periods = .ok () ↔
        Unexceeded a.gap (options.maxGap * periods) ∧
          Unexceeded a.correction options.maxCorrection) ∧
      (a.InBounds options periods ↔ a.check options periods = .ok () ∧
        a.gap.isNaN = false ∧ (options.maxGap * periods).isNaN = false ∧
          a.correction.isNaN = false)) ∧
    ∀ (calls : List (ScanCall Float)) (c : ScanCall Float) (previous : ScanMotion Float),
      let e := fresh.after calls
      let guess := e.guessFor c
      let summary := (e.call c).1
      let next := (e.call c).2
      e.trajectory.getLast? = some previous →
      (summary.isSuccess = true ↔ (e.scanFor c).points ≠ [] ∧ ∃ i registered,
        e.registrar.StopsAt (e.scanFor c) previous e.session.memory i ∧
        e.registrar.answer (e.scanFor c) previous e.session.memory i = .ok registered ∧
        Acceptable options guess previous registered.motion) ∧
      (summary.isSuccess = true → Acceptable options guess previous summary.motion ∧
        next.trajectory = e.trajectory ++ [summary.motion] ∧
        (summary.motion.finish.position.HasNaN → next.map.size = 0)) ∧
      ∀ motion : ScanMotion Float,
        (motion.start.position.HasNaN → (Acceptable options guess previous motion ↔
          Unexceeded (motion.finish.distance guess.finish) options.maxCorrection)) ∧
        (motion.finish.position.HasNaN → (Acceptable options guess previous motion ↔
          Unexceeded (motion.start.distance previous.finish)
            (options.maxGap * elapsedPeriods motion (some previous) options.scanPeriod) ∧
          Unexceeded (motion.start.distance guess.start) options.maxCorrection)) := by
  have hvalid : options.Valid := valid_of_ofOptions hfresh
  refine ⟨fun a periods => ⟨Assessment.check_eq_ok_iff, Assessment.inBounds_iff hvalid⟩, ?_⟩
  intro calls c previous e guess summary next hprevious
  have hoptions : e.options = options := (settings_after_ofOptions hfresh calls).1
  obtain ⟨g, hmap, htracked⟩ := represents_after hfresh calls
  have hiff := isSuccess_call_iff (c := c) (hoptions ▸ hvalid) hprevious
  have hacceptable := acceptable_call (c := c) (hoptions ▸ hvalid) hprevious
  rw [hoptions] at hiff hacceptable
  refine ⟨hiff, fun h => ⟨hacceptable h, trajectory_of_accepted h, ?_⟩, fun motion => ?_⟩
  · exact size_map_of_hasNaN hmap htracked h
  · exact ⟨acceptable_iff_of_start, acceptable_iff_of_finish⟩

/-- The second scan of a run with a solver that is lost is accepted, and the map is lost. -/
theorem accepted_iff_acceptable_lost : ∃ fresh : Engine Unit Float,
    ofOptions .driving lost () = .ok fresh ∧
      let e := fresh.after [singlePoint]
      (e.call singlePoint).1.isSuccess = true ∧ (e.call singlePoint).2.map.size = 0 := by
  obtain ⟨fresh, hfresh⟩ : ∃ fresh : Engine Unit Float,
      ofOptions .driving lost () = .ok fresh := ⟨_, rfl⟩
  have hpoints : singlePoint.points ≠ [] := List.cons_ne_nil _ _
  obtain ⟨htrajectory, hsuccess, -, hfinish⟩ := after_lost hfresh hpoints hpoints
  obtain ⟨-, haccepted, -⟩ := (accepted_iff_acceptable hfresh).2 [singlePoint] singlePoint _
    (htrajectory ▸ List.getLast?_singleton)
  refine ⟨fresh, hfresh, hsuccess, (haccepted hsuccess).2.2 ?_⟩
  rw [hfinish]
  exact hasNaN_nowhere

/-- **Bounds do not hold of all that is accepted**: a gap that is not a number passes the check,
and a run of two scans reaches a trajectory that is not a number, with an empty map. -/
theorem not_inBounds_of_accepted :
    (∃ a : Assessment Float, a.check .driving 1 = .ok () ∧ ¬ a.InBounds .driving 1) ∧
    ∃ fresh : Engine Unit Float, ofOptions .driving lost () = .ok fresh ∧
      let e := fresh.after [singlePoint, singlePoint]
      ∃ first second, e.trajectory = [first, second] ∧ second.start.position.HasNaN ∧
        second.finish.position.HasNaN ∧ e.map.size = 0 := by
  constructor
  · have hgap : (0 / 0 : Float).isNaN = true := by decide
    refine ⟨⟨0 / 0, 0, 0, 0, 0⟩, ?_, fun h => ?_⟩
    · exact Assessment.check_eq_ok_iff.mpr ⟨.of_isNaN hgap, .inl (by decide)⟩
    · obtain ⟨hnumber, -, -⟩ := NotANumber.le_iff.mp h.1
      rw [hgap] at hnumber
      cases hnumber
  · obtain ⟨fresh, hfresh⟩ : ∃ fresh : Engine Unit Float,
        ofOptions .driving lost () = .ok fresh := ⟨_, rfl⟩
    have hpoints : singlePoint.points ≠ [] := List.cons_ne_nil _ _
    exact ⟨fresh, hfresh, trajectory_after_lost hfresh hpoints hpoints⟩

end Engine

end LidarOdometry
