import LidarOdometry.Proofs.Engine.LocalMap
import LidarOdometry.Proofs.Engine.Placement
import LidarOdometry.Proofs.Registration.Allowance
import LidarOdometry.Proofs.Voxel.Extent

/-!
# The Map That a Scan Leaves

The first scan founds the map: it is accepted at its guess without asking the solver, and its
points enter the map. In the same call, however, the map is pruned around the finish of the scan.
A voxel survives that if the point that represents it is near enough, which is the first that it was
ever given. So an accepted scan *reaches* the map, and leaves something for the next one to be
registered against, exactly if some voxel is represented near the finish; a scan all of whose
points are far away leaves an empty map, and so does a scan that is accepted far from the map.

As scans that are not accepted leave the map alone, the map after a run is the one that the last
accepted scan has left.

## Main definitions

* `Engine.Reaches`: a scan leaves some voxel near its finish.

## Main results

* `Engine.call_founded`: the first scan is accepted at once.
* `Engine.MapReached.size_pos_iff`: an accepted scan leaves points exactly if it reaches the map.
* `Engine.MapReached.reaches_of_near`: one point well within the distance suffices.
* `Engine.first_scan_founds_map`: what the map is after the first scan and after every run.
* `Engine.exists_first_scan_out_of_reach`: a first scan that leaves an empty map.
-/

namespace LidarOdometry

open VoxelMap

namespace Engine

variable {σ α : Type} [Scalar α] {e : Engine σ α} {c : ScanCall α}
  {options : OdometryOptions α} {solver : Solver σ α} {memory : σ}

/-! ### The first scan -/

/-- **The first scan** is accepted in one attempt, and the solver is asked nothing. -/
theorem call_founded (htrajectory : e.trajectory = []) (hpoints : c.points ≠ []) :
    (e.call c).1.isSuccess = true ∧ (e.call c).1.attempts = 1 ∧ (e.call c).1.failure = none ∧
      (∀ session, e.registrar.asked (e.scanFor c) session = []) ∧
      (e.call c).2.session.memory = e.session.memory := by
  have hasked := Registrar.asked_of_first (r := e.registrar) (Sampler.thin_ne_nil hpoints)
    (scanFor_previous_of_first htrajectory)
  obtain ⟨sampler, heq⟩ := exists_call_eq_founded htrajectory hpoints
  rw [heq]
  exact ⟨rfl, rfl, rfl, hasked, rfl⟩

/-- A first scan of a single point is placed by its guess. -/
theorem map_world_corrected_of_singleton (htrajectory : e.trajectory = []) {p : ScanPoint α}
    (hpoints : c.points = [p]) : (e.call c).1.corrected.map ScanPoint.world =
      [(e.guessFor c).locate e.options.compensation.placesAlongScan p] := by
  have hthinned : (e.scanFor c).points = [p] := by
    change Sampler.thin _ c.points = [p]
    rw [hpoints, Sampler.thin_singleton]
  obtain ⟨sampler, heq⟩ := exists_call_eq_founded htrajectory (hpoints ▸ List.cons_ne_nil _ _)
  rw [heq]
  change ((e.guessFor c).place _ (e.scanFor c).points).map ScanPoint.world = _
  rw [hthinned]
  rfl

/-! ### One scan -/

/-- **A scan reaches the map** if it leaves some voxel that is represented near its finish: by the
point that represented the voxel before, or else by the first point of the scan that falls into
it. -/
def Reaches (e : Engine σ α) (summary : Summary α) : Prop :=
  ∃ key first, (e.map.first? key).or
      ((summary.corrected.map ScanPoint.world).find? fun p => e.map.keyOf p = key) = some first ∧
    (first - summary.motion.finish.position).normSq ≤ e.options.maxDistance * e.options.maxDistance

/-- In an empty map a voxel is represented by the first point that falls into it. -/
theorem reaches_iff_of_empty {voxelSize : α} {capacity : Nat}
    (hmap : e.map = .empty voxelSize capacity) (summary : Summary α) :
    e.Reaches summary ↔ ∃ key first,
      (summary.corrected.map ScanPoint.world).find?
        (fun p => VoxelKey.ofPoint voxelSize p = key) = some first ∧
      (first - summary.motion.finish.position).normSq ≤
        e.options.maxDistance * e.options.maxDistance := by
  have hnone : ∀ key, (empty voxelSize capacity).first? key = none := fun key => by
    rw [(represents_empty _ _).first?_eq]
    rfl
  simp only [Reaches, hmap, hnone, Option.none_or]
  rfl

/-- **An accepted scan leaves points** exactly if it reaches the map. -/
theorem MapReached.size_pos_iff (h : e.MapReached options) (hvalid : options.Valid)
    (hsuccess : (e.call c).1.isSuccess = true) :
    0 < (e.call c).2.map.size ↔ e.Reaches (e.call c).1 := by
  obtain ⟨g, hrepresents, -⟩ := (h.call c).exists_tidy
  rw [hrepresents.size_eq, VoxelGroups.size_pos_iff]
  refine exists_congr fun key => ?_
  rw [← List.isSome_head?, ← hrepresents.first?_eq, Option.isSome_iff_exists]
  exact exists_congr fun first => h.first?_call hvalid hsuccess

/-- The point that a voxel is represented by after an insertion falls into the voxel. -/
theorem MapReached.keyOf_eq_of_or_find? (h : e.MapReached options) {key : VoxelKey}
    {points : List (Vec3 α)} {first : Vec3 α}
    (hfirst : (e.map.first? key).or (points.find? fun p => e.map.keyOf p = key) = some first) :
    e.map.keyOf first = key := by
  obtain ⟨g, hrepresents, htidy, hsize, -⟩ := h.exists_tidy
  rcases Option.or_eq_some_iff.mp hfirst with hstored | ⟨-, hfound⟩
  · rw [hrepresents.first?_eq] at hstored
    rw [keyOf, hsize]
    exact htidy.ofPoint_eq key first (List.mem_of_head? hstored)
  · have hkey := List.find?_some hfound
    exact of_decide_eq_true hkey

/-- **A point well within the distance** suffices: in exact arithmetic a scan reaches the map if one
of its points is nearer to the finish than the distance less the diagonal of a voxel, whichever
point represents its voxel. -/
theorem MapReached.reaches_of_near {e : Engine σ ℝ} {options : OdometryOptions ℝ}
    (h : e.MapReached options) (hvalid : options.Valid) {summary : Summary ℝ} {q : ScanPoint ℝ}
    (hq : q ∈ summary.corrected)
    (hnear : (q.world - summary.motion.finish.position).norm ≤
      options.maxDistance - √3 * options.solver.voxelSize) : e.Reaches summary := by
  obtain ⟨g, -, -, hsize, -⟩ := h.exists_tidy
  set key := e.map.keyOf q.world with hkey
  obtain ⟨first, hfirst⟩ : ∃ first, (e.map.first? key).or
      ((summary.corrected.map ScanPoint.world).find? fun p => e.map.keyOf p = key) =
        some first := by
    rw [← Option.isSome_iff_exists, Option.isSome_or, Bool.or_eq_true, List.find?_isSome]
    exact .inr ⟨q.world, List.mem_map_of_mem hq, decide_eq_true hkey.symm⟩
  have hsame : VoxelKey.ofPoint options.solver.voxelSize first =
      VoxelKey.ofPoint options.solver.voxelSize q.world := by
    rw [← hsize]
    exact h.keyOf_eq_of_or_find? hfirst
  -- the first point of the voxel may lie a diagonal away from the near one
  have hdistance : (first - summary.motion.finish.position).norm ≤ options.maxDistance := by
    calc (first - summary.motion.finish.position).norm
        ≤ (first - q.world).norm + (q.world - summary.motion.finish.position).norm :=
          Vec3.norm_sub_le _ _ _
      _ ≤ √3 * options.solver.voxelSize +
            (options.maxDistance - √3 * options.solver.voxelSize) :=
          add_le_add (VoxelKey.norm_sub_le_of_ofPoint_eq hvalid.voxelSize hsame) hnear
      _ = options.maxDistance := add_sub_cancel _ _
  refine ⟨key, first, hfirst, ?_⟩
  rw [h.options_eq]
  exact (Real.sqrt_le_iff.mp hdistance).2.trans_eq (sq _)

/-! ### Runs -/

/-- **The first scan founds the map.** As long as a new engine, with any solver, has accepted no
scan, the next one that has points is accepted in one attempt without asking the solver; and it
leaves a map with points exactly if some voxel that it visits has its first point within the
distance of the options from the finish. In every later state the map has points exactly if the
scan that was accepted last reached it. -/
theorem first_scan_founds_map {fresh : Engine σ α}
    (hfresh : ofOptions options solver memory = .ok fresh) (calls : List (ScanCall α)) :
    let e := fresh.after calls
    (e.trajectory = [] → ∀ c : ScanCall α, c.points ≠ [] →
      let summary := (e.call c).1
      let next := (e.call c).2
      summary.isSuccess = true ∧ summary.attempts = 1 ∧ summary.failure = none ∧
        (∀ session, e.registrar.asked (e.scanFor c) session = []) ∧
        next.session.memory = e.session.memory ∧
        (0 < next.map.size ↔ ∃ key first,
          (summary.corrected.map ScanPoint.world).find?
            (fun p => VoxelKey.ofPoint options.solver.voxelSize p = key) = some first ∧
          (first - summary.motion.finish.position).normSq ≤
            options.maxDistance * options.maxDistance)) ∧
    (e.trajectory ≠ [] → ∃ earlier c later, calls = earlier ++ c :: later ∧
      let before := fresh.after earlier
      let summary := (before.call c).1
      summary.isSuccess = true ∧
        (∀ entry ∈ (before.call c).2.history later, entry.2.isSuccess = false) ∧
        (0 < e.map.size ↔ before.Reaches summary)) := by
  intro e
  have hvalid : options.Valid := valid_of_ofOptions hfresh
  have hreached := mapReached_of_ofOptions hfresh
  have hnew := eq_of_ofOptions hfresh
  refine ⟨fun htrajectory c hpoints => ?_, fun htrajectory => ?_⟩
  · intro summary next
    obtain ⟨hsuccess, hattempts, hfailure, hasked, hmemory⟩ := call_founded htrajectory hpoints
    refine ⟨hsuccess, hattempts, hfailure, hasked, hmemory, ?_⟩
    have hmap : e.map = .empty options.solver.voxelSize options.maxPointsPerVoxel := by
      rw [map_after_of_trajectory_eq_nil htrajectory, hnew]
      rfl
    have hoptions : e.options = options := (hreached.after calls).options_eq
    rw [(hreached.after calls).size_pos_iff hvalid hsuccess, reaches_iff_of_empty hmap, hoptions]
  · have hfirst : fresh.trajectory = [] := by rw [hnew]
    obtain ⟨earlier, c, later, hcalls, hsuccess, hlater, hmap⟩ :=
      exists_map_eq_of_trajectory_ne_nil hfirst htrajectory
    refine ⟨earlier, c, later, hcalls, hsuccess, hlater, ?_⟩
    rw [hmap]
    exact (hreached.after earlier).size_pos_iff hvalid hsuccess

section Float

variable {fresh : Engine Unit Float}

/-- A new engine with a solver that always fails. -/
theorem exists_fresh_driving : ∃ fresh : Engine Unit Float,
    ofOptions .driving (.pure fun _ _ => .error .degenerate) () = .ok fresh := ⟨_, rfl⟩

/-- Without a guess a first scan of a single point lies where it was measured. -/
theorem map_world_corrected_driving
    (hfresh : ofOptions .driving (.pure fun _ _ => .error .degenerate) () = .ok fresh)
    (v : Vec3 Float) :
    (fresh.call (.predicted [.untimed v])).1.corrected.map ScanPoint.world =
      [(ScanMotion.identity : ScanMotion Float).locate true (.untimed v)] := by
  have hnew := eq_of_ofOptions hfresh
  have htrajectory : fresh.trajectory = [] := by rw [hnew]
  rw [map_world_corrected_of_singleton htrajectory rfl, hnew]
  rfl

/-- A first scan of a point at arm's length. -/
theorem first_scan_founds_map_near : ∃ fresh : Engine Unit Float,
    ofOptions .driving (.pure fun _ _ => .error .degenerate) () = .ok fresh ∧
      let c : ScanCall Float := .predicted [.untimed ⟨1, 0, 0⟩]
      (fresh.call c).1.isSuccess = true ∧ (fresh.call c).1.attempts = 1 ∧
        0 < (fresh.call c).2.map.size := by
  obtain ⟨fresh, hfresh⟩ := exists_fresh_driving
  refine ⟨fresh, hfresh, ?_⟩
  intro c
  have hnew := eq_of_ofOptions hfresh
  have htrajectory : (fresh.after []).trajectory = [] := by rw [hnew]; rfl
  obtain ⟨hsuccess, hattempts, -, -, -, hsize⟩ :=
    (first_scan_founds_map hfresh []).1 htrajectory c (List.cons_ne_nil _ _)
  refine ⟨hsuccess, hattempts, hsize.mpr ?_⟩
  have hmotion := (call_first (e := fresh) (c := c) htrajectory (List.cons_ne_nil _ _)).2
  refine ⟨⟨1, 0, 0⟩, ⟨1, 0, 0⟩, ?_, ?_⟩
  · change List.find? _ ((fresh.call c).1.corrected.map ScanPoint.world) = _
    rw [map_world_corrected_driving hfresh]
    decide +kernel
  · change (_ - (fresh.call c).1.motion.finish.position).normSq ≤ _
    rw [hmotion, hnew]
    change (⟨1, 0, 0⟩ - (0 : Vec3 Float)).normSq ≤ _
    decide +kernel

/-- **A first scan out of reach** is accepted all the same, and leaves an empty map: its only point,
which is finite, lies farther from the sensor than the map extends. -/
theorem exists_first_scan_out_of_reach : ∃ fresh : Engine Unit Float,
    ofOptions .driving (.pure fun _ _ => .error .degenerate) () = .ok fresh ∧
      let c : ScanCall Float := .predicted [.untimed ⟨200, 0, 0⟩]
      (∀ p ∈ c.points, p.raw.toList.all Scalar.isFinite = true) ∧ c.points ≠ [] ∧
        (fresh.call c).1.isSuccess = true ∧ (fresh.call c).2.trajectory ≠ [] ∧
        (fresh.call c).2.map.size = 0 := by
  obtain ⟨fresh, hfresh⟩ := exists_fresh_driving
  refine ⟨fresh, hfresh, ?_⟩
  intro c
  have hnew := eq_of_ofOptions hfresh
  have htrajectory : fresh.trajectory = [] := by rw [hnew]
  have hmap : fresh.map = .empty 1 20 := by rw [hnew]; rfl
  obtain ⟨hsuccess, hmotion⟩ := call_first (e := fresh) (c := c) htrajectory
    (List.cons_ne_nil _ _)
  refine ⟨by decide +kernel, List.cons_ne_nil _ _, hsuccess, ?_, ?_⟩
  · rw [trajectory_of_accepted hsuccess, htrajectory]
    exact List.cons_ne_nil _ _
  · refine Nat.eq_zero_of_not_pos fun hpos => ?_
    rw [(mapReached_of_ofOptions hfresh).size_pos_iff (valid_of_ofOptions hfresh) hsuccess,
      reaches_iff_of_empty hmap, map_world_corrected_driving hfresh, hmotion, hnew] at hpos
    obtain ⟨key, first, hfirst, hnear⟩ := hpos
    obtain rfl := List.mem_singleton.mp (List.mem_of_find?_eq_some hfirst)
    revert hnear
    decide +kernel

end Float

end Engine

end LidarOdometry
