import LidarOdometry.Proofs.Engine.Run
import LidarOdometry.Proofs.Voxel.Invariants

/-!
# The Local Map of an Engine

An engine changes its map in one way only: the points of an accepted scan are inserted, and then
voxels far from the sensor are pruned. So the map that a run of an engine reaches is one that a
run of calls on a voxel map reaches, in which all insertions ask for the distance of the
options, and all that voxel maps keep holds of it.

## Main definitions

* `Engine.mapCalls`: the calls on the map that an accepted scan leads to.
* `Engine.MapReached`: a run of calls on an empty map reaches the map of the engine.

## Main results

* `Engine.MapReached.call`: a scan keeps the map one that is reached.
* `Engine.MapReached.first?_call`: what represents a voxel after an accepted scan.
* `Engine.MapReached.continues_after`: a voxel continues through a run of an engine until it is
  pruned.
* `Engine.maps_well_kept`: the invariants of all voxel maps, and of the maps of all engines.
-/

namespace LidarOdometry

open VoxelMap

variable {σ α : Type} [Scalar α]

namespace Engine

variable {e : Engine σ α} {options : OdometryOptions α} {key : VoxelKey}

/-- The calls on the map that an accepted scan leads to. -/
def mapCalls (e : Engine σ α) (summary : Summary α) : List (MapCall α) :=
  [.insert (summary.corrected.map ScanPoint.world) e.options.density,
    .prune summary.motion.finish.position e.options.maxDistance]

variable (options) in
/-- **The map of the engine is reached** by a run of calls on an empty map, which all ask for the
distance of the options. -/
structure MapReached (e : Engine σ α) : Prop where
  options_eq : e.options = options
  tracked : e.map.arena.Tracked
  exists_run : ∃ calls answers,
    Run (.empty options.solver.voxelSize options.maxPointsPerVoxel) calls answers e.map ∧
      ∀ call ∈ calls, call.AsksFor options.minPointDistance

/-- A map that is reached represents tidy groups, and has the voxel size and the capacity of the
options. -/
theorem MapReached.exists_tidy (h : e.MapReached options) :
    ∃ g, e.map.Represents g ∧ g.Tidy options.solver.voxelSize options.maxPointsPerVoxel ∧
      e.map.voxelSize = options.solver.voxelSize ∧
      e.map.capacity = options.maxPointsPerVoxel := by
  obtain ⟨calls, answers, hrun, -⟩ := h.exists_run
  obtain ⟨g, hrepresents, htidy, -, hsettings⟩ := hrun.exists_tidy
  exact ⟨g, hrepresents, htidy, hsettings⟩

/-! ### One scan -/

/-- An accepted scan leads to its calls on the map. -/
theorem MapReached.run_keep (h : e.MapReached options) (summary : Summary α) :
    ∃ answers, Run e.map (e.mapCalls summary) answers (e.keep summary).map ∧
      (e.keep summary).map.arena.Tracked := by
  obtain ⟨g, hrepresents, -⟩ := h.exists_tidy
  exact ⟨_, hrepresents.run_perform h.tracked (e.mapCalls summary),
    (represents_keep hrepresents h.tracked summary).2⟩

/-- All that a scan does to the map: nothing, or the calls that an accepted scan leads to. -/
theorem MapReached.map_cases (h : e.MapReached options) (c : ScanCall α) :
    (e.call c).2.map = e.map ∨ ∃ answers,
      Run e.map (e.mapCalls (e.call c).1) answers (e.call c).2.map ∧
        (e.call c).2.map.arena.Tracked := by
  cases hsuccess : (e.call c).1.isSuccess with
  | true =>
      obtain ⟨session, heq⟩ := exists_of_accepted hsuccess
      rw [heq]
      exact .inr (h.run_keep (e.call c).1)
  | false => exact .inl (map_of_rejected hsuccess)

/-- A voxel of the map of an engine has room for a point. -/
theorem MapReached.room (h : e.MapReached options) (hvalid : options.Valid) :
    0 < (e.options.density.clamp e.map.capacity).maxPoints := by
  obtain ⟨g, -, -, -, hcapacity⟩ := h.exists_tidy
  have hpos : 0 < options.maxPointsPerVoxel := Nat.pos_of_ne_zero hvalid.maxPointsPerVoxel
  rw [h.options_eq, hcapacity]
  exact Nat.lt_min.mpr ⟨hpos, hpos⟩

/-- **What a voxel is represented by** after an accepted scan: by the point that represented it
before, or else by the first point of the scan that falls into it, provided that this is near the
finish. -/
theorem MapReached.first?_call (h : e.MapReached options) (hvalid : options.Valid)
    {c : ScanCall α} (hsuccess : (e.call c).1.isSuccess = true) {first : Vec3 α} :
    (e.call c).2.map.first? key = some first ↔
      (e.map.first? key).or (((e.call c).1.corrected.map ScanPoint.world).find?
        fun p => e.map.keyOf p = key) = some first ∧
      (first - (e.call c).1.motion.finish.position).normSq ≤
        e.options.maxDistance * e.options.maxDistance := by
  obtain ⟨g, hrepresents, -⟩ := h.exists_tidy
  obtain ⟨session, heq⟩ := exists_of_accepted hsuccess
  have hkept := (represents_keep (e := { e with session }) hrepresents h.tracked (e.call c).1).1
  rw [heq, hkept.first?_eq, groupsAfter, VoxelGroups.head?_group_prune,
    VoxelGroups.head?_group_insert (h.room hvalid), hrepresents.first?_eq]
  rfl

/-- **A scan keeps the map one that is reached.** -/
theorem MapReached.call (h : e.MapReached options) (c : ScanCall α) :
    (e.call c).2.MapReached options := by
  have hoptions := (e.call_settings c).1.trans h.options_eq
  rcases h.map_cases c with hsame | ⟨answers, hrun, htracked⟩
  · refine ⟨hoptions, ?_, ?_⟩
    · rw [hsame]
      exact h.tracked
    · rw [hsame]
      exact h.exists_run
  · obtain ⟨calls, answers', hrun', hasks⟩ := h.exists_run
    refine ⟨hoptions, htracked, _, _, hrun'.append hrun, fun call hmem => ?_⟩
    rcases List.mem_append.mp hmem with hmem | hmem
    · exact hasks call hmem
    · rcases List.mem_pair.mp hmem with rfl | rfl
      · exact congrArg OdometryOptions.minPointDistance h.options_eq
      · trivial

/-- **A voxel continues through a scan** unless it is pruned: if it is there after the pruning it
was there before. -/
theorem MapReached.continues_call (h : e.MapReached options) {c : ScanCall α}
    (hkey : (e.call c).2.map.voxel? key ≠ none) : e.map.Continues (e.call c).2.map key := by
  rcases h.map_cases c with hsame | ⟨answers, hrun, -⟩
  · rw [hsame]
    exact .refl e.map key
  · obtain ⟨calls, answers', hrun', -⟩ := h.exists_run
    obtain ⟨g, hrepresents, htidy, -, hvoxelSize, hcapacity⟩ := hrun'.exists_tidy
    rw [← hvoxelSize, ← hcapacity] at htidy
    cases hrun with
    | @cons _ inserted _ _ _ answer answers hinsert hrest =>
        cases hrest with
        | @cons _ pruned _ _ _ answer answers hprune hnil =>
            cases hnil
            obtain ⟨hinserted, -⟩ := hrepresents.performs hinsert
            -- pruning brings no voxel back, so the key was there before it
            have hbefore : inserted.voxel? key ≠ none := by
              rcases hinserted.voxel?_of_prune hprune key with heq | heq
              · exact heq ▸ hkey
              · exact absurd heq hkey
            exact hrepresents.continues_of_lasts htidy
              (.cons hinsert hbefore (.cons hprune hkey .nil))

/-! ### Runs -/

/-- A new engine starts from an empty map. -/
theorem mapReached_of_ofOptions {solver : Solver σ α} {memory : σ}
    (h : ofOptions options solver memory = .ok e) : e.MapReached options := by
  rw [eq_of_ofOptions h]
  exact ⟨rfl, VoxelArena.tracked_empty _, [], [], .nil, nofun⟩

/-- **A run keeps the map one that is reached.** -/
theorem MapReached.after (h : e.MapReached options) (calls : List (ScanCall α)) :
    (e.after calls).MapReached options :=
  after_induction (fun _ c h => h.call c) h calls

/-- **A voxel continues through a run** of an engine as long as it is there after each scan. -/
theorem MapReached.continues_after (h : e.MapReached options) {calls : List (ScanCall α)}
    (hkey : ∀ n ≤ calls.length, (e.after (calls.take n)).map.voxel? key ≠ none) :
    e.map.Continues (e.after calls).map key := by
  induction calls generalizing e with
  | nil => exact .refl e.map key
  | cons c calls ih =>
      have hnext : (e.call c).2.map.voxel? key ≠ none := hkey 1 (by simp)
      refine (h.continues_call hnext).trans (ih (h.call c) fun n hn => ?_)
      exact hkey (n + 1) (by simpa using hn)

/-- **Voxel maps are well kept.** This holds of the map that any run of calls reaches from an empty
map, whichever vacant slot each new voxel is given and in whichever order pruning visits the
voxels: no voxel is empty or overfull, every point lies in the voxel it is stored in, and
points are spaced if all insertions ask for the same distance. A voxel continues until it is
pruned, an insertion adds under its limit, and a pruning leaves a voxel as it is or removes it.

It holds of the map of every run of an engine, whose points are spaced by the distance of the
options. -/
theorem maps_well_kept :
    (∀ (voxelSize : α) (capacity : Nat) (calls : List (MapCall α)) (answers : List Nat)
      (m : VoxelMap α), Run (empty voxelSize capacity) calls answers m →
      m.voxelSize = voxelSize ∧ m.capacity = capacity ∧ m.WellKept ∧
      (∀ distance, (∀ call ∈ calls, call.AsksFor distance) → m.SpacedBy distance) ∧
      (∀ key later last, Lasts key m later last → m.Continues last key) ∧
      (∀ points density answer next, Performs m (.insert points density) answer next →
        m.Adds (min density.maxPoints capacity) answer next) ∧
      ∀ place maxDistance answer next, Performs m (.prune place maxDistance) answer next →
        ∀ key, next.voxel? key = m.voxel? key ∨ next.voxel? key = none) ∧
    ∀ (σ : Type) (options : OdometryOptions α) (solver : Solver σ α) (memory : σ)
      (fresh : Engine σ α), ofOptions options solver memory = .ok fresh →
      ∀ calls later : List (ScanCall α),
        let e := fresh.after calls
        e.map.voxelSize = options.solver.voxelSize ∧ e.map.capacity = options.maxPointsPerVoxel ∧
        e.map.WellKept ∧ e.map.SpacedBy options.minPointDistance ∧
        ∀ key, (∀ n ≤ later.length, (e.after (later.take n)).map.voxel? key ≠ none) →
          e.map.Continues (e.after later).map key := by
  have hmaps : ∀ (voxelSize : α) (capacity : Nat) (calls : List (MapCall α)) (answers : List Nat)
      (m : VoxelMap α), Run (empty voxelSize capacity) calls answers m →
      m.voxelSize = voxelSize ∧ m.capacity = capacity ∧ m.WellKept ∧
        ∀ distance, (∀ call ∈ calls, call.AsksFor distance) → m.SpacedBy distance := by
    intro voxelSize capacity calls answers m hrun
    obtain ⟨g, hrepresents, htidy, hspaced, rfl, rfl⟩ := hrun.exists_tidy
    exact ⟨rfl, rfl, hrepresents.wellKept htidy,
      fun distance hcalls => hrepresents.spacedBy (hspaced distance hcalls)⟩
  constructor
  · intro voxelSize capacity calls answers m hrun
    obtain ⟨hvoxelSize, hcapacity, hkept, hspaced⟩ := hmaps _ _ _ _ _ hrun
    obtain ⟨g, hrepresents, htidy, -, rfl, rfl⟩ := hrun.exists_tidy
    refine ⟨hvoxelSize, hcapacity, hkept, hspaced, ?_, ?_, ?_⟩
    · exact fun key later last hlasts => hrepresents.continues_of_lasts htidy hlasts
    · exact fun points density answer next hcall => hrepresents.adds htidy hcall
    · exact fun place maxDistance answer next hcall => hrepresents.voxel?_of_prune hcall
  · intro σ options solver memory fresh hfresh calls later e
    have hreached : e.MapReached options := (mapReached_of_ofOptions hfresh).after calls
    obtain ⟨mapCalls, answers, hrun, hasks⟩ := hreached.exists_run
    obtain ⟨hvoxelSize, hcapacity, hkept, hspaced⟩ := hmaps _ _ _ _ _ hrun
    exact ⟨hvoxelSize, hcapacity, hkept, hspaced _ hasks, fun key => hreached.continues_after⟩

/-- A point that is not a number is stored under the key zero, which is its own, and a later
insertion with a lower limit leaves its voxel as it is. The map of an engine is well kept, too. -/
theorem maps_well_kept_not_a_number :
    let lost : Vec3 Float := ⟨0 / 0, 0.5, 0.5⟩
    (∃ answers m answer last, Run (empty 1 2) [.insert [lost] ⟨3, 0⟩] answers m ∧
      m.voxel? ⟨0, 0, 0⟩ = some [lost] ∧ m.WellKept ∧ m.SpacedBy 0 ∧
      Performs m (.insert [⟨0.5, 0.5, 0.5⟩] ⟨1, 0⟩) answer last ∧
      last.voxel? ⟨0, 0, 0⟩ = some [lost]) ∧
    ∃ fresh : Engine Unit Float, ofOptions .driving (.pure fun _ _ => .error .degenerate) () =
      .ok fresh ∧ (fresh.after [.predicted [.untimed lost]]).map.WellKept := by
  intro lost
  constructor
  · have hempty := represents_empty (1 : Float) 2
    obtain ⟨answer, m, hcall, htracked⟩ : ∃ answer m,
        Performs (empty (1 : Float) 2) (.insert [lost] ⟨3, 0⟩) answer m ∧ m.arena.Tracked :=
      ⟨_, _, hempty.performs_performCall (VoxelArena.tracked_empty 2) _⟩
    obtain ⟨hrepresents, -⟩ := hempty.performs hcall
    obtain ⟨hnext, -⟩ := hrepresents.performs_performCall htracked
      (.insert [⟨0.5, 0.5, 0.5⟩] ⟨1, 0⟩)
    have hrun := Run.cons hcall .nil
    obtain ⟨-, -, hkept, hspaced, -, hadds, -⟩ := maps_well_kept.1 1 2 _ _ _ hrun
    have hvoxel : m.voxel? ⟨0, 0, 0⟩ = some [lost] := by
      rw [hrepresents.shows.voxel?_eq]
      decide +kernel
    refine ⟨_, _, _, _, hrun, hvoxel, hkept, hspaced 0 ?_, hnext, ?_⟩
    · exact fun call hmem => List.mem_singleton.mp hmem ▸ rfl
    · have hadded := hadds _ _ _ _ hnext
      obtain ⟨more, hmore⟩ := (hadded.continues ⟨0, 0, 0⟩).exists_append hvoxel
      rcases hadded.length_le hmore with hsame | hle
      · rw [hsame, hvoxel]
      · obtain rfl : more = [] := List.eq_nil_of_length_eq_zero (by simpa using hle)
        exact hmore
  · obtain ⟨fresh, hfresh⟩ : ∃ fresh : Engine Unit Float,
        ofOptions .driving (.pure fun _ _ => .error .degenerate) () = .ok fresh := ⟨_, rfl⟩
    exact ⟨fresh, hfresh, (maps_well_kept.2 _ _ _ _ _ hfresh _ []).2.2.1⟩

end Engine

end LidarOdometry
