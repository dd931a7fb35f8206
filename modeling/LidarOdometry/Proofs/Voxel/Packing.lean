import LidarOdometry.Proofs.Geometry.Vector
import LidarOdometry.Proofs.Voxel.Invariants

/-!
# Packed Voxels

An insertion leaves a point out for a reason: its voxel is full, or it holds a point that lies too
close. The reason is found while the voxel is still being filled. It is a reason that a longer
list gives as well, so it holds of what the voxel ends up with, and for as long as nothing is
pruned: the points of the insertion are *settled*.

A settled point is not accepted again. For one that was left out that is the reason itself, for
one that was stored it takes exact arithmetic and a least distance that is positive, under which a
point lies too close to itself. So to insert settled points once more stores nothing.

## Main definitions

* `Density.Settles`: a list holds a point or a reason to leave it out.
* `MapCall.Inserts`: a call that prunes nothing.
* `VoxelMap.Packs`: what an insertion does with its points.

## Main results

* `Density.settles_extend`: greedy extension settles its points.
* `Density.Settles.not_accepts`: what is settled is not accepted again.
* `VoxelMap.Represents.packs`: insertions pack their points.
* `VoxelMap.insert_packs`: packed points stay packed, and inserting them again stores nothing.
-/

namespace LidarOdometry

variable {α : Type} [Scalar α]

/-! ### Settled points -/

section Settled

variable {density : Density α} {stored longer ps : List (Vec3 α)} {p : Vec3 α}

/-- **A list settles a point** if it holds the point or a reason to leave it out: it is as long as
the limit allows, or one of its points lies closer than the least distance. -/
def Density.Settles (density : Density α) (stored : List (Vec3 α)) (p : Vec3 α) : Prop :=
  p ∈ stored ∨ density.maxPoints ≤ stored.length ∨
    ∃ q ∈ stored, (q - p).normSq < density.minDistance * density.minDistance

/-- A point that is not accepted is settled. -/
theorem Density.settles_of_not_accepts (h : ¬ density.Accepts stored p) :
    density.Settles stored p := by
  rw [Density.Accepts, not_and_or, Nat.not_lt] at h
  rcases h with hfull | hclose
  · exact .inr (.inl hfull)
  · push Not at hclose
    exact .inr (.inr hclose)

/-- **What is settled stays settled** as a list grows. -/
theorem Density.Settles.of_isPrefix (h : density.Settles stored p) (hgrows : stored <+: longer) :
    density.Settles longer p := by
  rcases h with hstored | hfull | ⟨q, hq, hclose⟩
  · exact .inl (hgrows.subset hstored)
  · exact .inr (.inl (hfull.trans hgrows.length_le))
  · exact .inr (.inr ⟨q, hgrows.subset hq, hclose⟩)

/-- Greedy extension by one point settles it. -/
theorem Density.settles_extend_singleton (density : Density α) (stored : List (Vec3 α))
    (p : Vec3 α) : density.Settles (density.extend stored [p]) p := by
  rw [Density.extend_singleton]
  split
  · exact .inl (List.mem_append_right stored List.mem_cons_self)
  · next hreject => exact settles_of_not_accepts hreject

/-- **Greedy extension settles its points**, each when its turn comes and so in the end. -/
theorem Density.settles_extend (density : Density α) (stored : List (Vec3 α)) (hp : p ∈ ps) :
    density.Settles (density.extend stored ps) p := by
  induction ps generalizing stored with
  | nil => exact absurd hp List.not_mem_nil
  | cons p' ps ih =>
      rw [Density.extend_cons]
      rcases List.mem_cons.mp hp with rfl | hp
      · exact (density.settles_extend_singleton stored p).of_isPrefix
          (density.isPrefix_extend _ ps)
      · exact ih _ hp

/-- With room, a list that settles a point is not empty. -/
theorem Density.Settles.ne_nil (h : density.Settles stored p) (hroom : 0 < density.maxPoints) :
    stored ≠ [] := by
  rintro rfl
  rcases h with hnil | hfull | ⟨q, hnil, -⟩
  · exact List.not_mem_nil hnil
  · exact absurd hfull (Nat.not_le.mpr hroom)
  · exact List.not_mem_nil hnil

omit [Scalar α] in
/-- **A settled point is not accepted again.** A stored point lies too close to itself. -/
theorem Density.Settles.not_accepts {density : Density ℝ} {stored : List (Vec3 ℝ)} {p : Vec3 ℝ}
    (h : density.Settles stored p) (hdistance : 0 < density.minDistance) :
    ¬ density.Accepts stored p := by
  rintro ⟨hroom, hfar⟩
  rcases h with hstored | hfull | ⟨q, hq, hclose⟩
  · refine hfar p hstored ?_
    rw [Vec3.normSq_sub_self]
    exact mul_pos hdistance hdistance
  · exact absurd hroom (Nat.not_lt.mpr hfull)
  · exact hfar q hq hclose

end Settled

/-! ### Groups -/

/-- **A call that inserts** prunes nothing. -/
def MapCall.Inserts : MapCall α → Prop
  | .insert _ _ => True
  | .prune _ _ => False

/-- A call that inserts only appends. -/
theorem MapCall.Inserts.isPrefix_onGroups {call : MapCall α} (h : call.Inserts) (voxelSize : α)
    (capacity : Nat) (g : VoxelGroups α) (key : VoxelKey) :
    g.group key <+: (call.onGroups voxelSize capacity g).group key := by
  cases call with
  | insert points density => exact (density.clamp capacity).isPrefix_extend _ _
  | prune place maxDistance => exact h.elim

namespace VoxelGroups

variable {g : VoxelGroups α} {voxelSize : α} {density : Density α} {points : List (Vec3 α)}

/-- Every voxel settles those of the points that fall into it. -/
theorem settles_insert {p : Vec3 α} (hp : p ∈ points) :
    density.Settles
      ((g.insert voxelSize density points).group (VoxelKey.ofPoint voxelSize p)) p :=
  density.settles_extend _ (List.mem_filter.mpr ⟨hp, decide_eq_true rfl⟩)

end VoxelGroups

/-! ### Maps -/

namespace VoxelMap

variable {m next last : VoxelMap α} {g : VoxelGroups α} {answer : Nat} {density : Density α}
  {points : List (Vec3 α)}

/-- **An insertion packs its points**: each is settled in its voxel, the answer is the number of
points by which the map grows, and what is new in a voxel are some of the points that fall into
it, in their order, after those that it held before. -/
structure Packs (m : VoxelMap α) (points : List (Vec3 α)) (density : Density α) (answer : Nat)
    (next : VoxelMap α) : Prop where
  settled : ∀ p ∈ points, ∃ stored, next.voxel? (m.keyOf p) = some stored ∧
    density.Settles stored p
  size_eq : next.size = m.size + answer
  exists_append : ∀ key, ∃ more,
    (next.voxel? key).getD [] = (m.voxel? key).getD [] ++ more ∧
      more.Sublist (points.filter fun p => m.keyOf p = key)

/-- **Insertions pack their points**, if there is any room at all. -/
theorem Represents.packs (h : m.Represents g)
    (hcall : Performs m (.insert points density) answer next)
    (hroom : 0 < (density.clamp m.capacity).maxPoints) :
    m.Packs points (density.clamp m.capacity) answer next := by
  obtain ⟨hnext, hanswer, -⟩ := h.performs hcall
  refine ⟨fun p hp => ?_, ?_, fun key => ?_⟩
  · have hsettled : (density.clamp m.capacity).Settles
        ((g.insert m.voxelSize (density.clamp m.capacity) points).group (m.keyOf p)) p :=
      VoxelGroups.settles_insert hp
    exact ⟨_, hnext.voxel?_of_ne_nil (hsettled.ne_nil hroom), hsettled⟩
  · rw [hnext.size_eq, h.size_eq, hanswer]
    exact (MapCall.size_add_answer m.voxelSize m.capacity g points density).symm
  · rw [← hnext.group_eq, ← h.group_eq]
    exact (density.clamp m.capacity).exists_extend_eq_append _ _

/-- **Insertions only append** to the voxels, throughout a run. -/
theorem Represents.exists_isPrefix_of_run {calls : List (MapCall α)} {answers : List Nat}
    (hrun : Run m calls answers last) (h : m.Represents g) (hcalls : ∀ call ∈ calls, call.Inserts) :
    ∃ g', last.Represents g' ∧ (∀ key, g.group key <+: g'.group key) ∧
      last.voxelSize = m.voxelSize ∧ last.capacity = m.capacity :=
  h.exists_of_run (P := fun g' => ∀ key, g.group key <+: g'.group key) hrun
    (fun call hmem g' hgrows key =>
      (hgrows key).trans ((hcalls call hmem).isPrefix_onGroups _ _ g' key))
    fun _ => List.prefix_rfl

/-- **Points that are not accepted change nothing.** -/
theorem Represents.eq_of_not_accepts (h : m.Represents g)
    (hcall : Performs m (.insert points density) answer next)
    (hreject : ∀ p ∈ points,
      ¬ (density.clamp m.capacity).Accepts (g.group (m.keyOf p)) p) :
    answer = 0 ∧ ∀ key, next.voxel? key = m.voxel? key := by
  obtain ⟨hnext, hanswer, -⟩ := h.performs hcall
  have hsame : (MapCall.insert points density).onGroups m.voxelSize m.capacity g = g :=
    VoxelGroups.insert_of_not_accepts hreject
  rw [hsame] at hnext hanswer
  refine ⟨hanswer.trans (Nat.sub_self g.size), fun key => ?_⟩
  rw [hnext.shows.voxel?_eq, h.shows.voxel?_eq]

/-- **The library's own insertion** into a map that its own calls have led to is one of those
allowed. -/
theorem Represents.performs_insert (h : m.Represents g) (ht : m.arena.Tracked)
    (calls : List (MapCall α)) (points : List (Vec3 α)) (density : Density α) :
    Performs (m.perform calls).2 (.insert points density)
      ((m.perform calls).2.insert points density).1
      ((m.perform calls).2.insert points density).2 := by
  induction calls generalizing m g with
  | nil => exact (h.performs_performCall ht (.insert points density)).1
  | cons call calls ih =>
      obtain ⟨hcall, ht'⟩ := h.performs_performCall ht call
      exact ih (h.performs hcall).1 ht'

/-- **Insertion is a maximal packing.** In every map that is reached from an empty one, whatever
the scalars are, an insertion that has any room settles each of its points in the voxel of the
point, answers by how much the map grows, and stores none but its points; the library's own
insertion is a case of this. In exact arithmetic, with a least distance that is positive,
inserting any of these points again under the same limits stores nothing and leaves every voxel as
it is, whatever else is inserted in between. -/
theorem insert_packs :
    (∀ {α : Type} [Scalar α] {voxelSize : α} {capacity : Nat} {calls : List (MapCall α)}
      {answers : List Nat} {m next : VoxelMap α} {points : List (Vec3 α)} {density : Density α}
      {answer : Nat}, Run (empty voxelSize capacity) calls answers m →
      1 ≤ min density.maxPoints capacity →
      Performs m (.insert points density) answer next →
      m.Packs points (density.clamp capacity) answer next) ∧
    (∀ {α : Type} [Scalar α] (voxelSize : α) (capacity : Nat) (calls : List (MapCall α))
      (points : List (Vec3 α)) (density : Density α),
      let own := (empty voxelSize capacity).perform calls
      Run (empty voxelSize capacity) calls own.1 own.2 ∧
        Performs own.2 (.insert points density) (own.2.insert points density).1
          (own.2.insert points density).2) ∧
    ∀ {voxelSize : ℝ} {capacity : Nat} {calls between : List (MapCall ℝ)}
      {answers answers' : List Nat} {m next later last : VoxelMap ℝ}
      {points again : List (Vec3 ℝ)} {density : Density ℝ} {answer answer' : Nat},
      Run (empty voxelSize capacity) calls answers m → 0 < density.minDistance →
      Performs m (.insert points density) answer next →
      Run next between answers' later → (∀ call ∈ between, call.Inserts) →
      again ⊆ points → Performs later (.insert again density) answer' last →
      answer' = 0 ∧ ∀ key, last.voxel? key = later.voxel? key := by
  refine ⟨fun hrun hroom hcall => ?_, fun voxelSize capacity calls points density => ?_,
    fun hrun hdistance hcall hbetween hinserts hagain hcall' => ?_⟩
  · obtain ⟨g, hrepresents, -, -, -, rfl⟩ := hrun.exists_tidy
    exact hrepresents.packs hcall hroom
  · have hempty := represents_empty voxelSize capacity
    have htracked : (empty voxelSize capacity).arena.Tracked := VoxelArena.tracked_empty capacity
    exact ⟨hempty.run_perform htracked calls, hempty.performs_insert htracked calls points density⟩
  · obtain ⟨g, hrepresents, -, -, hvoxelSize, hcapacity⟩ := hrun.exists_tidy
    obtain ⟨hnext, -, hvoxelSize₁, hcapacity₁⟩ := hrepresents.performs hcall
    obtain ⟨g', hlater, hgrows, hvoxelSize₂, hcapacity₂⟩ :=
      hnext.exists_isPrefix_of_run hbetween hinserts
    refine hlater.eq_of_not_accepts hcall' fun p hp => ?_
    rw [hcapacity₂, hcapacity₁, keyOf, hvoxelSize₂, hvoxelSize₁]
    exact ((VoxelGroups.settles_insert (hagain hp)).of_isPrefix (hgrows _)).not_accepts hdistance

/-- Two points, of which one is inserted twice more after another voxel was opened. -/
theorem insert_packs_two_points : ∃ answer opened next later last,
    Performs (empty (1 : ℝ) 2) (.insert [⟨0, 0, 0⟩, ⟨-1, 0, 0⟩] ⟨3, 1 / 2⟩) answer next ∧
      (empty 1 2).Packs [⟨0, 0, 0⟩, ⟨-1, 0, 0⟩] ⟨2, 1 / 2⟩ answer next ∧
      Performs next (.insert [⟨5, 5, 5⟩] ⟨1, 0⟩) opened later ∧
      Performs later (.insert [⟨-1, 0, 0⟩, ⟨-1, 0, 0⟩] ⟨3, 1 / 2⟩) 0 last ∧
      ∀ key, last.voxel? key = later.voxel? key := by
  have hempty := represents_empty (1 : ℝ) 2
  obtain ⟨hcall, htracked⟩ := hempty.performs_performCall (VoxelArena.tracked_empty 2)
    (.insert [⟨0, 0, 0⟩, ⟨-1, 0, 0⟩] ⟨3, 1 / 2⟩)
  have hnext := (hempty.performs hcall).1
  obtain ⟨hopen, htracked⟩ := hnext.performs_performCall htracked (.insert [⟨5, 5, 5⟩] ⟨1, 0⟩)
  have hlater := (hnext.performs hopen).1
  obtain ⟨hcall', -⟩ := hlater.performs_performCall htracked
    (.insert [⟨-1, 0, 0⟩, ⟨-1, 0, 0⟩] ⟨3, 1 / 2⟩)
  have hpacks := insert_packs.1 .nil (by decide) hcall
  obtain ⟨hanswer, hvoxels⟩ := insert_packs.2.2 .nil one_half_pos hcall (.cons hopen .nil)
    (List.forall_mem_singleton.mpr trivial) (by simp) hcall'
  rw [hanswer] at hcall'
  exact ⟨_, _, _, _, _, hcall, hpacks, hopen, hcall', hvoxels⟩

end VoxelMap

end LidarOdometry
