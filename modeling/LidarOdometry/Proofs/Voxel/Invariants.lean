import LidarOdometry.Proofs.Voxel.Refinement

/-!
# What Every Voxel Map Keeps

Whatever is inserted into a voxel map and pruned from it, its voxels stay *well kept*: none is
empty or overfull, and every point lies in the voxel that it is stored in. Both hold of all
values that coordinates can take, since they rest on the comparisons and the keys of the map
itself. If all insertions ask for the same distance, the points of every voxel are *spaced*.

A stored point never moves. Between two maps of a run a voxel *continues* as long as pruning leaves
it: its points stay in their places and new ones come after them, so its first point
represents it for as long as it exists, and a full voxel stays as it is.

## Main definitions

* `VoxelGroups.Tidy`, `VoxelGroups.SpacedBy`: the invariants, of groups.
* `VoxelMap.WellKept`, `VoxelMap.SpacedBy`: the invariants, of a map.
* `VoxelMap.Continues`: a voxel that is not pruned, between two maps.
* `VoxelMap.Lasts`: a run throughout which a voxel is there.
* `VoxelMap.Adds`: what an insertion does to all voxels.

## Main results

* `VoxelGroups.Tidy.onGroups`, `VoxelGroups.SpacedBy.onGroups`: calls keep the invariants.
* `VoxelMap.Represents.continues_of_performs`: a voxel continues through a call unless it is
  pruned.
* `VoxelMap.Represents.continues_of_lasts`: so it does through a run.
* `VoxelMap.Represents.adds`, `VoxelMap.Represents.voxel?_of_prune`: insertions and prunings.
* `VoxelMap.Represents.exists_of_run`: what every call preserves, a run does.
* `VoxelMap.Run.exists_tidy`: the map that a run reaches from an empty one.
-/

namespace LidarOdometry

variable {α : Type} [Scalar α]

omit [Scalar α] in
/-- A call **asks for a distance** if it inserts no points under any other. -/
def MapCall.AsksFor (distance : α) : MapCall α → Prop
  | .insert _ density => density.minDistance = distance
  | .prune _ _ => True

/-! ### Groups -/

namespace VoxelGroups

variable {g : VoxelGroups α} {voxelSize distance : α} {capacity : Nat} {calls : List (MapCall α)}

/-- **Tidy groups**: none is longer than the capacity, and every point has the key of its
group. -/
structure Tidy (g : VoxelGroups α) (voxelSize : α) (capacity : Nat) : Prop where
  length_le : ∀ key, (g.group key).length ≤ capacity
  ofPoint_eq : ∀ key, ∀ p ∈ g.group key, VoxelKey.ofPoint voxelSize p = key

/-- The points of every group are **spaced**. -/
def SpacedBy (g : VoxelGroups α) (distance : α) : Prop :=
  ∀ key, Spaced distance (g.group key)

/-- Groups are tidy if there are none. -/
theorem tidy_empty : (empty : VoxelGroups α).Tidy voxelSize capacity where
  length_le _ := Nat.zero_le _
  ofPoint_eq _ _ h := absurd h List.not_mem_nil

/-- Groups are spaced by any distance if there are none. -/
theorem spacedBy_empty : (empty : VoxelGroups α).SpacedBy distance :=
  fun _ => List.Pairwise.nil

/-- A group is pruned as a whole or not at all. -/
theorem group_prune_eq (g : VoxelGroups α) (place : Vec3 α) (maxDistance : α) (key : VoxelKey) :
    (g.prune place maxDistance).group key = g.group key ∨
      (g.prune place maxDistance).group key = [] := by
  rw [prune, group_filter]
  split
  · exact .inl rfl
  · exact .inr rfl

/-- **A call keeps groups tidy.** -/
theorem Tidy.onGroups (h : g.Tidy voxelSize capacity) (call : MapCall α) :
    (call.onGroups voxelSize capacity g).Tidy voxelSize capacity := by
  cases call with
  | insert points density =>
      refine ⟨fun key => ?_, fun key p hp => ?_⟩
      · have hlimit : (density.clamp capacity).maxPoints ≤ capacity := Nat.min_le_right _ _
        have hlength := (density.clamp capacity).length_extend_le (g.group key)
          (points.filter fun p => VoxelKey.ofPoint voxelSize p = key)
        exact hlength.trans (Nat.max_le.mpr ⟨h.length_le key, hlimit⟩)
      · rcases Density.mem_or_mem_of_mem_extend hp with hold | hnew
        · exact h.ofPoint_eq key p hold
        · exact of_decide_eq_true (List.mem_filter.mp hnew).2
  | prune place maxDistance =>
      refine ⟨fun key => ?_, fun key p hp => ?_⟩
      · rcases g.group_prune_eq place maxDistance key with heq | heq
        · exact heq ▸ h.length_le key
        · exact heq ▸ Nat.zero_le capacity
      · change p ∈ (g.prune place maxDistance).group key at hp
        rcases g.group_prune_eq place maxDistance key with heq | heq
        · exact h.ofPoint_eq key p (heq ▸ hp)
        · exact absurd (heq ▸ hp) List.not_mem_nil

/-- **A call keeps groups spaced** if it asks for the distance. -/
theorem SpacedBy.onGroups (h : g.SpacedBy distance) {call : MapCall α}
    (hcall : call.AsksFor distance) : (call.onGroups voxelSize capacity g).SpacedBy distance := by
  intro key
  cases call with
  | insert points density =>
      obtain rfl : density.minDistance = distance := hcall
      exact (show Spaced (density.clamp capacity).minDistance (g.group key) from h key).extend _
  | prune place maxDistance =>
      change Spaced distance ((g.prune place maxDistance).group key)
      rcases g.group_prune_eq place maxDistance key with heq | heq
      · exact heq ▸ h key
      · exact heq ▸ List.Pairwise.nil

/-- **A call only appends** to a group that it does not prune. -/
theorem isPrefix_onGroups (g : VoxelGroups α) (call : MapCall α) {key : VoxelKey}
    (hkey : (call.onGroups voxelSize capacity g).group key ≠ []) :
    g.group key <+: (call.onGroups voxelSize capacity g).group key := by
  cases call with
  | insert points density => exact (density.clamp capacity).isPrefix_extend _ _
  | prune place maxDistance =>
      rcases g.group_prune_eq place maxDistance key with heq | heq
      · exact (congrArg _ heq).mpr List.prefix_rfl
      · exact absurd heq hkey

end VoxelGroups

/-! ### Maps -/

namespace VoxelMap

variable {m next last : VoxelMap α} {g g' : VoxelGroups α} {key : VoxelKey} {call : MapCall α}
  {calls : List (MapCall α)} {answer : Nat} {answers : List Nat} {distance : α}

/-- **Well-kept maps**: every voxel has a point and no more than the capacity, and every point
falls into the voxel that it is stored in. -/
structure WellKept (m : VoxelMap α) : Prop where
  length_pos : ∀ {key points}, m.voxel? key = some points → 1 ≤ points.length
  length_le : ∀ {key points}, m.voxel? key = some points → points.length ≤ m.capacity
  keyOf_eq : ∀ {key points}, m.voxel? key = some points → ∀ p ∈ points, m.keyOf p = key

/-- The points of every voxel are **spaced**. -/
def SpacedBy (m : VoxelMap α) (distance : α) : Prop :=
  ∀ {key points}, m.voxel? key = some points → Spaced distance points

omit [Scalar α] in
/-- The point that **represents** a voxel, the first one that it was given. -/
def first? (m : VoxelMap α) (key : VoxelKey) : Option (Vec3 α) :=
  (m.voxel? key).bind List.head?

omit [Scalar α] in
/-- **A voxel continues** from one map to another: it keeps its points in their places, so that
the same point represents it, and if it is full it stays as it is. -/
structure Continues (m next : VoxelMap α) (key : VoxelKey) : Prop where
  exists_append : ∀ {points}, m.voxel? key = some points →
    ∃ more, next.voxel? key = some (points ++ more)
  first?_eq : m.voxel? key ≠ none → next.first? key = m.first? key
  full : m.isFull key = true → next.voxel? key = m.voxel? key ∧ next.isFull key = true

omit [Scalar α] in
/-- The voxel of a group with points. -/
theorem Represents.voxel?_of_ne_nil (h : m.Represents g) (hkey : g.group key ≠ []) :
    m.voxel? key = some (g.group key) := by
  rw [h.shows.voxel?_eq, VoxelGroups.voxel?, if_pos ((g.mem_domain key).mpr hkey)]

omit [Scalar α] in
/-- The point that represents a voxel is the first one of its group. -/
theorem Represents.first?_eq (h : m.Represents g) (key : VoxelKey) :
    m.first? key = (g.group key).head? := by
  by_cases hgroup : g.group key = []
  · have hnone : key ∉ g.domain := fun hmem => (g.mem_domain key).mp hmem hgroup
    rw [first?, h.shows.voxel?_eq, VoxelGroups.voxel?, if_neg hnone, hgroup]
    rfl
  · rw [first?, h.voxel?_of_ne_nil hgroup]
    rfl

omit [Scalar α] in
/-- The group of a voxel. -/
theorem Represents.group_of_voxel? (h : m.Represents g) {points : List (Vec3 α)}
    (hvoxel : m.voxel? key = some points) : g.group key = points ∧ points ≠ [] := by
  rw [h.shows.voxel?_eq, VoxelGroups.voxel?] at hvoxel
  split at hvoxel
  · next hmem =>
      cases hvoxel
      exact ⟨rfl, (g.mem_domain key).mp hmem⟩
  · cases hvoxel

omit [Scalar α] in
/-- A voxel is full exactly if its group has reached the capacity. -/
theorem Represents.isFull_iff (h : m.Represents g) :
    m.isFull key = true ↔ g.group key ≠ [] ∧ m.capacity ≤ (g.group key).length := by
  rw [h.shows.isFull_eq, VoxelGroups.isFull, decide_eq_true_iff, g.mem_domain]

/-- **A map that represents tidy groups is well kept.** -/
theorem Represents.wellKept (h : m.Represents g) (ht : g.Tidy m.voxelSize m.capacity) :
    m.WellKept where
  length_pos hvoxel := List.length_pos_of_ne_nil (h.group_of_voxel? hvoxel).2
  length_le hvoxel := (h.group_of_voxel? hvoxel).1 ▸ ht.length_le _
  keyOf_eq hvoxel p hp := ht.ofPoint_eq _ p ((h.group_of_voxel? hvoxel).1 ▸ hp)

/-- Its points keep the distance that those of the groups keep. -/
theorem Represents.spacedBy (h : m.Represents g) (hs : g.SpacedBy distance) :
    m.SpacedBy distance :=
  fun hvoxel => (h.group_of_voxel? hvoxel).1 ▸ hs _

/-- A voxel whose group is only appended to continues. A full one has no room for more. -/
theorem Represents.continues (h : m.Represents g) (h' : next.Represents g')
    (hcapacity : next.capacity = m.capacity) (ht : g'.Tidy next.voxelSize next.capacity)
    (hgrows : g.group key <+: g'.group key) : m.Continues next key := by
  have hvoxel : ∀ {points}, m.voxel? key = some points →
      ∃ more, next.voxel? key = some (points ++ more) := by
    intro points hpoints
    obtain ⟨hgroup, hne⟩ := h.group_of_voxel? hpoints
    obtain ⟨more, hmore⟩ := hgrows
    refine ⟨more, ?_⟩
    rw [← hgroup, hmore]
    refine h'.voxel?_of_ne_nil ?_
    rw [← hmore, hgroup]
    exact List.append_ne_nil_of_left_ne_nil hne more
  refine ⟨hvoxel, fun hsome => ?_, fun hfull => ?_⟩
  · obtain ⟨points, hpoints⟩ := Option.ne_none_iff_exists'.mp hsome
    obtain ⟨more, hmore⟩ := hvoxel hpoints
    rw [first?, first?, hpoints, hmore, Option.bind_some, Option.bind_some,
      List.head?_append_of_ne_nil _ (h.group_of_voxel? hpoints).2]
  · obtain ⟨hne, hlength⟩ := h.isFull_iff.mp hfull
    -- a full group has no room to grow, so it is the same one
    have hbound := ht.length_le key
    have hsame : g.group key = g'.group key :=
      hgrows.eq_of_length_le (by rw [hcapacity] at hbound; exact hbound.trans hlength)
    refine ⟨?_, h'.isFull_iff.mpr ⟨hsame ▸ hne, ?_⟩⟩
    · rw [h.voxel?_of_ne_nil hne, hsame]
      exact h'.voxel?_of_ne_nil (hsame ▸ hne)
    · rw [hcapacity, ← hsame]
      exact hlength

/-! ### Calls and runs -/

/-- Calls made one after the other, in two parts. -/
theorem Run.append {calls' : List (MapCall α)} {answers' : List Nat}
    (hrun : Run m calls answers next) (hrun' : Run next calls' answers' last) :
    Run m (calls ++ calls') (answers ++ answers') last := by
  induction hrun with
  | nil => exact hrun'
  | cons hcall _ ih => exact .cons hcall (ih hrun')

/-- **A voxel continues through a call** unless it is pruned. -/
theorem Represents.continues_of_performs (h : m.Represents g)
    (ht : g.Tidy m.voxelSize m.capacity) (hcall : Performs m call answer next)
    (hkey : next.voxel? key ≠ none) : m.Continues next key := by
  obtain ⟨hnext, -, hvoxelSize, hcapacity⟩ := h.performs hcall
  obtain ⟨points, hpoints⟩ := Option.ne_none_iff_exists'.mp hkey
  obtain ⟨hgroup, hne⟩ := hnext.group_of_voxel? hpoints
  refine h.continues hnext hcapacity ?_ (g.isPrefix_onGroups call (hgroup ▸ hne))
  rw [hvoxelSize, hcapacity]
  exact ht.onGroups call

/-- **An insertion adds**: every voxel continues, one that changes has no more points afterwards
than the limit allows, and where it allows none nothing is stored. -/
structure Adds (m : VoxelMap α) (limit answer : Nat) (next : VoxelMap α) : Prop where
  continues : ∀ key, m.Continues next key
  length_le : ∀ {key stored}, next.voxel? key = some stored →
    next.voxel? key = m.voxel? key ∨ stored.length ≤ limit
  eq_of_no_room : limit = 0 → next = m ∧ answer = 0

/-- **Every insertion adds**, under the lower one of its own limit and the capacity of the map. -/
theorem Represents.adds (h : m.Represents g) (ht : g.Tidy m.voxelSize m.capacity)
    {points : List (Vec3 α)} {density : Density α}
    (hcall : Performs m (.insert points density) answer next) :
    m.Adds (min density.maxPoints m.capacity) answer next := by
  obtain ⟨hnext, -, hvoxelSize, hcapacity⟩ := h.performs hcall
  refine ⟨fun key => ?_, fun {key stored} hvoxel => ?_, fun hroom => ?_⟩
  · refine h.continues hnext hcapacity ?_ ((density.clamp m.capacity).isPrefix_extend _ _)
    rw [hvoxelSize, hcapacity]
    exact ht.onGroups _
  · obtain ⟨hgroup, hne⟩ := hnext.group_of_voxel? hvoxel
    rcases (density.clamp m.capacity).extend_eq_or_length_le (g.group key)
      (points.filter fun p => VoxelKey.ofPoint m.voxelSize p = key) with heq | hle
    · have hsame : g.group key = stored := heq.symm.trans hgroup
      rw [h.voxel?_of_ne_nil (hsame ▸ hne), hsame]
      exact .inl hvoxel
    · exact .inr (hgroup ▸ hle)
  · cases hcall with
    | refuse _ => exact ⟨rfl, rfl⟩
    | insert hsome _ => exact absurd hroom hsome

/-- **A pruning leaves a voxel as it is** or removes it. -/
theorem Represents.voxel?_of_prune (h : m.Represents g) {place : Vec3 α} {maxDistance : α}
    (hcall : Performs m (.prune place maxDistance) answer next) (key : VoxelKey) :
    next.voxel? key = m.voxel? key ∨ next.voxel? key = none := by
  obtain ⟨hnext, -⟩ := h.performs hcall
  cases hvoxel : next.voxel? key with
  | none => exact .inr rfl
  | some points =>
      obtain ⟨hgroup, hne⟩ := hnext.group_of_voxel? hvoxel
      rcases g.group_prune_eq place maxDistance key with heq | heq
      · have hsame : g.group key = points := heq.symm.trans hgroup
        rw [h.voxel?_of_ne_nil (hsame ▸ hne), hsame]
        exact .inl rfl
      · exact absurd (hgroup.symm.trans heq) hne

/-- **A run throughout which a voxel is there.** -/
inductive Lasts (key : VoxelKey) : VoxelMap α → List (MapCall α) → VoxelMap α → Prop
  | nil {m : VoxelMap α} : Lasts key m [] m
  | cons {m next last : VoxelMap α} {call : MapCall α} {calls : List (MapCall α)} {answer : Nat} :
      Performs m call answer next → next.voxel? key ≠ none → Lasts key next calls last →
      Lasts key m (call :: calls) last

omit [Scalar α] in
/-- A voxel that is left alone continues. -/
theorem Continues.refl (m : VoxelMap α) (key : VoxelKey) : m.Continues m key where
  exists_append {points} h := ⟨[], by rw [h, List.append_nil]⟩
  first?_eq _ := rfl
  full h := ⟨rfl, h⟩

omit [Scalar α] in
/-- A voxel continues over one call after another. -/
theorem Continues.trans (h : m.Continues next key) (h' : next.Continues last key) :
    m.Continues last key where
  exists_append hvoxel := by
    obtain ⟨more, hmore⟩ := h.exists_append hvoxel
    obtain ⟨rest, hrest⟩ := h'.exists_append hmore
    exact ⟨more ++ rest, by rw [hrest, List.append_assoc]⟩
  first?_eq hsome := by
    obtain ⟨points, hpoints⟩ := Option.ne_none_iff_exists'.mp hsome
    obtain ⟨more, hmore⟩ := h.exists_append hpoints
    rw [h'.first?_eq (by rw [hmore]; nofun), h.first?_eq hsome]
  full hfull := by
    obtain ⟨hvoxel, hnext⟩ := h.full hfull
    obtain ⟨hvoxel', hlast⟩ := h'.full hnext
    exact ⟨hvoxel'.trans hvoxel, hlast⟩

/-- **A voxel continues through a run** throughout which it is there. -/
theorem Represents.continues_of_lasts (h : m.Represents g) (ht : g.Tidy m.voxelSize m.capacity)
    (hrun : Lasts key m calls last) : m.Continues last key := by
  induction hrun generalizing g with
  | nil => exact .refl _ _
  | @cons m next last call calls answer hcall hkey _ ih =>
      obtain ⟨hnext, -, hvoxelSize, hcapacity⟩ := h.performs hcall
      have ht' := ht.onGroups call
      rw [← hvoxelSize, ← hcapacity] at ht'
      rw [← hvoxelSize, ← hcapacity] at hnext
      exact (h.continues_of_performs ht hcall hkey).trans (ih hnext ht')

/-- **What every call of a run preserves** holds of the groups that it reaches. -/
theorem Represents.exists_of_run {P : VoxelGroups α → Prop} (hrun : Run m calls answers last)
    (h : m.Represents g)
    (hstep : ∀ call ∈ calls, ∀ g', P g' → P (call.onGroups m.voxelSize m.capacity g'))
    (hg : P g) : ∃ g', last.Represents g' ∧ P g' ∧ last.voxelSize = m.voxelSize ∧
      last.capacity = m.capacity := by
  induction hrun generalizing g with
  | nil => exact ⟨g, h, hg, rfl, rfl⟩
  | @cons m next last call calls answer answers hcall _ ih =>
      obtain ⟨hfirst, hothers⟩ := List.forall_mem_cons.mp hstep
      obtain ⟨hnext, -, hvoxelSize, hcapacity⟩ := h.performs hcall
      rw [← hvoxelSize, ← hcapacity] at hothers
      obtain ⟨g', hlast, hg', hvoxelSize', hcapacity'⟩ := ih hnext hothers (hfirst g hg)
      exact ⟨g', hlast, hg', hvoxelSize'.trans hvoxelSize, hcapacity'.trans hcapacity⟩

/-- **A run keeps the invariants.** -/
theorem Represents.exists_tidy_of_run (hrun : Run m calls answers last) (h : m.Represents g)
    (ht : g.Tidy m.voxelSize m.capacity) :
    ∃ g', last.Represents g' ∧ g'.Tidy last.voxelSize last.capacity ∧
      (∀ distance, g.SpacedBy distance → (∀ call ∈ calls, call.AsksFor distance) →
        g'.SpacedBy distance) ∧
      last.voxelSize = m.voxelSize ∧ last.capacity = m.capacity := by
  obtain ⟨g', hlast, ⟨htidy, hspaced⟩, hvoxelSize, hcapacity⟩ := h.exists_of_run
    (P := fun g' => g'.Tidy m.voxelSize m.capacity ∧ ∀ distance, g.SpacedBy distance →
      (∀ call ∈ calls, call.AsksFor distance) → g'.SpacedBy distance) hrun
    (fun call hmem g' hg' => ⟨hg'.1.onGroups call, fun distance hs hcalls =>
      (hg'.2 distance hs hcalls).onGroups (hcalls call hmem)⟩)
    ⟨ht, fun _ hs _ => hs⟩
  rw [← hvoxelSize, ← hcapacity] at htidy
  exact ⟨g', hlast, htidy, hspaced, hvoxelSize, hcapacity⟩

/-- **The map that a run reaches** from an empty one represents tidy groups. -/
theorem Run.exists_tidy {voxelSize : α} {capacity : Nat}
    (hrun : Run (empty voxelSize capacity) calls answers m) :
    ∃ g, m.Represents g ∧ g.Tidy voxelSize capacity ∧
      (∀ distance, (∀ call ∈ calls, call.AsksFor distance) → g.SpacedBy distance) ∧
      m.voxelSize = voxelSize ∧ m.capacity = capacity := by
  obtain ⟨g, hrepresents, htidy, hspaced, hvoxelSize, hcapacity⟩ :=
    (represents_empty voxelSize capacity).exists_tidy_of_run hrun VoxelGroups.tidy_empty
  rw [hvoxelSize, hcapacity] at htidy
  exact ⟨g, hrepresents, htidy, fun distance => hspaced distance VoxelGroups.spacedBy_empty,
    hvoxelSize, hcapacity⟩

end VoxelMap

end LidarOdometry
