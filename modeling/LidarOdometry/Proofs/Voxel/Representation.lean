import LidarOdometry.Proofs.Voxel.Arena
import LidarOdometry.Proofs.Voxel.Groups

/-!
# Voxel Maps that Hold Groups

A voxel map keeps an index from keys to slots, headers by slot, counts in the headers, and the
points of all voxels in one array. It *represents* points grouped by voxel (`VoxelGroups`) if these
four agree with each other and with the groups. This module shows that a map that represents
groups answers every question as the groups do; that operations keep the representation is the
subject of `LidarOdometry.Proofs.Voxel.Refinement`.

Keys, size and points are read off the headers, while the points of a voxel are found through
the index. The representation says that either can be reached from the other, so that the two ways
to look at a map cannot disagree.

## Main definitions

* `VoxelMap.Represents`: index, headers and blocks of a map agree, and hold given groups.
* `VoxelMap.Shows`: all that can be asked of a map is answered as by given groups.

## Main results

* `VoxelMap.Represents.shows`: a map that represents groups shows them.
* `VoxelMap.Represents.size_index`: its index has one entry for each group.
-/

namespace LidarOdometry

variable {α : Type}

namespace VoxelMap

/-! ### Maps that hold groups -/

/-- **A map represents groups** if its blocks are sound, its index and its headers name each
other, and every voxel holds the points of its group. -/
structure Represents (m : VoxelMap α) (g : VoxelGroups α) : Prop where
  sound : m.arena.Sound
  header_of_index : ∀ {key : VoxelKey} {slot : Nat}, m.index[key]? = some slot →
    ∃ header, m.arena.headers[slot]? = some header ∧ header.key = key
  index_of_header : ∀ {slot : Nat} {header : VoxelHeader},
    m.arena.headers[slot]? = some header → m.index[header.key]? = some slot
  group_eq : ∀ key, g.group key = (m.voxel? key).getD []

/-- **A map shows groups** if all that can be asked of it is answered as by the groups. The order
in which keys and points are listed is not determined. -/
structure Shows (m : VoxelMap α) (g : VoxelGroups α) : Prop where
  voxel?_eq : ∀ key, m.voxel? key = g.voxel? key
  isFull_eq : ∀ key, m.isFull key = g.isFull m.capacity key
  size_eq : m.size = g.size
  voxelCount_eq : m.voxelCount = g.domain.card
  keys_nodup : m.keys.Nodup
  mem_keys : ∀ key, key ∈ m.keys ↔ key ∈ g.domain
  points_perm : m.points.Perm (g.domain.toList.flatMap g.group)
  length_points : m.points.length = m.size

/-- The size of a map is the sum of its counts. -/
theorem size_eq_sum_counts (m : VoxelMap α) :
    m.size = (m.arena.headers.toList.map fun entry => entry.2.count).sum := by
  unfold size
  induction m.arena.headers.toList with
  | nil => rfl
  | cons entry entries ih => rw [List.foldr_cons, List.map_cons, List.sum_cons, ih]

namespace Represents

variable {m : VoxelMap α} {g : VoxelGroups α} {key : VoxelKey} {slot : Nat}
  {header : VoxelHeader}

/-- The group of a key that is indexed is what its slot has. -/
theorem group_of_index (h : m.Represents g) (hindex : m.index[key]? = some slot) :
    g.group key = m.arena.contents slot := by
  rw [h.group_eq, voxel?, hindex]
  rfl

/-- A key that is not indexed has no group. -/
theorem group_of_no_index (h : m.Represents g) (hindex : m.index[key]? = none) :
    g.group key = [] := by
  rw [h.group_eq, voxel?, hindex]
  rfl

/-- What a slot has is the group of the key in its header. -/
theorem contents_of_header (h : m.Represents g) (hheader : m.arena.headers[slot]? = some header) :
    m.arena.contents slot = g.group header.key :=
  (h.group_of_index (h.index_of_header hheader)).symm

/-- A key is in the index exactly if it has a group. -/
theorem mem_domain_iff (h : m.Represents g) :
    key ∈ g.domain ↔ ∃ slot, m.index[key]? = some slot := by
  rw [g.mem_domain]
  cases hindex : m.index[key]? with
  | none => simp [h.group_of_no_index hindex]
  | some slot =>
      obtain ⟨header, hheader, -⟩ := h.header_of_index hindex
      have hne := VoxelArena.contents_ne_nil h.sound hheader
      simp [h.group_of_index hindex, hne]

/-- Slots of different keys differ. -/
theorem slot_ne {key' : VoxelKey} {slot' : Nat} (h : m.Represents g)
    (hindex : m.index[key]? = some slot) (hindex' : m.index[key']? = some slot')
    (hne : key ≠ key') : slot ≠ slot' := by
  rintro rfl
  obtain ⟨header, hheader, hkey⟩ := h.header_of_index hindex
  obtain ⟨header', hheader', hkey'⟩ := h.header_of_index hindex'
  rw [hheader] at hheader'
  cases hheader'
  exact hne (hkey.symm.trans hkey')

/-! ### What a map shows -/

/-- No key is listed twice. -/
theorem keys_nodup (h : m.Represents g) : m.keys.Nodup := by
  have hslots : m.arena.headers.toList.Nodup := by
    refine Std.HashMap.distinct_keys_toList.imp ?_
    rintro a b hab rfl
    simp at hab
  refine hslots.map_on ?_
  rintro ⟨slot, header⟩ hmem ⟨slot', header'⟩ hmem' hkey
  rw [Std.HashMap.mem_toList_iff_getElem?_eq_some] at hmem hmem'
  have hslot := h.index_of_header hmem
  rw [show header.key = header'.key from hkey, h.index_of_header hmem'] at hslot
  cases hslot
  rw [hmem] at hmem'
  cases hmem'
  rfl

/-- The keys are those with a group. -/
theorem mem_keys_iff (h : m.Represents g) : key ∈ m.keys ↔ key ∈ g.domain := by
  rw [h.mem_domain_iff, keys, List.mem_map]
  constructor
  · rintro ⟨⟨slot, header⟩, hmem, rfl⟩
    rw [Std.HashMap.mem_toList_iff_getElem?_eq_some] at hmem
    exact ⟨slot, h.index_of_header hmem⟩
  · rintro ⟨slot, hindex⟩
    obtain ⟨header, hheader, hkey⟩ := h.header_of_index hindex
    exact ⟨(slot, header), Std.HashMap.mem_toList_iff_getElem?_eq_some.mpr hheader, hkey⟩

/-- The keys, as a set, are those with a group. -/
theorem toFinset_keys (h : m.Represents g) : m.keys.toFinset = g.domain := by
  ext key
  rw [List.mem_toFinset, h.mem_keys_iff]

/-- The points are those of the groups, key after key. -/
theorem points_eq (h : m.Represents g) : m.points = m.keys.flatMap g.group := by
  rw [points, keys, List.flatMap_map]
  refine List.flatMap_congr fun entry hmem => ?_
  exact h.contents_of_header (Std.HashMap.mem_toList_iff_getElem?_eq_some.mp hmem)

/-- The map counts the points of all groups. -/
theorem size_eq (h : m.Represents g) : m.size = g.size := by
  have hcounts : (m.arena.headers.toList.map fun entry => entry.2.count) =
      m.keys.map fun key => (g.group key).length := by
    rw [keys, List.map_map]
    refine List.map_congr_left fun entry hmem => ?_
    rw [Std.HashMap.mem_toList_iff_getElem?_eq_some] at hmem
    rw [← VoxelArena.length_contents h.sound hmem, h.contents_of_header hmem]
    rfl
  rw [size_eq_sum_counts, hcounts, ← List.sum_toFinset _ h.keys_nodup, h.toFinset_keys,
    VoxelGroups.size]

/-- The index has one entry for every group. -/
theorem size_index (h : m.Represents g) : m.index.size = g.domain.card := by
  have hnodup : m.index.keys.Nodup := Std.HashMap.nodup_keys
  have hkeys : m.index.keys.toFinset = g.domain := by
    ext key
    rw [List.mem_toFinset, Std.HashMap.mem_keys, h.mem_domain_iff, ← Option.isSome_iff_exists,
      Std.HashMap.isSome_getElem?_iff_mem]
  rw [← Std.HashMap.length_keys, ← hkeys, List.toFinset_card_of_nodup hnodup]

/-- **A map that represents groups shows them.** -/
theorem shows (h : m.Represents g) : m.Shows g where
  voxel?_eq key := by
    cases hindex : m.index[key]? with
    | none =>
        have hkey : key ∉ g.domain := by simp [h.mem_domain_iff, hindex]
        simp [voxel?, VoxelGroups.voxel?, hindex, hkey]
    | some slot =>
        have hkey : key ∈ g.domain := h.mem_domain_iff.mpr ⟨slot, hindex⟩
        simp [voxel?, VoxelGroups.voxel?, hindex, hkey, h.group_of_index hindex]
  isFull_eq key := by
    cases hindex : m.index[key]? with
    | none =>
        have hkey : key ∉ g.domain := by simp [h.mem_domain_iff, hindex]
        simp [isFull, VoxelGroups.isFull, hindex, hkey]
    | some slot =>
        have hkey : key ∈ g.domain := h.mem_domain_iff.mpr ⟨slot, hindex⟩
        obtain ⟨header, hheader, -⟩ := h.header_of_index hindex
        simp [isFull, VoxelGroups.isFull, hindex, hkey, h.group_of_index hindex,
          VoxelArena.count_of_header hheader, VoxelArena.length_contents h.sound hheader]
  size_eq := h.size_eq
  voxelCount_eq := by
    have hlength : m.voxelCount = m.keys.length := by
      rw [voxelCount, VoxelArena.size, keys, List.length_map, Std.HashMap.length_toList]
    rw [hlength, ← h.toFinset_keys, List.toFinset_card_of_nodup h.keys_nodup]
  keys_nodup := h.keys_nodup
  mem_keys _ := h.mem_keys_iff
  points_perm := by
    have hkeys : m.keys.Perm g.domain.toList := by
      rw [List.perm_ext_iff_of_nodup h.keys_nodup g.domain.nodup_toList]
      exact fun key => h.mem_keys_iff.trans Finset.mem_toList.symm
    rw [h.points_eq]
    exact hkeys.flatMap_right _
  length_points := by
    rw [h.points_eq, List.length_flatMap, ← List.sum_toFinset _ h.keys_nodup, h.toFinset_keys,
      h.size_eq, VoxelGroups.size]

end Represents

end VoxelMap

end LidarOdometry
