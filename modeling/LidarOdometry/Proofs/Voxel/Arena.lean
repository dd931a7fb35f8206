import LidarOdometry.Voxel.Arena
import Mathlib.Tactic.Ring

/-!
# Contents of an Arena

What the operations of an arena do to the contents of its slots. Every stored voxel owns the
block of its slot, blocks of different slots have no place in common, and so an operation on
one slot leaves the contents of all others as they are, whatever voxels had the slot before and
whatever they left in its block.

Nothing is assumed of the slot that a new voxel is given but that it is *vacant*, without a
stored voxel. That the library's own choice is vacant takes a second invariant, on the records
of free slots, which nothing else depends on.

## Main definitions

* `VoxelArena.IsVacant`: a slot without a stored voxel.
* `VoxelArena.Sound`: every stored voxel has a point and fits into its block.
* `VoxelArena.Tracked`: the records of free slots name free slots only.

## Main results

* `VoxelArena.contents_openAt_self`, `VoxelArena.contents_openAt_of_ne`,
  `VoxelArena.contents_append_self`, `VoxelArena.contents_append_of_ne`,
  `VoxelArena.contents_close_of_ne`: the contents after an operation.
* `VoxelArena.Sound.openAt`, `VoxelArena.Sound.append`, `VoxelArena.Sound.close`: soundness is
  kept, for any vacant slot.
* `VoxelArena.Tracked.isVacant_freshSlot`: the library's own choice is vacant.
-/

namespace LidarOdometry

namespace VoxelArena

variable {α : Type} {s : VoxelArena α} {slot other : Nat} {key : VoxelKey}
  {header : VoxelHeader} {p : Vec3 α}

/-- A slot is **vacant** if no stored voxel has it. -/
def IsVacant (s : VoxelArena α) (slot : Nat) : Prop :=
  s.headers[slot]? = none

/-- **Sound arenas**: every stored voxel holds a point, no more points than its block has
places, and a block that lies within the array. -/
structure Sound (s : VoxelArena α) : Prop where
  count_pos : ∀ {slot : Nat} {header : VoxelHeader}, s.headers[slot]? = some header →
    0 < header.count
  count_le : ∀ {slot : Nat} {header : VoxelHeader}, s.headers[slot]? = some header →
    header.count ≤ s.capacity
  block_le : ∀ {slot : Nat} {header : VoxelHeader}, s.headers[slot]? = some header →
    slot * s.capacity + s.capacity ≤ s.places.size

/-! ### Places and blocks -/

/-- Places of different blocks differ. -/
theorem place_ne {capacity i j : Nat} (h : slot ≠ other) (hi : i < capacity)
    (hj : j < capacity) : slot * capacity + i ≠ other * capacity + j := by
  rcases Nat.lt_or_gt_of_ne h with hlt | hgt
  · have hmul : (slot + 1) * capacity ≤ other * capacity := Nat.mul_le_mul_right _ hlt
    have hstep : (slot + 1) * capacity = slot * capacity + capacity := by ring
    omega
  · have hmul : (other + 1) * capacity ≤ slot * capacity := Nat.mul_le_mul_right _ hgt
    have hstep : (other + 1) * capacity = other * capacity + capacity := by ring
    omega

/-- Places are filled up to a size. -/
theorem size_extend (places : Array (Vec3 α)) (size : Nat) (filler : Vec3 α) :
    (extend places size filler).size = max places.size size := by
  simp only [extend, Array.size_append, Array.size_replicate]
  omega

/-- Filling up leaves the places that are. -/
theorem getElem?_extend {places : Array (Vec3 α)} {i : Nat} (hi : i < places.size)
    (size : Nat) (filler : Vec3 α) : (extend places size filler)[i]? = places[i]? := by
  rw [extend, Array.getElem?_append_left hi]

/-! ### The contents of a slot -/

/-- A vacant slot has no contents. -/
theorem contents_of_isVacant (h : s.IsVacant slot) : s.contents slot = [] := by
  rw [IsVacant] at h
  simp only [contents, h]

/-- The count is in the header. -/
theorem count_of_header (h : s.headers[slot]? = some header) : s.count slot = header.count := by
  simp only [count, h]

/-- The contents of a slot, place by place. -/
theorem getElem?_contents (hs : s.Sound) (h : s.headers[slot]? = some header) (i : Nat) :
    (s.contents slot)[i]? =
      if i < header.count then s.places[slot * s.capacity + i]? else none := by
  have hcount := hs.count_le h
  have hblock := hs.block_le h
  have hmin : min (slot * s.capacity + header.count) s.places.size - slot * s.capacity
      = header.count := by omega
  simp only [contents, h, Array.getElem?_toList, Array.getElem?_extract, hmin]

/-- A slot has as many points as it counts. -/
theorem length_contents (hs : s.Sound) (h : s.headers[slot]? = some header) :
    (s.contents slot).length = header.count := by
  have hcount := hs.count_le h
  have hblock := hs.block_le h
  simp only [contents, h, Array.length_toList, Array.size_extract]
  omega

/-- No slot in use is empty. -/
theorem contents_ne_nil (hs : s.Sound) (h : s.headers[slot]? = some header) :
    s.contents slot ≠ [] := by
  have hpos := hs.count_pos h
  rw [← length_contents hs h] at hpos
  exact List.ne_nil_of_length_pos hpos

/-- Contents depend on the header of the slot and on the places of its block alone. -/
theorem contents_congr {t : VoxelArena α} (hs : s.Sound) (ht : t.Sound)
    (hcap : t.capacity = s.capacity) (hheader : t.headers[slot]? = s.headers[slot]?)
    (hplaces : ∀ i < s.capacity,
      t.places[slot * s.capacity + i]? = s.places[slot * s.capacity + i]?) :
    t.contents slot = s.contents slot := by
  cases h : s.headers[slot]? with
  | none =>
      rw [contents_of_isVacant (s := s) h, contents_of_isVacant (hheader.trans h)]
  | some header =>
      refine List.ext_getElem? fun i => ?_
      rw [getElem?_contents hs h, getElem?_contents ht (hheader.trans h), hcap]
      split
      · exact hplaces i (by have := hs.count_le h; omega)
      · rfl

/-! ### A new voxel -/

/-- Opening a slot keeps the capacity. -/
@[simp] theorem capacity_openAt : (s.openAt slot key p).capacity = s.capacity := rfl

/-- Opening a slot writes one header. -/
theorem getElem?_headers_openAt : (s.openAt slot key p).headers[other]? =
    if slot = other then some ⟨key, 1⟩ else s.headers[other]? := by
  simp [openAt, Std.HashMap.getElem?_insert]

/-- Opening a slot makes room for its points. -/
theorem size_places_openAt : (s.openAt slot key p).places.size =
    max s.places.size (slot * s.capacity + s.capacity) := by
  simp only [openAt, Array.size_setIfInBounds, size_extend]

/-- **Opening a slot keeps the arena sound.** -/
theorem Sound.openAt (hs : s.Sound) (hcap : 0 < s.capacity) (slot : Nat) (key : VoxelKey)
    (p : Vec3 α) : (s.openAt slot key p).Sound where
  count_pos {other header} h := by
    rw [getElem?_headers_openAt] at h
    split at h
    · cases h
      exact Nat.one_pos
    · exact hs.count_pos h
  count_le {other header} h := by
    rw [getElem?_headers_openAt] at h
    split at h
    · cases h
      exact hcap
    · exact hs.count_le h
  block_le {other header} h := by
    rw [getElem?_headers_openAt] at h
    rw [size_places_openAt, capacity_openAt]
    split at h
    · next heq =>
        subst heq
        omega
    · have := hs.block_le h
      omega

/-- A new voxel holds its first point and nothing that its block held before. -/
theorem contents_openAt_self (hs : s.Sound) (hcap : 0 < s.capacity) :
    (s.openAt slot key p).contents slot = [p] := by
  have hheader : (s.openAt slot key p).headers[slot]? = some ⟨key, 1⟩ := by
    rw [getElem?_headers_openAt, if_pos rfl]
  have hbegins : slot * s.capacity <
      (extend s.places (slot * s.capacity + s.capacity) p).size := by
    rw [size_extend]
    omega
  refine List.ext_getElem? fun i => ?_
  rw [getElem?_contents (hs.openAt hcap slot key p) hheader]
  cases i with
  | zero => simp [VoxelArena.openAt, hbegins]
  | succ i => simp

/-- A new voxel in a slot changes the contents of no other. -/
theorem contents_openAt_of_ne (hs : s.Sound) (hcap : 0 < s.capacity) (hne : slot ≠ other) :
    (s.openAt slot key p).contents other = s.contents other := by
  cases h : s.headers[other]? with
  | none =>
      have hvacant : (s.openAt slot key p).IsVacant other := by
        rw [IsVacant, getElem?_headers_openAt, if_neg hne, h]
      rw [contents_of_isVacant hvacant, contents_of_isVacant (s := s) h]
  | some header =>
      refine contents_congr hs (hs.openAt hcap slot key p) rfl ?_ fun i hi => ?_
      · rw [getElem?_headers_openAt, if_neg hne]
      · have hblock := hs.block_le h
        have hplace : slot * s.capacity ≠ other * s.capacity + i := by
          simpa using place_ne (i := 0) hne hcap hi
        simp only [VoxelArena.openAt]
        rw [Array.getElem?_setIfInBounds, if_neg hplace, getElem?_extend (by omega)]

/-! ### One point more -/

/-- One point more keeps the capacity. -/
@[simp] theorem capacity_append : (s.append slot p).capacity = s.capacity := by
  unfold append
  split <;> rfl

/-- One point more is counted in one header. -/
theorem getElem?_headers_append (h : s.headers[slot]? = some header) :
    (s.append slot p).headers[other]? =
      if slot = other then some { header with count := header.count + 1 }
      else s.headers[other]? := by
  simp [append, h, Std.HashMap.getElem?_insert]

/-- One point more is written behind the points of its slot. -/
theorem places_append (h : s.headers[slot]? = some header) : (s.append slot p).places =
    s.places.setIfInBounds (slot * s.capacity + header.count) p := by
  simp only [append, h]

/-- **One point more keeps the arena sound**, where there is room. -/
theorem Sound.append (hs : s.Sound) (h : s.headers[slot]? = some header)
    (hroom : header.count < s.capacity) (p : Vec3 α) : (s.append slot p).Sound where
  count_pos {other header'} h' := by
    rw [getElem?_headers_append h] at h'
    split at h'
    · cases h'
      exact Nat.succ_pos _
    · exact hs.count_pos h'
  count_le {other header'} h' := by
    rw [getElem?_headers_append h] at h'
    rw [capacity_append]
    split at h'
    · cases h'
      exact hroom
    · exact hs.count_le h'
  block_le {other header'} h' := by
    rw [getElem?_headers_append h] at h'
    rw [places_append h, Array.size_setIfInBounds, capacity_append]
    split at h'
    · next heq => exact hs.block_le (heq ▸ h)
    · exact hs.block_le h'

/-- A voxel with room gets the new point at its end. -/
theorem contents_append_self (hs : s.Sound) (h : s.headers[slot]? = some header)
    (hroom : header.count < s.capacity) :
    (s.append slot p).contents slot = s.contents slot ++ [p] := by
  have hheader : (s.append slot p).headers[slot]? =
      some { header with count := header.count + 1 } := by
    rw [getElem?_headers_append h, if_pos rfl]
  have hlength := length_contents hs h
  have hblock := hs.block_le h
  refine List.ext_getElem? fun i => ?_
  rw [getElem?_contents (hs.append h hroom p) hheader, places_append h, capacity_append,
    Array.getElem?_setIfInBounds]
  dsimp only
  -- before the new point, at it, and behind it
  rcases Nat.lt_trichotomy i header.count with hlt | rfl | hgt
  · have hold : (s.contents slot ++ [p])[i]? = (s.contents slot)[i]? :=
      List.getElem?_append_left (by omega)
    rw [hold, getElem?_contents hs h, if_pos (by omega), if_neg (by omega), if_pos hlt]
  · have hnew : (s.contents slot ++ [p])[header.count]? = some p := by
      rw [← hlength, List.getElem?_concat_length]
    rw [hnew, if_pos (by omega), if_pos rfl, if_pos (by omega)]
  · have hend : (s.contents slot ++ [p])[i]? = none := by
      rw [List.getElem?_eq_none_iff, List.length_append, hlength, List.length_singleton]
      omega
    rw [hend, if_neg (by omega)]

/-- One point more in a slot changes the contents of no other. -/
theorem contents_append_of_ne (hs : s.Sound) (h : s.headers[slot]? = some header)
    (hroom : header.count < s.capacity) (hne : slot ≠ other) :
    (s.append slot p).contents other = s.contents other := by
  refine contents_congr hs (hs.append h hroom p) capacity_append ?_ fun i hi => ?_
  · rw [getElem?_headers_append h, if_neg hne]
  · rw [places_append h, Array.getElem?_setIfInBounds, if_neg (place_ne hne hroom hi)]

/-! ### The end of a voxel -/

/-- Closing a slot deletes its header. -/
theorem getElem?_headers_close : (s.close slot).headers[other]? =
    if slot = other then none else s.headers[other]? := by
  simp [close, Std.HashMap.getElem?_erase]

/-- A header that remains is that of another slot. -/
theorem header_of_close (h : (s.close slot).headers[other]? = some header) :
    slot ≠ other ∧ s.headers[other]? = some header := by
  rw [getElem?_headers_close] at h
  split at h
  · cases h
  · next hne => exact ⟨hne, h⟩

/-- **Closing a slot keeps the arena sound.** -/
theorem Sound.close (hs : s.Sound) (slot : Nat) : (s.close slot).Sound where
  count_pos h := hs.count_pos (header_of_close h).2
  count_le h := hs.count_le (header_of_close h).2
  block_le h := hs.block_le (header_of_close h).2

/-- The end of a voxel changes the contents of no other slot. -/
theorem contents_close_of_ne (hs : s.Sound) (hne : slot ≠ other) :
    (s.close slot).contents other = s.contents other := by
  refine contents_congr hs (hs.close slot) rfl ?_ fun _ _ => rfl
  rw [getElem?_headers_close, if_neg hne]

/-! ### The records of free slots -/

/-- **Tracked slots**: a slot is listed as closed at most once and only while it is vacant, and
no slot that was never opened has a voxel. -/
structure Tracked (s : VoxelArena α) : Prop where
  nodup : s.vacant.Nodup
  isVacant_of_mem : ∀ {slot : Nat}, slot ∈ s.vacant → s.IsVacant slot
  isVacant_of_le : ∀ {slot : Nat}, s.opened ≤ slot → s.IsVacant slot

/-- The slot that the library itself chooses is vacant. -/
theorem Tracked.isVacant_freshSlot (ht : s.Tracked) : s.IsVacant s.freshSlot := by
  unfold freshSlot
  split
  · next heq => exact ht.isVacant_of_mem (by rw [heq]; exact List.mem_cons_self)
  · exact ht.isVacant_of_le (Nat.le_refl _)

/-- **Opening a slot keeps the slots tracked.** -/
theorem Tracked.openAt (ht : s.Tracked) (slot : Nat) (key : VoxelKey) (p : Vec3 α) :
    (s.openAt slot key p).Tracked where
  nodup := ht.nodup.erase slot
  isVacant_of_mem {other} h := by
    obtain ⟨hne, hmem⟩ := ht.nodup.mem_erase_iff.mp h
    rw [IsVacant, getElem?_headers_openAt, if_neg hne.symm]
    exact ht.isVacant_of_mem hmem
  isVacant_of_le {other} h := by
    have hle : max s.opened (slot + 1) ≤ other := h
    rw [IsVacant, getElem?_headers_openAt, if_neg (by omega)]
    exact ht.isVacant_of_le (by omega)

/-- **One point more keeps the slots tracked.** -/
theorem Tracked.append (ht : s.Tracked) (h : s.headers[slot]? = some header) (p : Vec3 α) :
    (s.append slot p).Tracked := by
  have hvacant : ∀ {other}, s.IsVacant other → (s.append slot p).IsVacant other := by
    intro other hother
    have hne : slot ≠ other := by
      rintro rfl
      rw [IsVacant, h] at hother
      cases hother
    rw [IsVacant, getElem?_headers_append h, if_neg hne]
    exact hother
  have hrecords : (s.append slot p).vacant = s.vacant ∧ (s.append slot p).opened = s.opened := by
    simp only [VoxelArena.append, h, and_self]
  obtain ⟨hlist, hopened⟩ := hrecords
  exact ⟨hlist ▸ ht.nodup, fun hmem => hvacant (ht.isVacant_of_mem (hlist ▸ hmem)),
    fun hle => hvacant (ht.isVacant_of_le (hopened ▸ hle))⟩

/-- **Closing a slot keeps the slots tracked.** -/
theorem Tracked.close (ht : s.Tracked) (h : s.headers[slot]? = some header) :
    (s.close slot).Tracked := by
  have hvacant : ∀ {other}, s.IsVacant other → (s.close slot).IsVacant other := by
    intro other hother
    rw [IsVacant, getElem?_headers_close]
    split
    · rfl
    · exact hother
  have hfresh : slot ∉ s.vacant := by
    intro hmem
    have hnone := ht.isVacant_of_mem hmem
    rw [IsVacant, h] at hnone
    cases hnone
  refine ⟨List.nodup_cons.mpr ⟨hfresh, ht.nodup⟩, ?_, fun hle => hvacant (ht.isVacant_of_le hle)⟩
  intro other hmem
  rcases List.mem_cons.mp hmem with rfl | hmem
  · rw [IsVacant, getElem?_headers_close, if_pos rfl]
  · exact hvacant (ht.isVacant_of_mem hmem)

/-- In an empty arena every slot is vacant. -/
theorem isVacant_empty (capacity slot : Nat) : (empty capacity : VoxelArena α).IsVacant slot := by
  simp [IsVacant, empty]

/-- An empty arena is sound. -/
theorem sound_empty (capacity : Nat) : (empty capacity : VoxelArena α).Sound where
  count_pos {slot _} h := absurd h (by rw [isVacant_empty capacity slot]; nofun)
  count_le {slot _} h := absurd h (by rw [isVacant_empty capacity slot]; nofun)
  block_le {slot _} h := absurd h (by rw [isVacant_empty capacity slot]; nofun)

/-- The slots of an empty arena are tracked. -/
theorem tracked_empty (capacity : Nat) : (empty capacity : VoxelArena α).Tracked :=
  ⟨List.nodup_nil, fun _ => isVacant_empty capacity _, fun _ => isVacant_empty capacity _⟩

end VoxelArena

end LidarOdometry
