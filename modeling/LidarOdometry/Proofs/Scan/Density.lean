import LidarOdometry.Proofs.Scan.Nesting

/-!
# How Many Keypoints

One keypoint is drawn for every voxel that a scan visits, so the number of keypoints is a number of
voxels. Smaller voxels need not be more of them. Grids of different sizes have their cell boundaries
in different places, and points on the two sides of a boundary can come to lie in one cell when the
size shrinks. How much is lost that way is bounded: along each axis a smaller cell meets at most two
larger ones, so that a voxel takes the place of at most eight.

The bound is attained. If the voxels shrink to more than half their size, eight points at the
corners of a cube can be in eight large voxels but in one small one, and they can even be as far
apart as the scan was thinned.

## Main definitions

* `VoxelKey.above`: the voxels of a coarse grid that a fine voxel meets.
* `ScanPoint.corners`: the corners of a cube.

## Main results

* `ScanPoint.length_firsts_eq_card`: first points are counted by voxels.
* `ScanPoint.length_firsts_le_mul`: a fine grid draws at least an eighth of what a coarse one does.
* `ScanPoint.exists_length_firsts_lt`: it may draw no more than that.
-/

namespace LidarOdometry

/-! ### Coarse voxels above fine ones -/

namespace VoxelKey

variable {fine coarse x : ℝ}

/-- The coarse cells that a fine cell meets, along one axis. -/
noncomputable def cellsAbove (fine coarse : ℝ) (cell : Int) : Finset Int :=
  {⌊cell * fine / coarse⌋, ⌊cell * fine / coarse⌋ + 1}

/-- A fine cell meets at most two coarse ones. -/
theorem card_cellsAbove_le (fine coarse : ℝ) (cell : Int) :
    (cellsAbove fine coarse cell).card ≤ 2 :=
  Finset.card_le_two

/-- A fine cell is no longer than a coarse one, so it reaches no farther than the next. -/
theorem floor_mem_cellsAbove (hfine : 0 < fine) (hle : fine ≤ coarse) (x : ℝ) :
    ⌊x / coarse⌋ ∈ cellsAbove fine coarse ⌊x / fine⌋ := by
  have hcoarse : 0 < coarse := hfine.trans_le hle
  have hlow : ⌊⌊x / fine⌋ * fine / coarse⌋ ≤ ⌊x / coarse⌋ := by
    refine Int.floor_le_floor (div_le_div_of_nonneg_right ?_ hcoarse.le)
    exact (le_div_iff₀ hfine).mp (Int.floor_le _)
  have hhigh : ⌊x / coarse⌋ ≤ ⌊⌊x / fine⌋ * fine / coarse⌋ + 1 := by
    rw [← Int.floor_add_one]
    refine Int.floor_le_floor ?_
    rw [div_add_one hcoarse.ne']
    refine div_le_div_of_nonneg_right ?_ hcoarse.le
    have hcell := (div_lt_iff₀ hfine).mp (Int.lt_floor_add_one (x / fine))
    rw [add_one_mul] at hcell
    exact hcell.le.trans (add_le_add_right hle _)
  rw [cellsAbove, Finset.mem_insert, Finset.mem_singleton]
  omega

/-- **The voxels of a coarse grid** that a fine voxel meets. -/
noncomputable def above (fine coarse : ℝ) (key : VoxelKey) : Finset VoxelKey :=
  (cellsAbove fine coarse key.x ×ˢ cellsAbove fine coarse key.y ×ˢ
    cellsAbove fine coarse key.z).image fun (x, y, z) => ⟨x, y, z⟩

/-- **A fine voxel meets at most eight** coarse ones. -/
theorem card_above_le (fine coarse : ℝ) (key : VoxelKey) : (above fine coarse key).card ≤ 8 := by
  refine Finset.card_image_le.trans ?_
  rw [Finset.card_product, Finset.card_product]
  exact Nat.mul_le_mul (card_cellsAbove_le ..)
    (Nat.mul_le_mul (card_cellsAbove_le ..) (card_cellsAbove_le ..))

/-- The coarse cell of a point is one of those above its fine cell. -/
theorem ofPoint_mem_above (hfine : 0 < fine) (hle : fine ≤ coarse) (p : Vec3 ℝ) :
    ofPoint coarse p ∈ above fine coarse (ofPoint fine p) := by
  refine Finset.mem_image.mpr ⟨(⌊p.x / coarse⌋, ⌊p.y / coarse⌋, ⌊p.z / coarse⌋), ?_, rfl⟩
  simp only [Finset.mem_product]
  exact ⟨floor_mem_cellsAbove hfine hle p.x, floor_mem_cellsAbove hfine hle p.y,
    floor_mem_cellsAbove hfine hle p.z⟩

end VoxelKey

/-! ### First points are counted by voxels -/

namespace ScanPoint

section Count

variable {α : Type} [Scalar α] {size : α} {points : List (ScanPoint α)}

/-- **First points are counted by voxels.** -/
theorem length_firsts_eq_card (size : α) (points : List (ScanPoint α)) :
    (firsts size points).length = (points.map (voxel size)).toFinset.card := by
  have hsame : ((firsts size points).map (voxel size)).toFinset =
      (points.map (voxel size)).toFinset := by
    ext key
    simp only [List.mem_toFinset, List.mem_map]
    constructor
    · rintro ⟨p, hp, rfl⟩
      exact ⟨p, (firsts_sublist size points).subset hp, rfl⟩
    · rintro ⟨p, hp, rfl⟩
      exact exists_mem_firsts hp
  rw [← hsame, List.toFinset_card_of_nodup (nodup_map_voxel_firsts size points), List.length_map]

/-- Nothing is left out exactly if no two points share a voxel. -/
theorem firsts_eq_self_iff :
    firsts size points = points ↔ (points.map (voxel size)).Nodup := by
  refine ⟨fun h => ?_, fun h => (firsts_sublist size points).eq_of_length ?_⟩
  · rw [← h]
    exact nodup_map_voxel_firsts size points
  · rw [length_firsts_eq_card, List.toFinset_card_of_nodup h, List.length_map]

end Count

variable {fine coarse gap : ℝ}

/-- **A fine grid draws at least an eighth** of what a coarse one does. -/
theorem length_firsts_le_mul (hfine : 0 < fine) (hle : fine ≤ coarse)
    (points : List (ScanPoint ℝ)) :
    (firsts coarse points).length ≤ 8 * (firsts fine points).length := by
  rw [length_firsts_eq_card, length_firsts_eq_card, mul_comm]
  refine le_trans (Finset.card_le_card ?_) (Finset.card_biUnion_le_card_mul
    (points.map (voxel fine)).toFinset (VoxelKey.above fine coarse) 8
    fun key _ => VoxelKey.card_above_le fine coarse key)
  intro key hkey
  obtain ⟨p, hp, rfl⟩ := List.mem_map.mp (List.mem_toFinset.mp hkey)
  exact Finset.mem_biUnion.mpr ⟨p.voxel fine,
    List.mem_toFinset.mpr (List.mem_map_of_mem hp), VoxelKey.ofPoint_mem_above hfine hle p.raw⟩

/-! ### Corners -/

/-- **The corners of a cube**, each coordinate being one of two. -/
noncomputable def corners (near far : ℝ) : List (ScanPoint ℝ) :=
  [near, far].flatMap fun x => [near, far].flatMap fun y => [near, far].map fun z =>
    .untimed ⟨x, y, z⟩

section Corners

variable {near far size : ℝ}

/-- The voxels of the corners are given by two cells. -/
theorem map_voxel_corners (size near far : ℝ) : (corners near far).map (voxel size) =
    [⌊near / size⌋, ⌊far / size⌋].flatMap fun x => [⌊near / size⌋, ⌊far / size⌋].flatMap fun y =>
      [⌊near / size⌋, ⌊far / size⌋].map fun z => ⟨x, y, z⟩ :=
  rfl

/-- Corners in different cells are all kept. -/
theorem firsts_corners_of_ne (h : ⌊near / size⌋ ≠ ⌊far / size⌋) :
    firsts size (corners near far) = corners near far := by
  rw [firsts_eq_self_iff, map_voxel_corners]
  simp [h, h.symm]

/-- Of corners in one cell one is kept. -/
theorem length_firsts_corners_of_eq (h : ⌊near / size⌋ = ⌊far / size⌋) :
    (firsts size (corners near far)).length = 1 := by
  rw [length_firsts_eq_card, map_voxel_corners, h]
  simp

end Corners

/-- **A fine grid may draw no more than an eighth.** A cell of the fine grid has a boundary of the
coarse one in it, if it is longer than half a coarse cell. Corners on the two sides of it are lost
but for one, and they may be any distance apart that is shorter than the cell. -/
theorem exists_length_firsts_lt (hgap : gap < fine) (hfine : 0 < fine) (hlt : fine < coarse)
    (hhalf : coarse < 2 * fine) : ∃ points : List (ScanPoint ℝ),
      (firsts coarse points).length = 8 ∧ (firsts fine points).length = 1 ∧
        (0 < gap → firsts gap points = points) := by
  have hcoarse : 0 < coarse := hfine.trans hlt
  -- far enough for a coarse cell of its own, and not yet the next fine one
  let far := max coarse (fine + gap)
  have hfar : far < 2 * fine := max_lt hhalf (by linarith)
  refine ⟨corners fine far, ?_, length_firsts_corners_of_eq ?_, fun hpos => ?_⟩
  · have hcells : ⌊fine / coarse⌋ ≠ ⌊far / coarse⌋ := by
      have hnear : ⌊fine / coarse⌋ < 1 := by
        rw [Int.floor_lt, Int.cast_one, div_lt_one hcoarse]
        exact hlt
      have hbeyond : 1 ≤ ⌊far / coarse⌋ := by
        rw [Int.le_floor, Int.cast_one, one_le_div hcoarse]
        exact le_max_left _ _
      exact (hnear.trans_le hbeyond).ne
    rw [firsts_corners_of_ne hcells]
    rfl
  · have hlast : ⌊far / fine⌋ = 1 := by
      rw [Int.floor_eq_iff, Int.cast_one, one_le_div hfine, one_add_one_eq_two, div_lt_iff₀ hfine]
      exact ⟨hlt.le.trans (le_max_left _ _), hfar⟩
    rw [hlast, div_self hfine.ne', Int.floor_one]
  · refine firsts_corners_of_ne (ne_of_lt (Int.lt_of_add_one_le ?_))
    rw [← Int.floor_add_one]
    refine Int.floor_le_floor ?_
    rw [div_add_one hpos.ne']
    exact div_le_div_of_nonneg_right (le_max_right _ _) hpos.le

end ScanPoint

end LidarOdometry
