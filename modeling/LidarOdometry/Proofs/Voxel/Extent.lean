import LidarOdometry.Proofs.Geometry.Vector
import LidarOdometry.Proofs.Voxel.Neighbors
import Mathlib.Data.Int.Interval

/-!
# The Extent of a Voxel Map

A map whose voxels are represented near a place is small. Its points lie hardly farther from the
place than the points that represent them, since no two points of a voxel are farther apart than
its diagonal. And it has few voxels: along each axis the keys of near points are consecutive
integers, no more than the distance has room for.

## Main definitions

* `VoxelKey.cells`: the cells of near values, along one axis.
* `VoxelMap.Within`: the voxels of a map are represented near a place.

## Main results

* `VoxelKey.norm_sub_le_of_ofPoint_eq`: the diagonal of a voxel.
* `VoxelKey.card_le_of_near`: few voxels have points near a place.
* `VoxelMap.Represents.within_prune`: a map is near the place that it was pruned around.
* `VoxelMap.Represents.norm_sub_le_of_mem_points`, `VoxelMap.Represents.voxelCount_le`,
  `VoxelMap.Represents.size_le`: the extent of a map.
-/

namespace LidarOdometry

/-! ### Keys of near points -/

namespace VoxelKey

variable {size distance a b : ℝ} {p q : Vec3 ℝ}

/-- **Points of one voxel** are no farther apart than its diagonal. -/
theorem norm_sub_le_of_ofPoint_eq (hsize : 0 < size) (h : ofPoint size p = ofPoint size q) :
    (p - q).norm ≤ √3 * size := by
  have haround : (ofPoint size q).IsAround 0 (ofPoint size p) := by
    rw [h, IsAround]
    simp
  obtain ⟨hx, hy, hz⟩ := abs_sub_lt_of_isAround hsize haround
  rw [Nat.cast_zero, zero_add, one_mul] at hx hy hz
  exact Vec3.norm_le_of_abs_le hx.le hy.le hz.le

/-- **The cells of the values** up to `distance` away from `a`. -/
noncomputable def cells (size distance a : ℝ) : Finset Int :=
  Finset.Icc ⌊(a - distance) / size⌋ ⌊(a + distance) / size⌋

/-- The cell of what is near is one of the cells near. -/
theorem floor_mem_cells (hsize : 0 < size) (h : |b - a| ≤ distance) :
    ⌊b / size⌋ ∈ cells size distance a := by
  obtain ⟨hl, hu⟩ := abs_le.mp h
  refine Finset.mem_Icc.mpr ⟨Int.floor_le_floor ?_, Int.floor_le_floor ?_⟩
  · exact div_le_div_of_nonneg_right (by linarith) hsize.le
  · exact div_le_div_of_nonneg_right (by linarith) hsize.le

/-- The first and the last cell are at most as far apart as the distance between their values
allows. -/
theorem card_cells_le (hsize : 0 < size) (hdistance : 0 ≤ distance) (a : ℝ) :
    (cells size distance a).card ≤ ⌊2 * distance / size⌋₊ + 2 := by
  have hspan : (a + distance) / size = (a - distance) / size + 2 * distance / size := by ring
  have hfloor : (⌊2 * distance / size⌋₊ : ℤ) = ⌊2 * distance / size⌋ :=
    Int.natCast_floor_eq_floor (by positivity)
  have hlast : ⌊(a + distance) / size⌋ - 1 ≤
      ⌊(a - distance) / size⌋ + ⌊2 * distance / size⌋ := by
    rw [hspan]
    exact Int.le_floor_add_floor _ _
  rw [cells, Int.card_Icc]
  omega

/-- **Few voxels have points near a place.** -/
theorem card_le_of_near (place : Vec3 ℝ) {keys : Finset VoxelKey} (hsize : 0 < size)
    (hdistance : 0 ≤ distance)
    (h : ∀ key ∈ keys, ∃ p, ofPoint size p = key ∧ (p - place).norm ≤ distance) :
    keys.card ≤ (⌊2 * distance / size⌋₊ + 2) ^ 3 := by
  -- along each axis the voxels meet the cells near the place
  have hmaps : Set.MapsTo (fun key : VoxelKey => (key.x, key.y, key.z)) keys
      (cells size distance place.x ×ˢ cells size distance place.y ×ˢ
        cells size distance place.z : Finset (Int × Int × Int)) := by
    intro key hkey
    obtain ⟨p, rfl, hnear⟩ := h key hkey
    simp only [Finset.coe_product, Set.mem_prod, Finset.mem_coe]
    exact ⟨floor_mem_cells hsize ((Vec3.abs_x_le_norm (p - place)).trans hnear),
      floor_mem_cells hsize ((Vec3.abs_y_le_norm (p - place)).trans hnear),
      floor_mem_cells hsize ((Vec3.abs_z_le_norm (p - place)).trans hnear)⟩
  have hinj : Set.InjOn (fun key : VoxelKey => (key.x, key.y, key.z)) keys := by
    intro key _ key' _ heq
    simp only [Prod.mk.injEq] at heq
    exact VoxelKey.ext heq.1 heq.2.1 heq.2.2
  have hcells := fun a => card_cells_le hsize hdistance a
  calc keys.card
      ≤ (cells size distance place.x ×ˢ cells size distance place.y ×ˢ
          cells size distance place.z).card := Finset.card_le_card_of_injOn _ hmaps hinj
    _ ≤ (⌊2 * distance / size⌋₊ + 2) * ((⌊2 * distance / size⌋₊ + 2) *
          (⌊2 * distance / size⌋₊ + 2)) := by
        rw [Finset.card_product, Finset.card_product]
        exact Nat.mul_le_mul (hcells _) (Nat.mul_le_mul (hcells _) (hcells _))
    _ = (⌊2 * distance / size⌋₊ + 2) ^ 3 := by ring

end VoxelKey

/-! ### Maps near a place -/

namespace VoxelMap

variable {m next : VoxelMap ℝ} {g : VoxelGroups ℝ} {place p : Vec3 ℝ} {distance : ℝ}

/-- **A map is within a distance** of a place if the points that represent its voxels are. -/
def Within (m : VoxelMap ℝ) (place : Vec3 ℝ) (distance : ℝ) : Prop :=
  ∀ key first, m.first? key = some first → (first - place).norm ≤ distance

/-- **A pruned map is within the distance** of the place that it was pruned around. -/
theorem Represents.within_prune (h : m.Represents g) (hdistance : 0 ≤ distance) {answer : Nat}
    (hcall : Performs m (.prune place distance) answer next) : next.Within place distance := by
  intro key first hfirst
  rw [(h.performs hcall).1.first?_eq] at hfirst
  change ((g.prune place distance).group key).head? = some first at hfirst
  rw [VoxelGroups.prune, VoxelGroups.group_filter] at hfirst
  split at hfirst
  · next hnear =>
      obtain ⟨first', hfirst', hle⟩ := hnear
      obtain rfl : first = first' := Option.some.inj (hfirst.symm.trans hfirst')
      exact Real.sqrt_le_iff.mpr ⟨hdistance, hle.trans_eq (sq distance).symm⟩
  · cases hfirst

section Extent

variable (h : m.Represents g) (ht : g.Tidy m.voxelSize m.capacity) (hsize : 0 < m.voxelSize)
  (hwithin : m.Within place distance)

include h ht hsize hwithin

/-- **The points of a map** lie hardly farther away than those that represent its voxels. -/
theorem Represents.norm_sub_le_of_mem_points (hp : p ∈ m.points) :
    (p - place).norm ≤ distance + √3 * m.voxelSize := by
  rw [h.points_eq] at hp
  obtain ⟨key, -, hgroup⟩ := List.mem_flatMap.mp hp
  obtain ⟨first, rest, hcons⟩ := List.exists_cons_of_ne_nil (List.ne_nil_of_mem hgroup)
  have hfirst : m.first? key = some first := by rw [h.first?_eq, hcons, List.head?_cons]
  have hsame : VoxelKey.ofPoint m.voxelSize p = VoxelKey.ofPoint m.voxelSize first := by
    rw [ht.ofPoint_eq key p hgroup, ht.ofPoint_eq key first (hcons ▸ List.mem_cons_self)]
  calc (p - place).norm ≤ (p - first).norm + (first - place).norm := Vec3.norm_sub_le p first place
    _ ≤ √3 * m.voxelSize + distance :=
        add_le_add (VoxelKey.norm_sub_le_of_ofPoint_eq hsize hsame) (hwithin key first hfirst)
    _ = distance + √3 * m.voxelSize := add_comm _ _

/-- **A map has no more voxels** than cells meet the surrounding cube. -/
theorem Represents.card_domain_le (hdistance : 0 ≤ distance) :
    g.domain.card ≤ (⌊2 * distance / m.voxelSize⌋₊ + 2) ^ 3 := by
  refine VoxelKey.card_le_of_near place hsize hdistance fun key hkey => ?_
  obtain ⟨first, rest, hcons⟩ := List.exists_cons_of_ne_nil ((g.mem_domain key).mp hkey)
  refine ⟨first, ht.ofPoint_eq key first (hcons ▸ List.mem_cons_self), hwithin key first ?_⟩
  rw [h.first?_eq, hcons, List.head?_cons]

/-- **The number of voxels** of a map is bounded. -/
theorem Represents.voxelCount_le (hdistance : 0 ≤ distance) :
    m.voxelCount ≤ (⌊2 * distance / m.voxelSize⌋₊ + 2) ^ 3 := by
  rw [h.shows.voxelCount_eq]
  exact h.card_domain_le ht hsize hwithin hdistance

/-- **The number of points** of a map is bounded. -/
theorem Represents.size_le (hdistance : 0 ≤ distance) :
    m.size ≤ m.capacity * (⌊2 * distance / m.voxelSize⌋₊ + 2) ^ 3 := by
  calc m.size = ∑ key ∈ g.domain, (g.group key).length := h.size_eq
    _ ≤ g.domain.card * m.capacity := by
        rw [← smul_eq_mul]
        exact Finset.sum_le_card_nsmul _ _ _ fun key _ => ht.length_le key
    _ = m.capacity * g.domain.card := Nat.mul_comm _ _
    _ ≤ m.capacity * (⌊2 * distance / m.voxelSize⌋₊ + 2) ^ 3 :=
        Nat.mul_le_mul_left _ (h.card_domain_le ht hsize hwithin hdistance)

end Extent

end VoxelMap

end LidarOdometry
