import LidarOdometry.Proofs.Geometry.Vector
import LidarOdometry.Proofs.Voxel.Invariants
import LidarOdometry.Voxel.Neighbors

/-!
# Nearest Neighbours are Nearest

A search looks at a cube of voxels only. Over the reals, where keys are floors, this is a search
of the whole map up to a distance that is known beforehand: a point that is no farther than
`radius` voxel sizes cannot lie outside the cube, since no coordinate of it is farther than that.
As long as all wanted points are found within this distance, nothing nearer was overlooked.

Stepping from voxel to voxel is stepping between keys only as long as no step leaves the range of
words (`VoxelKey.HasRoom`). Then the cube has each of its voxels exactly once, and together
with the invariants of reachable maps (every point lies in the voxel of its key) its candidates
are the stored points whose keys are near.

## Main definitions

* `VoxelKey.IsAround`: keys at most some steps away.
* `VoxelKey.HasRoom`: no step leaves the range of words.
* `Nearest`: what it is to be the nearest of some points.

## Main results

* `Candidate.order_perm`, `Candidate.pairwise_order`: ordering permutes and orders.
* `VoxelKey.nodup_block`, `VoxelKey.mem_block`: the cube of voxels.
* `VoxelMap.Represents.candidates_perm`: the candidates of a search.
* `VoxelMap.nearest_neighbors`: a search finds the nearest points of its cube.
* `VoxelMap.neighbors_eq_brute_force`: and those of the whole map, up to the distance that
  the cube covers.
-/

namespace LidarOdometry

/-! ### Ordering -/

namespace Candidate

section Permutation

variable {α : Type} [Scalar α]

/-- A candidate is put somewhere among the others. -/
theorem insertFarthestFirst_perm (c : Candidate α) (ds : List (Candidate α)) :
    (insertFarthestFirst c ds).Perm (c :: ds) := by
  induction ds with
  | nil => exact .refl _
  | cons d ds ih =>
      rw [insertFarthestFirst]
      split
      · exact (ih.cons d).trans (.swap c d ds)
      · exact .refl _

/-- **Ordering loses no candidate** and adds none. -/
theorem orderByInsertion_perm (cs : List (Candidate α)) : (orderByInsertion cs).Perm cs := by
  have hfold : ∀ ordered, (cs.foldl (fun ordered c => insertFarthestFirst c ordered) ordered).Perm
      (cs ++ ordered) := by
    induction cs with
    | nil => exact fun ordered => .refl ordered
    | cons c cs ih =>
        intro ordered
        refine (ih _).trans (.trans (.append_left cs (insertFarthestFirst_perm c ordered)) ?_)
        exact List.perm_middle
  exact (List.reverse_perm _).trans (by simpa using hfold [])

/-- **Ordering permutes.** -/
theorem order_perm (cs : List (Candidate α)) : (order cs).Perm cs := by
  rw [order]
  split
  · exact orderByInsertion_perm cs
  · exact List.mergeSort_perm cs _

end Permutation

section Ranks

variable {α β : Type} [Scalar α] [LinearOrder β] {rank : Candidate α → β}

/-- A list kept farthest first stays so. -/
theorem pairwise_insertFarthestFirst {c : Candidate α} {ds : List (Candidate α)}
    (hrank : ∀ d ∈ ds, c.distanceSq < d.distanceSq ↔ rank c < rank d)
    (h : ds.Pairwise fun a b => rank b ≤ rank a) :
    (insertFarthestFirst c ds).Pairwise fun a b => rank b ≤ rank a := by
  induction ds with
  | nil => exact List.pairwise_singleton _ _
  | cons d ds ih =>
      obtain ⟨hd, hds⟩ := List.pairwise_cons.mp h
      obtain ⟨hrank₁, hrank₂⟩ := List.forall_mem_cons.mp hrank
      rw [insertFarthestFirst]
      split
      · next hlt =>
          refine List.pairwise_cons.mpr ⟨fun b hb => ?_, ih hrank₂ hds⟩
          rcases List.mem_cons.mp ((insertFarthestFirst_perm c ds).mem_iff.mp hb) with rfl | hb
          · exact (hrank₁.mp hlt).le
          · exact hd b hb
      · next hge =>
          have hle : rank d ≤ rank c := not_lt.mp fun hlt => hge (hrank₁.mpr hlt)
          refine List.pairwise_cons.mpr ⟨fun b hb => ?_, h⟩
          rcases List.mem_cons.mp hb with rfl | hb
          · exact hle
          · exact (hd b hb).trans hle

/-- **Candidates are ordered** if their distances compare as some rank does. -/
theorem pairwise_orderByInsertion {cs : List (Candidate α)}
    (hrank : ∀ a ∈ cs, ∀ b ∈ cs, a.distanceSq < b.distanceSq ↔ rank a < rank b) :
    (orderByInsertion cs).Pairwise fun a b => rank a ≤ rank b := by
  have hfold : ∀ (ds ordered : List (Candidate α)), ds ⊆ cs → ordered ⊆ cs →
      ordered.Pairwise (fun a b => rank b ≤ rank a) →
      (ds.foldl (fun ordered c => insertFarthestFirst c ordered) ordered).Pairwise
        fun a b => rank b ≤ rank a := by
    intro ds
    induction ds with
    | nil => exact fun _ _ _ h => h
    | cons c ds ih =>
        intro ordered hds hordered h
        obtain ⟨hc, hds⟩ := List.cons_subset.mp hds
        refine ih _ hds ?_ (pairwise_insertFarthestFirst (fun d hd => hrank c hc d (hordered hd)) h)
        exact List.Subset.trans (insertFarthestFirst_perm c ordered).subset
          (List.cons_subset.mpr ⟨hc, hordered⟩)
  exact List.pairwise_reverse.mpr (hfold cs [] (.refl cs) (List.nil_subset cs) .nil)

/-- **Ordering orders**, wherever comparing distances is comparing ranks in a linear order. -/
theorem pairwise_order (rank : Candidate α → β) {cs : List (Candidate α)}
    (hrank : ∀ a ∈ cs, ∀ b ∈ cs, a.distanceSq < b.distanceSq ↔ rank a < rank b) :
    (order cs).Pairwise fun a b => rank a ≤ rank b := by
  rw [order]
  split
  · exact pairwise_orderByInsertion hrank
  · have hmerge : cs.mergeSort (fun a b => !decide (b.distanceSq < a.distanceSq)) =
        cs.mergeSort fun a b => decide (rank a ≤ rank b) := by
      have hmap := List.map_mergeSort (f := id)
        (r := fun a b : Candidate α => !decide (b.distanceSq < a.distanceSq))
        (s := fun a b => decide (rank a ≤ rank b)) (l := cs) fun a ha b hb => by
          simp only [hrank b hb a ha, id, ← not_lt, decide_not]
      rwa [List.map_id, List.map_id] at hmap
    rw [hmerge]
    refine (List.pairwise_mergeSort ?_ ?_ cs).imp fun h => of_decide_eq_true h
    · intro a b c hab hbc
      exact decide_eq_true ((of_decide_eq_true hab).trans (of_decide_eq_true hbc))
    · intro a b
      simpa only [Bool.or_eq_true, decide_eq_true_eq] using le_total (rank a) (rank b)

end Ranks

end Candidate

/-! ### Cubes of voxels -/

namespace VoxelKey

/-- Keys at most `radius` steps away along each axis. -/
def IsAround (center : VoxelKey) (radius : Nat) (key : VoxelKey) : Prop :=
  |key.x - center.x| ≤ radius ∧ |key.y - center.y| ≤ radius ∧ |key.z - center.z| ≤ radius

instance (center : VoxelKey) (radius : Nat) : DecidablePred (center.IsAround radius) :=
  fun _ => inferInstanceAs (Decidable (_ ∧ _ ∧ _))

/-- A coordinate from which `radius` steps in either direction stay within the range of words. -/
def RoomAt (coordinate : Int) (radius : Nat) : Prop :=
  Word.least ≤ coordinate - radius ∧ coordinate + radius ≤ Word.greatest

instance (coordinate : Int) (radius : Nat) : Decidable (RoomAt coordinate radius) :=
  inferInstanceAs (Decidable (_ ∧ _))

/-- **No step leaves the range of words**, along any axis. -/
structure HasRoom (center : VoxelKey) (radius : Nat) : Prop where
  x : RoomAt center.x radius
  y : RoomAt center.y radius
  z : RoomAt center.z radius

variable {center key : VoxelKey} {radius : Nat}

/-- With room the radius is a word. -/
theorem RoomAt.wrap_radius {coordinate : Int} (h : RoomAt coordinate radius) :
    Word.wrap radius = radius := by
  obtain ⟨hl, hu⟩ := h
  simp only [Word.least, Word.greatest] at hl hu
  refine Word.wrap_of_mem ?_ ?_
  · simp only [Word.least]
    omega
  · simp only [Word.greatest]
    omega

/-- With room no step is wrapped. -/
theorem RoomAt.wrap_add {coordinate d : Int} (h : RoomAt coordinate radius) (hd : |d| ≤ radius) :
    Word.wrap (coordinate + d) = coordinate + d := by
  obtain ⟨hl, hu⟩ := h
  obtain ⟨hd₁, hd₂⟩ := abs_le.mp hd
  exact Word.wrap_of_mem (by omega) (by omega)

/-- The steps of a search, in order, with sums that go round. -/
def steps (radius : Nat) : List Int :=
  let last := Word.wrap radius
  let first := Word.wrap (-last)
  (List.range (last + 1 - first).toNat).map fun (i : Nat) => first + i

/-- The steps from one end of the radius to the other. -/
theorem steps_eq (hradius : Word.wrap radius = radius) :
    steps radius = (List.range (2 * radius + 1)).map fun (i : Nat) => (i : Int) - radius := by
  have hle : (radius : Int) ≤ Word.greatest := hradius ▸ Word.wrap_le_greatest radius
  have hopposite : Word.wrap (-radius) = -radius := by
    simp only [Word.greatest] at hle
    refine Word.wrap_of_mem ?_ ?_
    · simp only [Word.least]
      omega
    · simp only [Word.greatest]
      omega
  have hlength : ((radius : Int) + 1 - -radius).toNat = 2 * radius + 1 := by omega
  simp only [steps, hradius, hopposite, hlength]
  exact List.map_congr_left fun i _ => by omega

/-- The steps are those within the radius. -/
theorem mem_steps (hradius : Word.wrap radius = radius) (d : Int) :
    d ∈ steps radius ↔ |d| ≤ radius := by
  rw [steps_eq hradius, List.mem_map, abs_le]
  constructor
  · rintro ⟨i, hi, rfl⟩
    rw [List.mem_range] at hi
    omega
  · rintro ⟨hl, hu⟩
    refine ⟨(d + radius).toNat, List.mem_range.mpr ?_, ?_⟩ <;> omega

/-- No step is made twice. -/
theorem nodup_steps (hradius : Word.wrap radius = radius) : (steps radius).Nodup := by
  rw [steps_eq hradius]
  refine List.nodup_range.map fun i j hij => ?_
  have hcast : (i : Int) - radius = (j : Int) - radius := hij
  omega

/-- Sums that go round, axis by axis. -/
theorem offset_eq_wrap (center : VoxelKey) (dx dy dz : Int) : center.offset dx dy dz =
    ⟨Word.wrap (center.x + dx), Word.wrap (center.y + dy), Word.wrap (center.z + dz)⟩ := rfl

/-- With room, a step adds to the coordinates. -/
theorem HasRoom.offset_eq (h : center.HasRoom radius) {dx dy dz : Int} (hx : |dx| ≤ radius)
    (hy : |dy| ≤ radius) (hz : |dz| ≤ radius) :
    center.offset dx dy dz = ⟨center.x + dx, center.y + dy, center.z + dz⟩ := by
  rw [offset_eq_wrap, h.x.wrap_add hx, h.y.wrap_add hy, h.z.wrap_add hz]

/-- The results at integers in a row. -/
theorem inRow_id {β : Type} (f : Int → Id β) (count : Nat) (first : Int) :
    inRow f count first = (List.range count).map fun (i : Nat) => f (first + i) := by
  induction count generalizing first with
  | zero => rfl
  | succ count ih =>
      rw [List.range_succ_eq_map, List.map_cons, List.map_map]
      change f first :: inRow f count (first + 1) = _
      rw [ih, Nat.cast_zero, add_zero]
      refine congrArg _ (List.map_congr_left fun i _ => congrArg f ?_)
      simp only [Nat.succ_eq_add_one, Nat.cast_add, Nat.cast_one]
      ring

/-- The results at all steps. -/
theorem alongBy_wrapping {β : Type} (radius : Nat) (f : Int → Id β) :
    alongBy Word.wrapping radius f = (steps radius).map f := by
  rw [steps, List.map_map]
  exact inRow_id f _ _

/-- The cube has one voxel for each triple of steps. -/
theorem block_eq (center : VoxelKey) (radius : Nat) : center.block radius =
    (steps radius ×ˢ (steps radius ×ˢ steps radius)).map fun d =>
      center.offset d.1 d.2.1 d.2.2 := by
  change (alongBy Word.wrapping radius _).flatten.flatten = _
  simp only [alongBy_wrapping, SProd.sprod, List.product, List.flatMap_def, List.map_flatten,
    List.map_map, Function.comp_def, List.flatten_flatten]
  rfl

/-- **The cube has the voxels around its center.** -/
theorem mem_block (h : center.HasRoom radius) :
    key ∈ center.block radius ↔ center.IsAround radius key := by
  simp only [block_eq, List.mem_map, Prod.exists, List.mem_product, mem_steps h.x.wrap_radius]
  constructor
  · rintro ⟨dx, dy, dz, ⟨hx, hy, hz⟩, rfl⟩
    rw [h.offset_eq hx hy hz, IsAround]
    simp only [add_sub_cancel_left]
    exact ⟨hx, hy, hz⟩
  · rintro ⟨hx, hy, hz⟩
    refine ⟨key.x - center.x, key.y - center.y, key.z - center.z, ⟨hx, hy, hz⟩, ?_⟩
    rw [h.offset_eq hx hy hz]
    simp only [add_sub_cancel]

/-- Different steps lead to different coordinates, even over the ends of the range of words. -/
theorem wrap_add_injOn {d d' : Int} (coordinate : Int) (hradius : Word.wrap radius = radius)
    (hd : |d| ≤ radius) (hd' : |d'| ≤ radius)
    (h : Word.wrap (coordinate + d) = Word.wrap (coordinate + d')) : d = d' := by
  have hle : (radius : Int) ≤ Word.greatest := hradius ▸ Word.wrap_le_greatest radius
  simp only [Word.greatest] at hle
  obtain ⟨q, hq⟩ := Word.exists_wrap_eq (coordinate + d)
  obtain ⟨q', hq'⟩ := Word.exists_wrap_eq (coordinate + d')
  rw [abs_le] at hd hd'
  omega

/-- **The cube has each voxel once.** -/
theorem nodup_block (center : VoxelKey) (hradius : Word.wrap radius = radius) :
    (center.block radius).Nodup := by
  have hsteps := nodup_steps hradius
  rw [block_eq]
  refine (hsteps.product (hsteps.product hsteps)).map_on ?_
  rintro ⟨dx, dy, dz⟩ hd ⟨dx', dy', dz'⟩ hd' heq
  simp only [List.mem_product, mem_steps hradius] at hd hd'
  -- the coordinates of a voxel tell the steps that lead to it
  simp only [offset_eq_wrap, VoxelKey.mk.injEq] at heq
  obtain ⟨hx, hy, hz⟩ := heq
  rw [wrap_add_injOn _ hradius hd.1 hd'.1 hx, wrap_add_injOn _ hradius hd.2.1 hd'.2.1 hy,
    wrap_add_injOn _ hradius hd.2.2 hd'.2.2 hz]

/-- A block has the volume of a cube. -/
theorem length_block (h : center.HasRoom radius) :
    (center.block radius).length = (2 * radius + 1) ^ 3 := by
  have hsteps : (steps radius).length = 2 * radius + 1 := by
    rw [steps_eq h.x.wrap_radius, List.length_map, List.length_range]
  rw [block_eq, List.length_map, List.length_product, List.length_product, hsteps]
  ring

end VoxelKey

/-! ### The nearest of some points -/

/-- An ordered list whose first elements are known: ordered elements, none above any other. -/
theorem take_eq_of_perm {as bs ds : List ℝ} (hperm : ds.Perm (as ++ bs))
    (hds : ds.Pairwise (· ≤ ·)) (has : as.Pairwise (· ≤ ·)) (hle : ∀ a ∈ as, ∀ b ∈ bs, a ≤ b) :
    ds.take as.length = as := by
  have hbs : (bs.mergeSort (· ≤ ·)).Perm bs := List.mergeSort_perm bs _
  have hordered : (as ++ bs.mergeSort (· ≤ ·)).Pairwise (· ≤ ·) :=
    List.pairwise_append.mpr ⟨has, List.pairwise_mergeSort' _ bs,
      fun a ha b hb => hle a ha b (hbs.mem_iff.mp hb)⟩
  have heq : ds = as ++ bs.mergeSort (· ≤ ·) :=
    List.Perm.eq_of_pairwise' hds hordered (hperm.trans (.append_left as hbs.symm))
  rw [heq, List.take_left]

/-- **The nearest of some points**: as many as wanted, or all of them, in order of their distance
from a place, and none of the others is nearer. -/
structure Nearest (place : Vec3 ℝ) (limit : Nat) (points found : List (Vec3 ℝ)) : Prop where
  length_eq : found.length = min limit points.length
  pairwise : found.Pairwise fun p p' => (p - place).norm ≤ (p' - place).norm
  exists_rest : ∃ rest, (found ++ rest).Perm points ∧
    ∀ p ∈ found, ∀ p' ∈ rest, (p - place).norm ≤ (p' - place).norm

namespace Nearest

variable {place : Vec3 ℝ} {limit : Nat} {points found : List (Vec3 ℝ)}

/-- What is found is one of the points. -/
theorem mem_of_mem (h : Nearest place limit points found) {p : Vec3 ℝ} (hp : p ∈ found) :
    p ∈ points := by
  obtain ⟨rest, hperm, -⟩ := h.exists_rest
  exact hperm.subset (List.mem_append_left rest hp)

/-- Fewer points than wanted are all points. -/
theorem perm_of_lt (h : Nearest place limit points found) (hlength : found.length < limit) :
    found.Perm points := by
  obtain ⟨rest, hperm, -⟩ := h.exists_rest
  have htotal := hperm.length_eq
  have hfound := h.length_eq
  rw [List.length_append] at htotal
  obtain rfl : rest = [] := List.length_eq_zero_iff.mp (by omega)
  rwa [List.append_nil] at hperm

/-- The last of the points found is the farthest of them. -/
theorem le_last (h : Nearest place limit points found) {last p : Vec3 ℝ}
    (hlast : last ∈ found.getLast?) (hp : p ∈ found) :
    (p - place).norm ≤ (last - place).norm := by
  obtain ⟨hne, rfl⟩ := List.mem_getLast?_eq_getLast hlast
  exact h.pairwise.rel_getLast_of_rel_getLast_getLast hp le_rfl

/-- A point that was not found is not nearer than the last one found, and no more were wanted. -/
theorem of_not_mem (h : Nearest place limit points found) {p : Vec3 ℝ} (hp : p ∈ points)
    (hnot : p ∉ found) :
    found.length = limit ∧ ∀ last ∈ found.getLast?, (last - place).norm ≤ (p - place).norm := by
  obtain ⟨rest, hperm, hrest⟩ := h.exists_rest
  have hmem : p ∈ rest := (List.mem_append.mp (hperm.mem_iff.mpr hp)).resolve_left hnot
  refine ⟨?_, fun last hlast => hrest last (List.mem_of_mem_getLast? hlast) p hmem⟩
  by_contra hne
  have hle : found.length ≤ limit := h.length_eq ▸ Nat.min_le_left _ _
  exact hnot ((h.perm_of_lt (lt_of_le_of_ne hle hne)).mem_iff.mpr hp)

/-- **The least distances.** Where none of the points that were not searched is nearer than a
point found, the distances found are the first of all distances in order. -/
theorem map_norm_eq_take (h : Nearest place limit points found) (hlength : found.length = limit)
    {others : List (Vec3 ℝ)}
    (hothers : ∀ p ∈ found, ∀ p' ∈ others, (p - place).norm ≤ (p' - place).norm)
    {distances : List ℝ}
    (hperm : distances.Perm ((points ++ others).map fun p => (p - place).norm))
    (hsorted : distances.Pairwise (· ≤ ·)) :
    found.map (fun p => (p - place).norm) = distances.take limit := by
  obtain ⟨rest, hfound, hrest⟩ := h.exists_rest
  have hsplit : distances.Perm (found.map (fun p => (p - place).norm) ++
      (rest ++ others).map fun p => (p - place).norm) := by
    rw [← List.map_append, ← List.append_assoc]
    exact hperm.trans ((hfound.symm.append_right others).map _)
  have htake := take_eq_of_perm hsplit hsorted (List.pairwise_map.mpr h.pairwise) ?_
  · rw [List.length_map, hlength] at htake
    exact htake.symm
  · intro a ha b hb
    obtain ⟨p, hp, rfl⟩ := List.mem_map.mp ha
    obtain ⟨p', hp', rfl⟩ := List.mem_map.mp hb
    rcases List.mem_append.mp hp' with hp' | hp'
    · exact hrest p hp p' hp'
    · exact hothers p hp p' hp'

end Nearest

/-! ### Keys and distances -/

namespace VoxelKey

variable {size a b : ℝ} {radius : Nat}

/-- Values no farther apart than `radius` cells have cells no farther apart. -/
theorem abs_floor_sub_le (hsize : 0 < size) (h : |a - b| ≤ radius * size) :
    |⌊a / size⌋ - ⌊b / size⌋| ≤ radius := by
  have hdiv : |a / size - b / size| ≤ radius := by
    rw [← sub_div, abs_div, abs_of_pos hsize]
    exact (div_le_iff₀ hsize).mpr h
  obtain ⟨hl, hu⟩ := abs_le.mp hdiv
  have hab : ⌊a / size⌋ ≤ ⌊b / size⌋ + radius := by
    rw [← Int.floor_add_natCast]
    exact Int.floor_le_floor (by linarith)
  have hba : ⌊b / size⌋ ≤ ⌊a / size⌋ + radius := by
    rw [← Int.floor_add_natCast]
    exact Int.floor_le_floor (by linarith)
  exact abs_le.mpr ⟨by omega, by omega⟩

/-- Values whose cells are no farther apart than `radius` are less than one cell farther apart. -/
theorem abs_sub_lt (hsize : 0 < size) (h : |⌊a / size⌋ - ⌊b / size⌋| ≤ (radius : Int)) :
    |a - b| < (radius + 1) * size := by
  have hcells : |(⌊a / size⌋ : ℝ) - ⌊b / size⌋| ≤ radius := by exact_mod_cast h
  obtain ⟨hl, hu⟩ := abs_le.mp hcells
  have hdiv : |a / size - b / size| < radius + 1 := by
    refine abs_lt.mpr ⟨?_, ?_⟩
    · linarith [Int.floor_le (a / size), Int.lt_floor_add_one (a / size),
        Int.floor_le (b / size), Int.lt_floor_add_one (b / size)]
    · linarith [Int.floor_le (a / size), Int.lt_floor_add_one (a / size),
        Int.floor_le (b / size), Int.lt_floor_add_one (b / size)]
  rw [← sub_div, abs_div, abs_of_pos hsize, div_lt_iff₀ hsize] at hdiv
  exact hdiv

/-- A near point lies in a near voxel. -/
theorem isAround_of_norm_le {p place : Vec3 ℝ} (hsize : 0 < size)
    (h : (p - place).norm ≤ radius * size) :
    (ofPoint size place).IsAround radius (ofPoint size p) :=
  ⟨abs_floor_sub_le hsize ((Vec3.abs_x_le_norm (p - place)).trans h),
    abs_floor_sub_le hsize ((Vec3.abs_y_le_norm (p - place)).trans h),
    abs_floor_sub_le hsize ((Vec3.abs_z_le_norm (p - place)).trans h)⟩

/-- A point in a near voxel is near along each axis. -/
theorem abs_sub_lt_of_isAround {p place : Vec3 ℝ} (hsize : 0 < size)
    (h : (ofPoint size place).IsAround radius (ofPoint size p)) :
    |p.x - place.x| < (radius + 1) * size ∧ |p.y - place.y| < (radius + 1) * size ∧
      |p.z - place.z| < (radius + 1) * size :=
  ⟨abs_sub_lt hsize h.1, abs_sub_lt hsize h.2.1, abs_sub_lt hsize h.2.2⟩

end VoxelKey

/-! ### Searching a map -/

namespace VoxelMap

/-- Lists joined for some keys only. -/
theorem flatMap_filter {κ β : Type} (keep : κ → Prop) [DecidablePred keep] (keys : List κ)
    (f : κ → List β) :
    (keys.filter (keep ·)).flatMap f = keys.flatMap fun key => if keep key then f key else [] := by
  induction keys with
  | nil => rfl
  | cons key keys ih => by_cases hkey : keep key <;> simp [hkey, ih]

section Candidates

variable {α : Type} [Scalar α] {m : VoxelMap α} {g : VoxelGroups α} {place : Vec3 α}
  {radius limit : Nat}

/-- The candidates, voxel by voxel. -/
theorem candidates_eq (m : VoxelMap α) (place : Vec3 α) (radius : Nat) :
    m.candidates place radius = ((m.keyOf place).block radius).flatMap fun key =>
      match m.voxel? key with
      | none => []
      | some points => points.map fun p => ⟨(p - place).normSq, p⟩ := rfl

/-- What is found, among the candidates. -/
theorem neighbors_eq (m : VoxelMap α) (place : Vec3 α) (radius limit : Nat) :
    m.neighbors place radius limit =
      ((Candidate.order (m.candidates place radius)).take limit).map Candidate.point := rfl

/-- The candidates are points with their squared distances. -/
theorem distanceSq_of_mem_candidates {c : Candidate α} (hc : c ∈ m.candidates place radius) :
    c.distanceSq = (c.point - place).normSq := by
  obtain ⟨key, -, hc⟩ := List.mem_flatMap.mp hc
  split at hc
  · exact absurd hc List.not_mem_nil
  · obtain ⟨p, -, rfl⟩ := List.mem_map.mp hc
    rfl

/-- The points of the candidates are those of the cube, voxel by voxel. -/
theorem Represents.map_point_candidates (h : m.Represents g) :
    (m.candidates place radius).map Candidate.point =
      ((m.keyOf place).block radius).flatMap g.group := by
  rw [candidates_eq, List.map_flatMap]
  refine List.flatMap_congr fun key _ => ?_
  rw [h.group_eq]
  cases m.voxel? key with
  | none => rfl
  | some points => simp [Function.comp_def]

/-- The candidates are the stored points whose keys are visited, if none is visited twice. -/
theorem Represents.candidates_perm_of_nodup (h : m.Represents g)
    (ht : g.Tidy m.voxelSize m.capacity) (hnodup : ((m.keyOf place).block radius).Nodup) :
    ((m.candidates place radius).map Candidate.point).Perm
      (m.points.filter fun p => m.keyOf p ∈ (m.keyOf place).block radius) := by
  set block := (m.keyOf place).block radius with hblock
  -- the voxels of the cube that hold points, as the search and as the map list them
  have hkeys : (block.filter (· ∈ g.domain)).Perm (g.domain.toList.filter (· ∈ block)) := by
    refine (List.perm_ext_iff_of_nodup (hnodup.filter _)
      (g.domain.nodup_toList.filter _)).mpr fun key => ?_
    simp only [List.mem_filter, Finset.mem_toList, decide_eq_true_eq]
    exact and_comm
  have hdomain : block.flatMap g.group = (block.filter (· ∈ g.domain)).flatMap g.group := by
    rw [flatMap_filter]
    refine List.flatMap_congr fun key _ => ?_
    split
    · rfl
    · next hkey => exact VoxelGroups.group_eq_nil hkey
  -- all points of a group have one key, so it is visited whole or not at all
  have hvisited : (g.domain.toList.filter (· ∈ block)).flatMap g.group =
      (g.domain.toList.flatMap g.group).filter fun p => m.keyOf p ∈ block := by
    rw [flatMap_filter, List.filter_flatMap]
    refine List.flatMap_congr fun key _ => ?_
    have hkey : ∀ p ∈ g.group key, m.keyOf p = key := ht.ofPoint_eq key
    split
    · next hmem =>
        exact (List.filter_eq_self.mpr fun p hp => decide_eq_true ((hkey p hp).symm ▸ hmem)).symm
    · next hmem =>
        refine (List.filter_eq_nil_iff.mpr fun p hp hp' => hmem ?_).symm
        exact hkey p hp ▸ of_decide_eq_true hp'
  rw [h.map_point_candidates, ← hblock, hdomain]
  refine (hkeys.flatMap_right g.group).trans ?_
  rw [hvisited]
  exact (h.shows.points_perm.filter _).symm

/-- **The candidates are the stored points whose keys are near.** -/
theorem Represents.candidates_perm (h : m.Represents g) (ht : g.Tidy m.voxelSize m.capacity)
    (hroom : (m.keyOf place).HasRoom radius) :
    ((m.candidates place radius).map Candidate.point).Perm
      (m.points.filter fun p => (m.keyOf place).IsAround radius (m.keyOf p)) := by
  have hperm := h.candidates_perm_of_nodup ht
    (VoxelKey.nodup_block (m.keyOf place) hroom.x.wrap_radius)
  simpa only [VoxelKey.mem_block hroom] using hperm

end Candidates

variable {m : VoxelMap ℝ} {g : VoxelGroups ℝ} {place : Vec3 ℝ} {radius : Nat}

/-- **A search finds the nearest points of its cube.** -/
theorem Represents.nearest_neighbors (h : m.Represents g) (ht : g.Tidy m.voxelSize m.capacity)
    (hroom : (m.keyOf place).HasRoom radius) (limit : Nat) :
    Nearest place limit (m.points.filter fun p => (m.keyOf place).IsAround radius (m.keyOf p))
      (m.neighbors place radius limit) := by
  set ordered := Candidate.order (m.candidates place radius) with hordered
  have hperm : ordered.Perm (m.candidates place radius) := Candidate.order_perm _
  have hstored := (hperm.map Candidate.point).trans (h.candidates_perm ht hroom)
  have hsorted : ordered.Pairwise fun c c' =>
      (c.point - place).norm ≤ (c'.point - place).norm := by
    refine (Candidate.pairwise_order Candidate.distanceSq fun _ _ _ _ => .rfl).imp_of_mem
      fun {c c'} hc hc' hle => ?_
    rw [distanceSq_of_mem_candidates (hperm.mem_iff.mp hc),
      distanceSq_of_mem_candidates (hperm.mem_iff.mp hc')] at hle
    exact (Vec3.norm_le_norm_iff _ _).mpr hle
  -- the limit cuts the ordered candidates into what is found and the rest
  rw [← List.take_append_drop limit ordered] at hsorted hstored
  obtain ⟨hfound, -, hrest⟩ := List.pairwise_append.mp hsorted
  rw [List.map_append] at hstored
  refine ⟨?_, List.pairwise_map.mpr hfound, _, hstored, fun p hp p' hp' => ?_⟩
  · rw [← hstored.length_eq, ← List.map_append, List.take_append_drop, List.length_map,
      neighbors_eq, List.length_map, List.length_take]
  · obtain ⟨c, hc, rfl⟩ := List.mem_map.mp hp
    obtain ⟨c', hc', rfl⟩ := List.mem_map.mp hp'
    exact hrest c hc c' hc'

/-- **A search is as good as brute force**, up to the distance that its cube covers. In every map
that can be reached it finds the nearest points of the cube, none of them farther along an axis
than the cube reaches. All stored points up to `radius` voxel sizes away lie in the cube, so that
none of them is missing, unless as many as wanted are found that are no farther. If as many as
wanted are found within that distance, their distances are the least of all. -/
theorem neighbors_eq_brute_force {voxelSize : ℝ} {capacity : Nat} {calls : List (MapCall ℝ)}
    {answers : List Nat} (hsize : 0 < voxelSize)
    (hrun : Run (empty voxelSize capacity) calls answers m)
    (hroom : (m.keyOf place).HasRoom radius) (limit : Nat) :
    let found := m.neighbors place radius limit
    let inCube := fun p => (m.keyOf place).IsAround radius (m.keyOf p)
    let distance := fun p => (p - place).norm
    Nearest place limit (m.points.filter (inCube ·)) found ∧
      (∀ p ∈ found, |p.x - place.x| < (radius + 1) * voxelSize ∧
        |p.y - place.y| < (radius + 1) * voxelSize ∧
        |p.z - place.z| < (radius + 1) * voxelSize) ∧
      (∀ p ∈ m.points, distance p ≤ radius * voxelSize → inCube p) ∧
      (found.length < limit → found.Perm (m.points.filter (inCube ·))) ∧
      (∀ p ∈ m.points, distance p ≤ radius * voxelSize → p ∉ found →
        found.length = limit ∧ ∀ last ∈ found.getLast?, distance last ≤ distance p) ∧
      (found.length = limit → (∀ last ∈ found.getLast?, distance last ≤ radius * voxelSize) →
        ∀ distances : List ℝ, distances.Perm (m.points.map distance) →
          distances.Pairwise (· ≤ ·) → found.map distance = distances.take limit) := by
  intro found inCube distance
  obtain ⟨g, h, ht, -, rfl, rfl⟩ := hrun.exists_tidy
  have hnearest : Nearest place limit (m.points.filter (inCube ·)) found :=
    h.nearest_neighbors ht hroom limit
  have hcovers : ∀ p, distance p ≤ radius * m.voxelSize → inCube p := fun p hp =>
    VoxelKey.isAround_of_norm_le hsize hp
  have hmem : ∀ {p}, p ∈ m.points → inCube p → p ∈ m.points.filter (inCube ·) := fun hp hin =>
    List.mem_filter.mpr ⟨hp, decide_eq_true hin⟩
  refine ⟨hnearest, fun p hp => ?_, fun p _ => hcovers p, hnearest.perm_of_lt,
    fun p hp hnear hnot => hnearest.of_not_mem (hmem hp (hcovers p hnear)) hnot,
    fun hlength hlast distances hperm hsorted => ?_⟩
  · have hin : inCube p := of_decide_eq_true (List.mem_filter.mp (hnearest.mem_of_mem hp)).2
    exact VoxelKey.abs_sub_lt_of_isAround hsize hin
  -- what lies outside the cube is farther than the last point that is found
  · have hothers : ∀ p ∈ found, ∀ p' ∈ m.points.filter (!inCube ·),
        distance p ≤ distance p' := by
      intro p hp p' hp'
      have hout : ¬ inCube p' := by simpa using (List.mem_filter.mp hp').2
      have hfar : radius * m.voxelSize < distance p' := not_le.mp fun hle => hout (hcovers p' hle)
      have hne : found ≠ [] := List.ne_nil_of_mem hp
      have hlast' : found.getLast hne ∈ found.getLast? := List.getLast?_eq_some_getLast hne
      calc distance p ≤ distance (found.getLast hne) := hnearest.le_last hlast' hp
        _ ≤ radius * m.voxelSize := hlast _ hlast'
        _ ≤ distance p' := hfar.le
    refine hnearest.map_norm_eq_take hlength hothers ?_ hsorted
    exact hperm.trans ((List.filter_append_perm _ m.points).symm.map _)

/-- Two points on the other side of zero, in the voxel next to that of the place. -/
theorem neighbors_eq_brute_force_across_zero : ∃ answers, ∃ m : VoxelMap ℝ,
    Run (empty 1 20) [.insert [⟨-1 / 2, 0, 0⟩, ⟨-1 / 4, 0, 0⟩] ⟨20, 0⟩] answers m ∧
      (m.neighbors ⟨1 / 4, 0, 0⟩ 1 5).Perm [⟨-1 / 2, 0, 0⟩, ⟨-1 / 4, 0, 0⟩] := by
  set p : Vec3 ℝ := ⟨-1 / 2, 0, 0⟩
  set q : Vec3 ℝ := ⟨-1 / 4, 0, 0⟩
  set place : Vec3 ℝ := ⟨1 / 4, 0, 0⟩
  have hkey : VoxelKey.ofPoint 1 p = ⟨-1, 0, 0⟩ := by
    norm_num [p, VoxelKey.ofPoint, Scalar.floor_real]
  have hkey' : VoxelKey.ofPoint 1 q = ⟨-1, 0, 0⟩ := by
    norm_num [q, VoxelKey.ofPoint, Scalar.floor_real]
  have hplace : VoxelKey.ofPoint 1 place = ⟨0, 0, 0⟩ := by
    norm_num [place, VoxelKey.ofPoint, Scalar.floor_real]
  obtain ⟨answers, m, hrun⟩ : ∃ answers m,
      Run (empty (1 : ℝ) 20) [.insert [p, q] ⟨20, 0⟩] answers m :=
    ⟨_, _, (represents_empty 1 20).run_perform (VoxelArena.tracked_empty 20) _⟩
  obtain ⟨-, -, -, -, hsize, -⟩ := hrun.exists_tidy
  have hpoints : m.points.Perm [p, q] := by
    have hshows := ((represents_empty (1 : ℝ) 20).run hrun).2.1.shows
    refine hshows.points_perm.trans ?_
    change ((VoxelGroups.empty.insert 1 ⟨20, 0⟩ [p, q]).domain.toList.flatMap
      (VoxelGroups.empty.insert 1 ⟨20, 0⟩ [p, q]).group).Perm [p, q]
    simp [VoxelGroups.insert, VoxelGroups.empty, hkey, hkey', Density.extend, Density.Accepts,
      Vec3.normSq_nonneg]
  have hroom : (m.keyOf place).HasRoom 1 := by
    rw [keyOf, hsize, hplace]
    exact ⟨by decide, by decide, by decide⟩
  obtain ⟨hnearest, -, -, hall, -⟩ := neighbors_eq_brute_force one_pos hrun hroom 5
  have hfilter : m.points.filter (fun p => (m.keyOf place).IsAround 1 (m.keyOf p)) = m.points := by
    refine List.filter_eq_self.mpr fun p' hp' => decide_eq_true ?_
    rw [keyOf, keyOf, hsize, hplace]
    rcases List.mem_pair.mp (hpoints.mem_iff.mp hp') with rfl | rfl
    · rw [hkey]
      decide
    · rw [hkey']
      decide
  rw [hfilter] at hall hnearest
  refine ⟨answers, m, hrun, (hall ?_).trans hpoints⟩
  rw [hnearest.length_eq, hpoints.length_eq]
  decide

end VoxelMap

end LidarOdometry
