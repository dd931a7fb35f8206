import LidarOdometry.Proofs.Numeric.Exact
import LidarOdometry.Proofs.Scan.Sampler

/-!
# Nested Grids

A scan is sampled twice: it is thinned on a fine grid, and keypoints are drawn from what is left on
a coarse one. If every fine voxel lies within one coarse voxel, the first stage makes no difference
to the second. The first point of a coarse voxel is the first one of its fine voxel, too, so it is
still there; and no other point has taken its place, since thinning changes no order.

Grids nest if the coarse voxels are a whole number of times as large as the fine ones. A coarse
cell is then found from a fine one by division, on both sides of the origin alike, since both
round down.

## Main definitions

* `VoxelKey.Nests`: fine voxels lie within coarse ones.

## Main results

* `VoxelKey.nests_mul`: voxels nest in voxels that are a multiple as large.
* `ScanPoint.firsts_filter`: whole voxels may be left out before or after the first points are
  found.
* `ScanPoint.firsts_firsts`: on nested grids two stages are one.
-/

namespace LidarOdometry

/-! ### Nested voxels -/

namespace VoxelKey

/-- **A fine grid nests in a coarse one** if points that share a fine voxel share a coarse one. -/
def Nests {α : Type} [Scalar α] (fine coarse : α) : Prop :=
  ∀ p q : Vec3 α, ofPoint fine p = ofPoint fine q → ofPoint coarse p = ofPoint coarse q

/-- A grid nests in itself. -/
theorem Nests.refl {α : Type} [Scalar α] (size : α) : Nests size size :=
  fun _ _ h => h

/-- The cell of a value on a coarse grid is found from the one on the fine grid. -/
theorem floor_div_mul (x size : ℝ) (m : ℕ) : ⌊x / (m * size)⌋ = ⌊x / size⌋ / m := by
  rw [mul_comm, ← div_div, Int.floor_div_natCast]

/-- **Voxels nest** in voxels that are a whole number of times as large. -/
theorem nests_mul (size : ℝ) (m : ℕ) : Nests size (m * size) := by
  intro p q h
  simp only [ofPoint, VoxelKey.mk.injEq, Scalar.floor_real] at h
  obtain ⟨hx, hy, hz⟩ := h
  simp only [ofPoint, Scalar.floor_real, floor_div_mul, hx, hy, hz]

end VoxelKey

/-! ### Two stages -/

/-- A filter makes an earlier one superfluous if it keeps nothing that the earlier one drops. -/
theorem filter_filter_of_imp {β : Type} {keep earlier : β → Bool}
    (himp : ∀ b, keep b = true → earlier b = true) (l : List β) :
    (l.filter earlier).filter keep = l.filter keep := by
  rw [List.filter_filter]
  refine List.filter_congr fun b _ => ?_
  cases hkeep : keep b with
  | true => rw [himp b hkeep, Bool.and_true]
  | false => rw [Bool.false_and]

namespace ScanPoint

variable {α : Type} [Scalar α] {size fine coarse : α}

/-- **Whole voxels may be left out** before or after the first points are found. -/
theorem firsts_filter {keep : ScanPoint α → Bool}
    (hkeep : ∀ p q : ScanPoint α, p.voxel size = q.voxel size → keep p = keep q)
    (points : List (ScanPoint α)) :
    firsts size (points.filter keep) = (firsts size points).filter keep := by
  induction points with
  | nil => rfl
  | cons p ps ih =>
      rw [firsts_cons]
      cases hp : keep p with
      | true =>
          rw [List.filter_cons_of_pos hp, List.filter_cons_of_pos hp, firsts_cons, ih,
            List.filter_comm]
      | false =>
          -- what shares the voxel of `p` is left out with it, so `p` hides nothing that is kept
          have hhides : ∀ q, keep q = true → decide (p.voxel size ≠ q.voxel size) = true := by
            intro q hq
            refine decide_eq_true fun hsame => ?_
            rw [hkeep p q hsame, hq] at hp
            cases hp
          rw [List.filter_cons_of_neg (ne_true_of_eq_false hp),
            List.filter_cons_of_neg (ne_true_of_eq_false hp), ih,
            filter_filter_of_imp hhides]

/-- **On nested grids two stages are one.** The induction is on the scan. Of the points after its
first one the first stage leaves out those in the same fine voxel; the second stage leaves out
all those in the same coarse voxel, and the others are among them. -/
theorem firsts_firsts (hnests : VoxelKey.Nests fine coarse) (points : List (ScanPoint α)) :
    firsts coarse (firsts fine points) = firsts coarse points := by
  induction points with
  | nil => rfl
  | cons p ps ih =>
      have hwhole : ∀ q r : ScanPoint α, q.voxel coarse = r.voxel coarse →
          decide (p.voxel coarse ≠ q.voxel coarse) = decide (p.voxel coarse ≠ r.voxel coarse) :=
        fun q r h => by rw [h]
      have hapart : ∀ q : ScanPoint α, decide (p.voxel coarse ≠ q.voxel coarse) = true →
          decide (p.voxel fine ≠ q.voxel fine) = true := fun q hq =>
        decide_eq_true fun hsame => of_decide_eq_true hq (hnests _ _ hsame)
      rw [firsts_cons, firsts_cons, firsts_cons, ← firsts_filter hwhole,
        filter_filter_of_imp hapart, firsts_filter hwhole, ih]

end ScanPoint

end LidarOdometry
