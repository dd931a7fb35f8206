import LidarOdometry.Proofs.Registration.Session
import Mathlib.Data.List.Nodup
import Mathlib.Data.List.Pairwise

/-!
# What a Sampler Draws

A sampler goes through a scan once and remembers the voxels that it has visited. What it draws can
be said without that memory: the points in whose voxel no earlier point of the scan lies. The two
agree because a grid does nothing but *hide* the voxels that it has, and a call starts with an
empty one.

Voxels are told apart by their keys. The hash of a key decides where the grid looks, never what it
finds.

## Main definitions

* `ScanPoint.firsts`: the first point of every voxel.

## Main results

* `ScanPoint.firsts_sublist`, `ScanPoint.nodup_map_voxel_firsts`, `ScanPoint.exists_mem_firsts`:
  points of the scan in their order, one for each voxel that the scan visits.
* `VoxelGrid.firsts_eq`: what a grid leaves of the first points.
* `Sampler.thin_eq_firsts`: a sampler draws the first points.
-/

namespace LidarOdometry

variable {α : Type} [Scalar α] {size : α} {points : List (ScanPoint α)}

namespace ScanPoint

/-- The voxel of the sensor frame that a point lies in. -/
def voxel (size : α) (p : ScanPoint α) : VoxelKey :=
  VoxelKey.ofPoint size p.raw

/-- **The first point of every voxel**: the points in whose voxel no earlier one lies. -/
def firsts (size : α) (points : List (ScanPoint α)) : List (ScanPoint α) :=
  (points.zipIdx.filter fun (p, i) =>
    decide (∀ q ∈ points.take i, q.voxel size ≠ p.voxel size)).map Prod.fst

/-- The first point of all, and those of the others' first points that lie in other voxels. -/
theorem firsts_cons (p : ScanPoint α) (ps : List (ScanPoint α)) :
    firsts size (p :: ps) =
      p :: (firsts size ps).filter fun q => decide (p.voxel size ≠ q.voxel size) := by
  have hfirst : decide (∀ q ∈ (p :: ps).take 0, q.voxel size ≠ p.voxel size) = true := by
    simp
  simp only [firsts, List.zipIdx_cons']
  rw [List.filter_cons, if_pos hfirst, List.map_cons, List.filter_map, List.map_map,
    List.filter_map, List.filter_filter]
  refine congrArg (p :: ·) (congrArg _ (List.filter_congr fun entry _ => ?_))
  simp

/-- **The keypoints are some of the points**, in their order. -/
theorem firsts_sublist (size : α) (points : List (ScanPoint α)) :
    (firsts size points).Sublist points := by
  induction points with
  | nil => exact .slnil
  | cons p ps ih =>
      rw [firsts_cons]
      exact (List.filter_sublist.trans ih).cons_cons p

/-- No two of them lie in one voxel. -/
theorem nodup_map_voxel_firsts (size : α) (points : List (ScanPoint α)) :
    ((firsts size points).map (voxel size)).Nodup := by
  induction points with
  | nil => exact List.nodup_nil
  | cons p ps ih =>
      rw [firsts_cons, List.map_cons, List.nodup_cons]
      refine ⟨fun hmem => ?_, ih.sublist (List.filter_sublist.map _)⟩
      obtain ⟨q, hq, heq⟩ := List.mem_map.mp hmem
      exact of_decide_eq_true (List.mem_filter.mp hq).2 heq.symm

/-- Every voxel that is visited has its first point. -/
theorem exists_mem_firsts {p : ScanPoint α} (hp : p ∈ points) :
    ∃ q ∈ firsts size points, q.voxel size = p.voxel size := by
  induction points with
  | nil => exact absurd hp List.not_mem_nil
  | cons first ps ih =>
      rw [firsts_cons]
      by_cases hsame : first.voxel size = p.voxel size
      · exact ⟨first, List.mem_cons_self, hsame⟩
      · have hrest : p ∈ ps := by
          rcases List.mem_cons.mp hp with rfl | hrest
          · exact absurd rfl hsame
          · exact hrest
        obtain ⟨q, hq, heq⟩ := ih hrest
        refine ⟨q, List.mem_cons_of_mem _ (List.mem_filter.mpr ⟨hq, ?_⟩), heq⟩
        rw [heq]
        exact decide_eq_true hsame

/-- There are keypoints as soon as there are points. -/
theorem firsts_eq_nil_iff : firsts size points = [] ↔ points = [] := by
  constructor
  · intro h
    by_contra hpoints
    obtain ⟨p, hp⟩ := List.exists_mem_of_ne_nil points hpoints
    obtain ⟨q, hq, -⟩ : ∃ q ∈ firsts size points, q.voxel size = p.voxel size :=
      exists_mem_firsts hp
    rw [h] at hq
    exact absurd hq List.not_mem_nil
  · rintro rfl
    rfl

end ScanPoint

/-- **A grid hides the voxels that it has.** The induction is on the points: each adds its voxel to
the grid, which then hides those of the later points that lie in it. -/
theorem VoxelGrid.firsts_eq (grid : VoxelGrid) (points : List (ScanPoint α)) :
    (VoxelGrid.firsts size grid points).1 =
      (ScanPoint.firsts size points).filter fun q => decide (q.voxel size ∉ grid) := by
  induction points generalizing grid with
  | nil => rfl
  | cons p ps ih =>
      -- a grid hides after a point what it hid before, and the voxel of the point
      have hhides : (ScanPoint.firsts size ps).filter
          (fun q => decide (q.voxel size ∉ grid.insert (p.voxel size))) =
          ((ScanPoint.firsts size ps).filter fun q => decide (p.voxel size ≠ q.voxel size)).filter
            fun q => decide (q.voxel size ∉ grid) := by
        rw [List.filter_filter]
        refine List.filter_congr fun q _ => ?_
        simp [Bool.and_comm]
      have hrest := (ih (grid.insert (p.voxel size))).trans hhides
      rw [ScanPoint.firsts_cons, List.filter_cons, ← hrest, firsts_cons]
      by_cases hknown : p.voxel size ∈ grid
      · have hcontains : grid.contains (VoxelKey.ofPoint size p.raw) = true := hknown
        rw [if_pos hcontains, if_neg (by simpa using hknown)]
        rfl
      · have hcontains : ¬ grid.contains (VoxelKey.ofPoint size p.raw) = true := hknown
        rw [if_neg hcontains, if_pos (decide_eq_true hknown)]
        rfl

/-- **A sampler draws the first point of every voxel.** -/
theorem Sampler.thin_eq_firsts (size : α) (points : List (ScanPoint α)) :
    Sampler.thin size points = ScanPoint.firsts size points := by
  rw [thin, VoxelGrid.firsts_eq]
  exact List.filter_eq_self.mpr fun q _ => decide_eq_true Std.HashSet.not_mem_empty

/-- What it was used for before does not matter. -/
theorem Sampler.sample_eq_firsts (sampler : Sampler) (size : α) (points : List (ScanPoint α)) :
    (sampler.sample size points).1 = ScanPoint.firsts size points :=
  thin_eq_firsts size points

/-- A sampler leaves keypoints as soon as there are points, whatever its grid holds. -/
theorem Sampler.thin_eq_nil_iff : Sampler.thin size points = [] ↔ points = [] := by
  rw [thin_eq_firsts]
  exact ScanPoint.firsts_eq_nil_iff

/-- Of two points in different voxels both are drawn. -/
theorem Sampler.thin_pair {p q : ScanPoint α} (h : p.voxel size ≠ q.voxel size) :
    Sampler.thin size [p, q] = [p, q] := by
  have hlast : ScanPoint.firsts size [q] = [q] := ScanPoint.firsts_cons q []
  rw [thin_eq_firsts, ScanPoint.firsts_cons, hlast]
  exact congrArg (p :: ·) (List.filter_cons_of_pos (decide_eq_true h))

/-- No more points are drawn than there are. -/
theorem Sampler.length_thin_le (size : α) (points : List (ScanPoint α)) :
    (Sampler.thin size points).length ≤ points.length := by
  rw [thin_eq_firsts]
  exact (ScanPoint.firsts_sublist size points).length_le

end LidarOdometry
