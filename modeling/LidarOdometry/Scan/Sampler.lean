import LidarOdometry.Scan.Point
import LidarOdometry.Voxel.Key
import Std.Data.HashSet

/-!
# Thinning a Scan

A scan is thinned by keeping the first return in every voxel of the sensor frame. The set of
visited voxels is kept between calls, so that its memory is used again; it is emptied before
each call, so that what is kept depends on the points of that call alone.

## Main definitions

* `VoxelGrid`: the voxels visited so far.
* `Sampler.sample`: the first return of every voxel, in order of arrival.
-/

namespace LidarOdometry

/-- The voxels visited so far. -/
abbrev VoxelGrid := Std.HashSet VoxelKey

/-- The grid with every voxel forgotten. -/
def VoxelGrid.clear (_ : VoxelGrid) : VoxelGrid :=
  ∅

/-- The points that are the first of their voxel outside `grid`, with the grid they leave. -/
def VoxelGrid.firsts {α : Type} [Scalar α] (size : α) :
    VoxelGrid → List (ScanPoint α) → List (ScanPoint α) × VoxelGrid
  | grid, [] => ([], grid)
  | grid, p :: ps =>
      let (isKnown, grid) := grid.containsThenInsert (VoxelKey.ofPoint size p.raw)
      let (kept, grid) := VoxelGrid.firsts size grid ps
      (if isKnown then kept else p :: kept, grid)

/-- **A sampler of scans**, with the grid left by its last call. -/
structure Sampler where
  grid : VoxelGrid

namespace Sampler

/-- A sampler that has not been used. -/
def fresh : Sampler :=
  ⟨∅⟩

/-- **The first return of every voxel**, in order of arrival, with the sampler afterwards. -/
def sample {α : Type} [Scalar α] (s : Sampler) (size : α) (points : List (ScanPoint α)) :
    List (ScanPoint α) × Sampler :=
  let (kept, grid) := VoxelGrid.firsts size s.grid.clear points
  (kept, ⟨grid⟩)

end Sampler

end LidarOdometry
