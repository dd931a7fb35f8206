import LidarOdometry.Voxel.Arena

/-!
# The Voxel Map

The local map that scans are registered against: a sparse set of voxels, each with at most a
fixed number of points in order of insertion. A full voxel refuses further points instead of
replacing old ones, and a voxel refuses points that lie too close to one that it holds.

Voxels are found by an index from keys to slots of the arena.

## Main definitions

* `VoxelMap`: index, arena and voxel size.
* `VoxelMap.insert`: points added under the density limits of the call.
* `VoxelMap.prune`: voxels dropped whose first point is too far from a place.
* `VoxelMap.voxel?`, `VoxelMap.isFull`, `VoxelMap.size`, `VoxelMap.voxelCount`, `VoxelMap.keys`,
  `VoxelMap.points`: what the map holds.
-/

namespace LidarOdometry

/-- **Limits on the density of stored points**, as they hold for one insertion. -/
structure Density (α : Type) where
  /-- The most points a voxel may hold; the capacity of the map is a limit as well. -/
  maxPoints : Nat
  /-- The least distance between two points of a voxel. -/
  minDistance : α
deriving DecidableEq, Repr

/-- **A sparse map of points**, grouped by voxel. -/
structure VoxelMap (α : Type) where
  index : Std.HashMap VoxelKey Nat
  arena : VoxelArena α
  voxelSize : α

namespace VoxelMap

variable {α : Type}

/-- A map without points. -/
def empty (voxelSize : α) (capacity : Nat) : VoxelMap α :=
  ⟨∅, .empty capacity, voxelSize⟩

/-- The most points that a voxel of the map can hold. -/
def capacity (m : VoxelMap α) : Nat :=
  m.arena.capacity

/-! ### What the map holds -/

/-- The points of the voxel with the given key, in order of insertion. -/
def voxel? (m : VoxelMap α) (key : VoxelKey) : Option (List (Vec3 α)) :=
  m.index[key]?.map m.arena.contents

/-- Whether the voxel with the given key holds as many points as it can. -/
def isFull (m : VoxelMap α) (key : VoxelKey) : Bool :=
  match m.index[key]? with
  | none => false
  | some slot => decide (m.capacity ≤ m.arena.count slot)

/-- The number of points. -/
def size (m : VoxelMap α) : Nat :=
  m.arena.headers.toList.foldr (fun entry n => entry.2.count + n) 0

/-- The number of voxels. -/
def voxelCount (m : VoxelMap α) : Nat :=
  m.arena.size

/-- The keys of the voxels, in no particular order. -/
def keys (m : VoxelMap α) : List VoxelKey :=
  m.arena.headers.toList.map fun entry => entry.2.key

/-- All points, voxel by voxel, the voxels in no particular order. -/
def points (m : VoxelMap α) : List (Vec3 α) :=
  m.arena.headers.toList.flatMap fun entry => m.arena.contents entry.1

variable [Scalar α]

/-- The key of the voxel that a point falls into. -/
def keyOf (m : VoxelMap α) (p : Vec3 α) : VoxelKey :=
  VoxelKey.ofPoint m.voxelSize p

/-! ### Insertion -/

/-- Whether a voxel with the given points takes one more: it has room, and no stored point lies
closer than the least distance. -/
def admits (density : Density α) (stored : List (Vec3 α)) (p : Vec3 α) : Bool :=
  decide (stored.length < density.maxPoints) &&
    !stored.any fun q => decide ((q - p).normSq < density.minDistance * density.minDistance)

/-- One point offered to the map, a new voxel going to the given slot. The answer tells whether
the point was stored; the first point of a voxel always is. -/
def offerAt (slot : Nat) (density : Density α) (m : VoxelMap α) (p : Vec3 α) :
    Bool × VoxelMap α :=
  let key := m.keyOf p
  match m.index[key]? with
  | some known =>
      if admits density (m.arena.contents known) p then
        (true, { m with arena := m.arena.append known p })
      else (false, m)
  | none =>
      (true, { m with
        index := m.index.insert key slot
        arena := m.arena.openAt slot key p })

/-- One point offered to the map. -/
def offer (density : Density α) (m : VoxelMap α) (p : Vec3 α) : Bool × VoxelMap α :=
  offerAt m.arena.freshSlot density m p

/-- Points offered to the map in order, under limits that the map's capacity allows; with them
the number of points stored. -/
def offerAll (density : Density α) : VoxelMap α → List (Vec3 α) → Nat × VoxelMap α
  | m, [] => (0, m)
  | m, p :: ps =>
      let (isStored, m) := m.offer density p
      let (stored, m) := offerAll density m ps
      (if isStored then stored + 1 else stored, m)

/-- **Insertion.** Every point is offered in turn; the number of points stored is returned. If
the limits leave no room at all, nothing is stored. -/
def insert (m : VoxelMap α) (points : List (Vec3 α)) (density : Density α) :
    Nat × VoxelMap α :=
  let density := { density with maxPoints := min density.maxPoints m.capacity }
  if density.maxPoints = 0 then (0, m) else m.offerAll density points

/-! ### Pruning -/

/-- Whether the voxel in a slot is represented, by its first point, within the given squared
distance of a place. -/
def isNear (m : VoxelMap α) (place : Vec3 α) (distanceSq : α) (slot : Nat) : Bool :=
  match m.arena.contents slot with
  | [] => false
  | first :: _ => decide ((first - place).normSq ≤ distanceSq)

/-- Removes those of the listed voxels that are not near, one after the other. -/
def pruneIn (m : VoxelMap α) (entries : List (VoxelKey × Nat)) (place : Vec3 α)
    (distanceSq : α) : VoxelMap α :=
  entries.foldl (fun m (key, slot) =>
    if m.isNear place distanceSq slot then m
    else { m with index := m.index.erase key, arena := m.arena.close slot }) m

/-- **Pruning.** Every voxel whose first point is farther than `maxDistance` from a place is
removed; the number of removed voxels is returned. -/
def prune (m : VoxelMap α) (place : Vec3 α) (maxDistance : α) : Nat × VoxelMap α :=
  let pruned := m.pruneIn m.index.toList place (maxDistance * maxDistance)
  (m.index.size - pruned.index.size, pruned)

end VoxelMap

end LidarOdometry
