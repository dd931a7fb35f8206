import LidarOdometry.Voxel.Key
import Std.Data.HashMap

/-!
# The Arena of Voxels

The points of all voxels lie in one flat array. A stored voxel has a slot; the voxel in slot
`i` owns the block of `capacity` places that begins at `i * capacity`, and its header records
its key and how many of these places are filled. Closing a voxel frees its slot but leaves its
block as it is: the next voxel that is given the slot overwrites it.

Which vacant slot a new voxel gets is free. `VoxelArena.freshSlot` takes the one closed last
and a new one if there is none, but no operation depends on that choice.

## Main definitions

* `VoxelArena`: headers, vacant slots and the array of places.
* `VoxelArena.openAt`, `VoxelArena.append`, `VoxelArena.close`: a voxel with its first point, one
  point more, and the end of a voxel.
* `VoxelArena.contents`: the points of a voxel, in order of insertion.
-/

namespace LidarOdometry

/-- The key of a stored voxel and the number of its points. -/
structure VoxelHeader where
  key : VoxelKey
  count : Nat
deriving DecidableEq, Repr

/-- **An arena of voxels** of at most `capacity` points. -/
structure VoxelArena (α : Type) where
  /-- The places that each voxel owns. -/
  capacity : Nat
  /-- The headers of the stored voxels, by slot. -/
  headers : Std.HashMap Nat VoxelHeader
  /-- Slots that were closed, the last one first. -/
  vacant : List Nat
  /-- The number of slots that were ever opened. -/
  opened : Nat
  /-- The places of all slots. -/
  places : Array (Vec3 α)

namespace VoxelArena

variable {α : Type}

/-- The arena without voxels. -/
def empty (capacity : Nat) : VoxelArena α :=
  ⟨capacity, ∅, [], 0, #[]⟩

/-- The slot that the next voxel is given. -/
def freshSlot (s : VoxelArena α) : Nat :=
  match s.vacant with
  | slot :: _ => slot
  | [] => s.opened

/-- The array of places, extended by copies of `filler` up to `size` places. -/
def extend (places : Array (Vec3 α)) (size : Nat) (filler : Vec3 α) : Array (Vec3 α) :=
  places ++ Array.replicate (size - places.size) filler

/-- **A voxel with its first point**, in a vacant slot. -/
def openAt (s : VoxelArena α) (slot : Nat) (key : VoxelKey) (first : Vec3 α) :
    VoxelArena α :=
  let begins := slot * s.capacity
  let places := extend s.places (begins + s.capacity) first
  { s with
    headers := s.headers.insert slot ⟨key, 1⟩
    vacant := s.vacant.erase slot
    opened := max s.opened (slot + 1)
    places := places.setIfInBounds begins first }

/-- The points of the voxel in a slot, in order of insertion. -/
def contents (s : VoxelArena α) (slot : Nat) : List (Vec3 α) :=
  match s.headers[slot]? with
  | none => []
  | some header =>
      let begins := slot * s.capacity
      (s.places.extract begins (begins + header.count)).toList

/-- One point more in the voxel in a slot. -/
def append (s : VoxelArena α) (slot : Nat) (p : Vec3 α) : VoxelArena α :=
  match s.headers[slot]? with
  | none => s
  | some header =>
      { s with
        headers := s.headers.insert slot { header with count := header.count + 1 }
        places := s.places.setIfInBounds (slot * s.capacity + header.count) p }

/-- The slot is given back; its block stays as it is. -/
def close (s : VoxelArena α) (slot : Nat) : VoxelArena α :=
  { s with headers := s.headers.erase slot, vacant := slot :: s.vacant }

/-- The number of points of the voxel in a slot. -/
def count (s : VoxelArena α) (slot : Nat) : Nat :=
  match s.headers[slot]? with
  | none => 0
  | some header => header.count

/-- The number of stored voxels. -/
def size (s : VoxelArena α) : Nat :=
  s.headers.size

end VoxelArena

end LidarOdometry
