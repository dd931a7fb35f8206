import LidarOdometry.Geometry.Vector

/-!
# Voxel Keys

Space is divided into cubes of one size, the voxels. A voxel is named by the integer
coordinates of its lower corner in units of that size. Coordinates are 64-bit words: a point
too far away falls into the outermost voxel. What lies a step beyond that depends on the sums: with
sums that go round it is the voxel at the other end of the range, with checked sums there is none.

## Main definitions

* `VoxelKey.ofPoint`: the voxel that a point lies in.
* `VoxelKey.spatialHash`: a hash that spreads neighbouring voxels.
* `VoxelKey.offsetBy`, `VoxelKey.blockBy`: the voxels around a voxel, with any kind of sum.
* `VoxelKey.offset`, `VoxelKey.block`: the voxels around a voxel, with sums that go round.
-/

namespace LidarOdometry

/-- **The integer coordinates of a voxel.** -/
@[ext]
structure VoxelKey where
  x : Int
  y : Int
  z : Int
deriving DecidableEq, Repr

namespace VoxelKey

/-- The voxel that a point lies in, for voxels of the given size. -/
def ofPoint {α : Type} [Scalar α] (size : α) (p : Vec3 α) : VoxelKey :=
  ⟨Scalar.floor (p.x / size), Scalar.floor (p.y / size), Scalar.floor (p.z / size)⟩

/-- **The spatial hash**: each coordinate is multiplied by a large prime of its own, modulo
`2 ^ 64`, and the products are combined bit by bit. Different voxels may collide. -/
def spatialHash (k : VoxelKey) : UInt64 :=
  Word.bits k.x * 73856093 ^^^ Word.bits k.y * 19349663 ^^^ Word.bits k.z * 83492791

instance : Hashable VoxelKey := ⟨spatialHash⟩

section Around

variable {M : Type → Type} [Monad M] {β : Type}

/-- The voxel some steps away along each axis. `word` says what becomes of a sum. -/
def offsetBy (k : VoxelKey) (word : Int → M Int) (dx dy dz : Int) : M VoxelKey := do
  return ⟨← word (k.x + dx), ← word (k.y + dy), ← word (k.z + dz)⟩

/-- The results of a computation at `count` integers in a row, from `first` on. -/
def inRow (f : Int → M β) : (count : Nat) → (first : Int) → M (List β)
  | 0, _ => return []
  | count + 1, first => do
      let result ← f first
      return result :: (← inRow f count (first + 1))

/-- The results of a computation at all steps from `-radius` to `radius`. The radius is read as a
signed word, so that beyond the signed range it is negative, and there are no steps. At the end of
that range stands the one radius whose opposite is no word. -/
def alongBy (word : Int → M Int) (radius : Nat) (f : Int → M β) : M (List β) := do
  let last := Word.wrap radius
  let first ← word (-last)
  inRow f (last + 1 - first).toNat first

/-- **The voxels around a voxel**, a cube of side `2 * radius + 1`, the last axis varying
fastest. -/
def blockBy (center : VoxelKey) (word : Int → M Int) (radius : Nat) : M (List VoxelKey) := do
  let layers ← alongBy word radius fun dx => alongBy word radius fun dy =>
    alongBy word radius fun dz => center.offsetBy word dx dy dz
  return layers.flatten.flatten

end Around

/-- The voxel some steps away along each axis, with sums that go round. -/
def offset (k : VoxelKey) (dx dy dz : Int) : VoxelKey :=
  k.offsetBy Word.wrapping dx dy dz

/-- **The voxels around a voxel**, with sums that go round. The first radius beyond the signed range
is its own opposite then, and the only step. -/
def block (center : VoxelKey) (radius : Nat) : List VoxelKey :=
  center.blockBy Word.wrapping radius

end VoxelKey

end LidarOdometry
