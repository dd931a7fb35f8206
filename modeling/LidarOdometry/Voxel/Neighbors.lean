import LidarOdometry.Voxel.Map

/-!
# Nearest Neighbours

The neighbours of a place are looked up in a cube of voxels around it, ordered by distance and
cut to the wanted number.

Ordering is stable: points at the same distance keep the order in which the voxels were
visited. A distance that is not a number is neither smaller nor larger than any other, which
makes the result depend on how the ordering is done; short lists are ordered by insertion, and
an element moves forward only past those that are strictly farther.

## Main definitions

* `Candidate`: a stored point with its squared distance.
* `Candidate.order`: candidates by distance.
* `VoxelMap.neighborsBy`: the nearest stored points around a place, with any kind of sum.
* `VoxelMap.neighbors`: the nearest stored points, with sums that go round.
-/

namespace LidarOdometry

/-- A stored point and its squared distance from the place in question. -/
structure Candidate (α : Type) where
  distanceSq : α
  point : Vec3 α
deriving DecidableEq, Repr

namespace Candidate

variable {α : Type} [Scalar α]

/-- Puts a candidate into a list kept farthest first, in front of the first candidate that is
not strictly farther. -/
def insertFarthestFirst (c : Candidate α) : List (Candidate α) → List (Candidate α)
  | [] => [c]
  | d :: ds => if c.distanceSq < d.distanceSq then d :: insertFarthestFirst c ds else c :: d :: ds

/-- Candidates by distance: each in turn moves forward past those strictly farther. -/
def orderByInsertion (cs : List (Candidate α)) : List (Candidate α) :=
  (cs.foldl (fun ordered c => insertFarthestFirst c ordered) []).reverse

/-- **Candidates by distance**, those at equal distance in their given order. Lists of more than
twenty are merged from ordered halves. -/
def order (cs : List (Candidate α)) : List (Candidate α) :=
  if cs.length ≤ 20 then orderByInsertion cs
  else cs.mergeSort fun a b => !decide (b.distanceSq < a.distanceSq)

end Candidate

namespace VoxelMap

variable {M : Type → Type} [Monad M] {α : Type} [Scalar α]

/-- The points stored in the cube of voxels around a place, in the order of the search. -/
def candidatesBy (m : VoxelMap α) (word : Int → M Int) (place : Vec3 α) (radius : Nat) :
    M (List (Candidate α)) := do
  let keys ← (m.keyOf place).blockBy word radius
  return keys.flatMap fun key =>
    match m.voxel? key with
    | none => []
    | some points => points.map fun p => ⟨(p - place).normSq, p⟩

/-- **The nearest stored points** around a place, closest first: at most `limit` of those in the
cube of voxels of the given radius. `word` says what becomes of a sum of coordinates. -/
def neighborsBy (m : VoxelMap α) (word : Int → M Int) (place : Vec3 α) (radius limit : Nat) :
    M (List (Vec3 α)) := do
  let found ← m.candidatesBy word place radius
  return ((Candidate.order found).take limit).map Candidate.point

/-- The points stored in the cube of voxels, with sums that go round. -/
def candidates (m : VoxelMap α) (place : Vec3 α) (radius : Nat) : List (Candidate α) :=
  m.candidatesBy Word.wrapping place radius

/-- **The nearest stored points**, with sums that go round. -/
def neighbors (m : VoxelMap α) (place : Vec3 α) (radius limit : Nat) : List (Vec3 α) :=
  m.neighborsBy Word.wrapping place radius limit

end VoxelMap

end LidarOdometry
