import LidarOdometry.Voxel.Map
import Mathlib.Algebra.BigOperators.Group.Finset.Basic
import Mathlib.Algebra.BigOperators.Group.Finset.Piecewise
import Mathlib.Algebra.Order.BigOperators.Group.Finset

/-!
# Points Grouped by Voxel

What a map of points is, without index, slots and blocks: finitely many keys, each with a
non-empty list of points. Insertion treats every voxel apart from the others, extending its
list *greedily*: the points that fall into it come in order, and one is taken if the list has
room for it and no point of the list lies too close. Pruning keeps or drops each voxel by its
first point.

Where the density leaves no room at all nothing is taken, so that the first point of a voxel
needs no rule of its own.

## Main definitions

* `Density.Accepts`, `Density.extend`: the greedy extension of a list.
* `Spaced`: points no two of which lie too close.
* `VoxelGroups`: the keys and their lists.
* `VoxelGroups.insert`, `VoxelGroups.prune`: the operations.
* `VoxelGroups.voxel?`, `VoxelGroups.isFull`, `VoxelGroups.size`: what can be asked.

## Main results

* `Density.isPrefix_extend`, `Density.length_extend_le`: what is stored stays, within the limit.
* `VoxelGroups.size_insert_singleton`: one point more is stored exactly if it is accepted.
* `VoxelGroups.head?_group_prune`: what represents a voxel after a pruning.
-/

namespace LidarOdometry

variable {α : Type}

/-! ### Greedy extension -/

section Greedy

variable [Scalar α] {density : Density α}

/-- A list of stored points **accepts** one more if there is room and no stored point lies closer
than the least distance. -/
def Density.Accepts (density : Density α) (stored : List (Vec3 α)) (p : Vec3 α) : Prop :=
  stored.length < density.maxPoints ∧
    ∀ q ∈ stored, ¬ (q - p).normSq < density.minDistance * density.minDistance

instance (density : Density α) (stored : List (Vec3 α)) (p : Vec3 α) :
    Decidable (density.Accepts stored p) :=
  inferInstanceAs (Decidable (_ ∧ _))

/-- **Greedy extension**: the points in order, each appended if the list reached so far accepts
it. -/
def Density.extend (density : Density α) : List (Vec3 α) → List (Vec3 α) → List (Vec3 α)
  | stored, [] => stored
  | stored, p :: ps =>
      density.extend (if density.Accepts stored p then stored ++ [p] else stored) ps

/-- Nothing is added of no points. -/
@[simp] theorem Density.extend_nil (stored : List (Vec3 α)) :
    density.extend stored [] = stored := rfl

/-- Points are added one by one. -/
theorem Density.extend_cons (stored ps : List (Vec3 α)) (p : Vec3 α) :
    density.extend stored (p :: ps) = density.extend (density.extend stored [p]) ps := rfl

/-- A point is added if it is accepted. -/
theorem Density.extend_singleton (stored : List (Vec3 α)) (p : Vec3 α) :
    density.extend stored [p] =
      if density.Accepts stored p then stored ++ [p] else stored := rfl

/-- **Greedy extension appends** some of the points, in their order. -/
theorem Density.exists_extend_eq_append (density : Density α) (stored ps : List (Vec3 α)) :
    ∃ more, density.extend stored ps = stored ++ more ∧ more.Sublist ps := by
  induction ps generalizing stored with
  | nil => exact ⟨[], (List.append_nil stored).symm, List.Sublist.refl []⟩
  | cons p ps ih =>
      rw [Density.extend_cons, Density.extend_singleton]
      split
      · obtain ⟨more, heq, hsublist⟩ := ih (stored ++ [p])
        refine ⟨p :: more, ?_, hsublist.cons_cons p⟩
        rw [heq, List.append_assoc, List.singleton_append]
      · obtain ⟨more, heq, hsublist⟩ := ih stored
        exact ⟨more, heq, hsublist.cons p⟩

/-- Stored points stay, in their places. -/
theorem Density.isPrefix_extend (density : Density α) (stored ps : List (Vec3 α)) :
    stored <+: density.extend stored ps := by
  obtain ⟨more, heq, -⟩ := density.exists_extend_eq_append stored ps
  exact ⟨more, heq.symm⟩

/-- An empty group accepts any point, if it may have some. -/
theorem Density.accepts_nil (hroom : 0 < density.maxPoints) (p : Vec3 α) :
    density.Accepts [] p :=
  ⟨hroom, fun _ h => absurd h List.not_mem_nil⟩

/-- A list that accepts none of the points stays as it is. -/
theorem Density.extend_of_not_accepts {stored ps : List (Vec3 α)}
    (hreject : ∀ p ∈ ps, ¬ density.Accepts stored p) : density.extend stored ps = stored := by
  induction ps with
  | nil => rfl
  | cons p ps ih =>
      obtain ⟨hp, hps⟩ := List.forall_mem_cons.mp hreject
      rw [Density.extend_cons, Density.extend_singleton, if_neg hp, ih hps]

/-- A list that is as long as the limit stays as it is. -/
theorem Density.extend_of_full {stored : List (Vec3 α)}
    (hfull : density.maxPoints ≤ stored.length) (ps : List (Vec3 α)) :
    density.extend stored ps = stored :=
  Density.extend_of_not_accepts fun _ _ haccepts => absurd haccepts.1 (Nat.not_lt.mpr hfull)

/-- Without room nothing is taken. -/
theorem Density.extend_of_no_room (hroom : density.maxPoints = 0) (stored ps : List (Vec3 α)) :
    density.extend stored ps = stored :=
  Density.extend_of_full (by omega) ps

/-- A list that grows does not grow beyond the limit. -/
theorem Density.length_extend_le (density : Density α) (stored ps : List (Vec3 α)) :
    (density.extend stored ps).length ≤ max stored.length density.maxPoints := by
  induction ps generalizing stored with
  | nil => exact Nat.le_max_left _ _
  | cons p ps ih =>
      rw [Density.extend_cons, Density.extend_singleton]
      split
      · next haccepts =>
          have hroom := haccepts.1
          have hnext := ih (stored ++ [p])
          rw [List.length_append, List.length_singleton] at hnext
          omega
      · exact ih stored

/-- A list stays as it is or ends within the limit. -/
theorem Density.extend_eq_or_length_le (density : Density α) (stored ps : List (Vec3 α)) :
    density.extend stored ps = stored ∨
      (density.extend stored ps).length ≤ density.maxPoints := by
  rcases Nat.le_total density.maxPoints stored.length with hfull | hroom
  · exact .inl (Density.extend_of_full hfull ps)
  · have hlength := density.length_extend_le stored ps
    rw [Nat.max_eq_right hroom] at hlength
    exact .inr hlength

/-- What is stored was stored before or is one of the points. -/
theorem Density.mem_or_mem_of_mem_extend {stored ps : List (Vec3 α)} {q : Vec3 α}
    (h : q ∈ density.extend stored ps) : q ∈ stored ∨ q ∈ ps := by
  obtain ⟨more, heq, hsublist⟩ := density.exists_extend_eq_append stored ps
  rw [heq, List.mem_append] at h
  exact h.imp_right fun hmore => hsublist.subset hmore

/-- Points are **spaced** if none lies closer than the distance to one stored after it. -/
def Spaced (distance : α) (points : List (Vec3 α)) : Prop :=
  points.Pairwise fun p q => ¬ (p - q).normSq < distance * distance

/-- Greedy extension keeps points spaced. -/
theorem Spaced.extend {stored : List (Vec3 α)} (h : Spaced density.minDistance stored)
    (ps : List (Vec3 α)) : Spaced density.minDistance (density.extend stored ps) := by
  induction ps generalizing stored with
  | nil => exact h
  | cons p ps ih =>
      rw [Density.extend_cons, Density.extend_singleton]
      split
      · next haccepts =>
          refine ih (List.pairwise_append.mpr ⟨h, List.pairwise_singleton _ _, ?_⟩)
          intro q hq p' hp'
          obtain rfl := List.mem_singleton.mp hp'
          exact haccepts.2 q hq
      · exact ih h

/-- With room, a list stays empty only if there is nothing to take. -/
theorem Density.extend_ne_nil_iff (stored ps : List (Vec3 α)) :
    density.extend stored ps ≠ [] ↔ stored ≠ [] ∨ ps ≠ [] ∧ 0 < density.maxPoints := by
  constructor
  · intro h
    by_cases hstored : stored = []
    · refine .inr ⟨?_, Nat.pos_of_ne_zero fun hroom => ?_⟩
      · rintro rfl
        exact h hstored
      · exact h (by rw [Density.extend_of_no_room hroom, hstored])
    · exact .inl hstored
  · rintro (hstored | ⟨hps, hroom⟩) hnil
    · have hprefix := density.isPrefix_extend stored ps
      rw [hnil, List.prefix_nil] at hprefix
      exact hstored hprefix
    · cases stored with
      | cons q qs =>
          have hprefix := density.isPrefix_extend (q :: qs) ps
          rw [hnil, List.prefix_nil] at hprefix
          cases hprefix
      | nil =>
          obtain ⟨p, ps, rfl⟩ := List.exists_cons_of_ne_nil hps
          have hprefix := density.isPrefix_extend [p] ps
          -- the first point is accepted, and stays whatever comes after it
          have hfirst : density.extend [] [p] = [p] := by
            rw [Density.extend_singleton, if_pos (Density.accepts_nil hroom p), List.nil_append]
          rw [← hfirst, ← Density.extend_cons, hnil, List.prefix_nil, hfirst] at hprefix
          cases hprefix

/-- With room, a list begins with what it began with before, or else with the first point that
there is to take. -/
theorem Density.head?_extend (hroom : 0 < density.maxPoints) (stored ps : List (Vec3 α)) :
    (density.extend stored ps).head? = stored.head?.or ps.head? := by
  cases stored with
  | cons q qs =>
      obtain ⟨more, hmore⟩ := density.isPrefix_extend (q :: qs) ps
      rw [← hmore]
      rfl
  | nil =>
      cases ps with
      | nil => rfl
      | cons p ps =>
          obtain ⟨more, hmore⟩ := density.isPrefix_extend [p] ps
          rw [Density.extend_cons, Density.extend_singleton,
            if_pos (Density.accepts_nil hroom p), List.nil_append, ← hmore]
          rfl

end Greedy

/-! ### Groups -/

/-- **Points grouped by voxel**: finitely many keys, each with a non-empty list of points. -/
structure VoxelGroups (α : Type) where
  /-- The keys of the voxels. -/
  domain : Finset VoxelKey
  /-- The points of each voxel, in order of insertion; none where there is no voxel. -/
  group : VoxelKey → List (Vec3 α)
  mem_domain : ∀ key, key ∈ domain ↔ group key ≠ []

namespace VoxelGroups

variable {g h : VoxelGroups α} {key : VoxelKey}

/-- The lists determine the keys. -/
theorem ext_group (hgroup : ∀ key, g.group key = h.group key) : g = h := by
  obtain ⟨domain, group, hmem⟩ := g
  obtain ⟨domain', group', hmem'⟩ := h
  obtain rfl : group = group' := funext hgroup
  obtain rfl : domain = domain' := Finset.ext fun key => (hmem key).trans (hmem' key).symm
  rfl

/-- There is nothing in a voxel that is not there. -/
theorem group_eq_nil (hkey : key ∉ g.domain) : g.group key = [] := by
  rw [g.mem_domain, not_not] at hkey
  exact hkey

/-- No voxels. -/
def empty : VoxelGroups α where
  domain := ∅
  group _ := []
  mem_domain _ := by simp

/-- The points of the voxel with the given key, in order of insertion. -/
def voxel? (g : VoxelGroups α) (key : VoxelKey) : Option (List (Vec3 α)) :=
  if key ∈ g.domain then some (g.group key) else none

/-- Whether there is a voxel with the given key, with as many points as it can hold. -/
def isFull (g : VoxelGroups α) (capacity : Nat) (key : VoxelKey) : Bool :=
  decide (key ∈ g.domain ∧ capacity ≤ (g.group key).length)

/-- The number of points. -/
def size (g : VoxelGroups α) : Nat :=
  ∑ key ∈ g.domain, (g.group key).length

/-- The number of points is a sum over any set that has all keys. -/
theorem size_eq_sum {keys : Finset VoxelKey} (hkeys : g.domain ⊆ keys) :
    g.size = ∑ key ∈ keys, (g.group key).length := by
  refine Finset.sum_subset hkeys fun key _ hkey => ?_
  rw [group_eq_nil hkey, List.length_nil]

/-- There are points exactly if some voxel has points. -/
theorem size_pos_iff : 0 < g.size ↔ ∃ key, g.group key ≠ [] := by
  rw [size, Finset.sum_pos_iff]
  constructor
  · rintro ⟨key, -, hpos⟩
    exact ⟨key, List.length_pos_iff.mp hpos⟩
  · rintro ⟨key, hne⟩
    exact ⟨key, (g.mem_domain key).mpr hne, List.length_pos_iff.mpr hne⟩

/-! ### Insertion -/

section Insertion

variable [Scalar α] {voxelSize : α} {density : Density α}

/-- **Insertion**: the list of every voxel is extended greedily by those of the points that fall
into it, in their order. -/
def insert (g : VoxelGroups α) (voxelSize : α) (density : Density α)
    (points : List (Vec3 α)) : VoxelGroups α where
  domain := g.domain ∪
    (points.map (VoxelKey.ofPoint voxelSize)).toFinset.filter fun _ => 0 < density.maxPoints
  group key := density.extend (g.group key)
    (points.filter fun p => VoxelKey.ofPoint voxelSize p = key)
  mem_domain key := by
    rw [Density.extend_ne_nil_iff, Finset.mem_union, g.mem_domain, Finset.mem_filter,
      List.mem_toFinset, List.mem_map]
    simp [List.filter_eq_nil_iff]

/-- Without room nothing is inserted. -/
theorem insert_of_no_room (hroom : density.maxPoints = 0) (points : List (Vec3 α)) :
    g.insert voxelSize density points = g :=
  ext_group fun _ => Density.extend_of_no_room hroom _ _

/-- Points that no voxel accepts change nothing. -/
theorem insert_of_not_accepts {points : List (Vec3 α)}
    (hreject : ∀ p ∈ points,
      ¬ density.Accepts (g.group (VoxelKey.ofPoint voxelSize p)) p) :
    g.insert voxelSize density points = g := by
  refine ext_group fun key => Density.extend_of_not_accepts fun p hp => ?_
  obtain ⟨hmem, hkey⟩ := List.mem_filter.mp hp
  exact of_decide_eq_true hkey ▸ hreject p hmem

/-- Inserting no points changes nothing. -/
@[simp] theorem insert_nil : g.insert voxelSize density [] = g :=
  ext_group fun _ => rfl

/-- Points are inserted one after the other. -/
theorem insert_cons (p : Vec3 α) (ps : List (Vec3 α)) :
    g.insert voxelSize density (p :: ps) =
      (g.insert voxelSize density [p]).insert voxelSize density ps := by
  refine ext_group fun key => ?_
  simp only [insert, List.filter_cons, List.filter_nil]
  split
  · exact Density.extend_cons _ _ _
  · rfl

/-- The list of a voxel after one point. -/
theorem group_insert_singleton (p : Vec3 α) (key : VoxelKey) :
    (g.insert voxelSize density [p]).group key =
      if VoxelKey.ofPoint voxelSize p = key ∧ density.Accepts (g.group key) p then
        g.group key ++ [p]
      else g.group key := by
  by_cases hkey : VoxelKey.ofPoint voxelSize p = key
  · simp [insert, hkey, Density.extend_singleton]
  · simp [insert, hkey]

/-- One point adds one to the size if its voxel accepts it, and nothing otherwise. -/
theorem size_insert_singleton (p : Vec3 α) :
    (g.insert voxelSize density [p]).size = g.size +
      if density.Accepts (g.group (VoxelKey.ofPoint voxelSize p)) p then 1 else 0 := by
  set home := VoxelKey.ofPoint voxelSize p with hhome
  set gain := if density.Accepts (g.group home) p then 1 else 0 with hgain
  -- only the group of the point's own voxel can grow
  have hlength : ∀ key, ((g.insert voxelSize density [p]).group key).length =
      (g.group key).length + if home = key then gain else 0 := by
    intro key
    rw [group_insert_singleton, ← hhome]
    by_cases hkey : home = key
    · subst hkey
      by_cases haccepts : density.Accepts (g.group home) p <;> simp [hgain, haccepts]
    · simp [hkey]
  have hbefore : g.domain ⊆ Insert.insert home g.domain := Finset.subset_insert _ _
  have hafter : (g.insert voxelSize density [p]).domain ⊆ Insert.insert home g.domain := by
    intro key hkey
    rw [Finset.mem_insert]
    simp only [insert, Finset.mem_union, Finset.mem_filter, List.map_cons, List.map_nil,
      List.mem_toFinset, List.mem_singleton] at hkey
    exact hkey.symm.imp (fun h => h.1) id
  rw [size_eq_sum hafter, size_eq_sum hbefore, Finset.sum_congr rfl fun key _ => hlength key,
    Finset.sum_add_distrib, Finset.sum_ite_eq, if_pos (Finset.mem_insert_self home g.domain)]

/-- **A voxel is represented** by the point that it was represented by before, or else by the first
of the points that fall into it. -/
theorem head?_group_insert (hroom : 0 < density.maxPoints) (points : List (Vec3 α))
    (key : VoxelKey) : ((g.insert voxelSize density points).group key).head? =
      (g.group key).head?.or (points.find? fun p => VoxelKey.ofPoint voxelSize p = key) := by
  rw [insert, Density.head?_extend hroom, List.head?_filter]

/-- Insertion takes nothing away. -/
theorem size_le_size_insert (points : List (Vec3 α)) :
    g.size ≤ (g.insert voxelSize density points).size := by
  have hkeys : g.domain ⊆ (g.insert voxelSize density points).domain := Finset.subset_union_left
  rw [size_eq_sum hkeys]
  exact Finset.sum_le_sum fun key _ => (density.isPrefix_extend _ _).length_le

end Insertion

/-! ### Pruning -/

section Pruning

variable [Scalar α] {place : Vec3 α} {distanceSq : α}

/-- Whether points are **represented**, by the first of them, within the given squared distance of
a place. -/
def IsNear (place : Vec3 α) (distanceSq : α) (points : List (Vec3 α)) : Prop :=
  ∃ first ∈ points.head?, (first - place).normSq ≤ distanceSq

instance (place : Vec3 α) (distanceSq : α) (points : List (Vec3 α)) :
    Decidable (IsNear place distanceSq points) :=
  match points with
  | [] => isFalse (by simp [IsNear])
  | first :: _ => decidable_of_iff ((first - place).normSq ≤ distanceSq) (by simp [IsNear])

omit [Scalar α] in
/-- The voxels whose keys satisfy a condition. -/
def filter (g : VoxelGroups α) (keep : VoxelKey → Prop) [DecidablePred keep] :
    VoxelGroups α where
  domain := g.domain.filter keep
  group key := if keep key then g.group key else []
  mem_domain key := by
    rw [Finset.mem_filter, g.mem_domain]
    by_cases h : keep key <;> simp [h]

omit [Scalar α] in
/-- A group is kept whole or not at all. -/
theorem group_filter (keep : VoxelKey → Prop) [DecidablePred keep] (key : VoxelKey) :
    (g.filter keep).group key = if keep key then g.group key else [] := rfl

/-- **Pruning**: the voxels stay that are represented within `maxDistance` of a place. -/
def prune (g : VoxelGroups α) (place : Vec3 α) (maxDistance : α) : VoxelGroups α :=
  g.filter fun key => IsNear place (maxDistance * maxDistance) (g.group key)

/-- **A voxel is still represented** after a pruning if the point that represents it is near. -/
theorem head?_group_prune {maxDistance : α} {key : VoxelKey} {first : Vec3 α} :
    ((g.prune place maxDistance).group key).head? = some first ↔
      (g.group key).head? = some first ∧
        (first - place).normSq ≤ maxDistance * maxDistance := by
  rw [prune, group_filter]
  split
  · next hnear =>
      obtain ⟨near, hhead, hle⟩ := hnear
      refine ⟨fun h => ⟨h, ?_⟩, And.left⟩
      obtain rfl := Option.some.inj (hhead.symm.trans h)
      exact hle
  · next hfar => exact iff_of_false (fun h => nomatch h) fun h => hfar ⟨first, h.1, h.2⟩

/-- Pruning adds no voxel. -/
theorem card_prune_le (place : Vec3 α) (maxDistance : α) :
    (g.prune place maxDistance).domain.card ≤ g.domain.card :=
  Finset.card_filter_le _ _

end Pruning

end VoxelGroups

end LidarOdometry
