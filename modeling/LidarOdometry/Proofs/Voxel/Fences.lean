import LidarOdometry.Proofs.Numeric.Sign
import LidarOdometry.Proofs.Voxel.Neighbors

/-!
# Searches among Points that are not Numbers

A map takes in points whose coordinates are not numbers; they lie in cells of number zero. From
any place such a point has a distance that is not a number, which compares with none, and an
ordering by insertion never moves a point past it: it is a *fence*. The points visited before it
are ordered among themselves and stay before it, those visited after it stay after it.

A search that visits no cell of number zero meets no fence and finds the nearest points. Where at
most twenty points are visited, fences do no harm for any limit exactly if no number is visited
after one. More than twenty points are ordered by merging, which nothing is known about once
comparisons fail.

## Main definitions

* `VoxelMap.searched`: the points that a search visits.
* `nearestFirst`: points in the order in which a search ranks them.
* `KeepsNearest`: what it is to find the nearest numbers in spite of fences.

## Main results

* `Candidate.order_append_cons`: nothing passes a fence.
* `keepsNearest_nearestFirst_iff`: the order of visits that fences do no harm to.
* `VoxelMap.keepsNearest_neighbors`: searches in maps that can be reached.
-/

namespace LidarOdometry

/-! ### Fences -/

namespace Candidate

variable {α : Type} [Scalar α] {c : Candidate α}

/-- A candidate that is not nearer than the fence is put in front of it. -/
theorem insertFarthestFirst_append_cons {x : Candidate α} (hx : ¬ x.distanceSq < c.distanceSq)
    (ds ds' : List (Candidate α)) :
    insertFarthestFirst x (ds ++ c :: ds') = insertFarthestFirst x ds ++ c :: ds' := by
  induction ds with
  | nil => exact if_neg hx
  | cons d ds ih =>
      rw [List.cons_append, insertFarthestFirst, insertFarthestFirst, ih]
      split <;> rfl

/-- A fence that is not nearer than what is ordered so far is put in front of it. -/
theorem insertFarthestFirst_eq_cons {ds : List (Candidate α)}
    (hds : ∀ d ∈ ds, ¬ c.distanceSq < d.distanceSq) : insertFarthestFirst c ds = c :: ds := by
  cases ds with
  | nil => rfl
  | cons d ds => exact if_neg (hds d List.mem_cons_self)

variable {before after : List (Candidate α)}

/-- **A candidate is a fence** if it may stand between those before and those behind it. -/
theorem orderByInsertion_append_cons (hbefore : ∀ x ∈ before, ¬ c.distanceSq < x.distanceSq)
    (hafter : ∀ x ∈ after, ¬ x.distanceSq < c.distanceSq) :
    orderByInsertion (before ++ c :: after) =
      orderByInsertion before ++ c :: orderByInsertion after := by
  -- what comes after the fence is ordered in front of it, as if it were the end of the list
  have hfold : ∀ ds ordered : List (Candidate α),
      (after.foldl (fun ordered x => insertFarthestFirst x ordered) (ds ++ c :: ordered)) =
        after.foldl (fun ordered x => insertFarthestFirst x ordered) ds ++ c :: ordered := by
    intro ds ordered
    induction after generalizing ds with
    | nil => rfl
    | cons x after ih =>
        obtain ⟨hx, hafter⟩ := List.forall_mem_cons.mp hafter
        rw [List.foldl_cons, List.foldl_cons, insertFarthestFirst_append_cons hx, ih hafter]
  have hordered : ∀ d ∈ (orderByInsertion before).reverse, ¬ c.distanceSq < d.distanceSq :=
    fun d hd => hbefore d ((orderByInsertion_perm before).mem_iff.mp (List.mem_reverse.mp hd))
  rw [orderByInsertion, List.reverse_reverse] at hordered
  rw [orderByInsertion, List.foldl_append, List.foldl_cons, insertFarthestFirst_eq_cons hordered]
  refine (congrArg List.reverse (hfold [] _)).trans ?_
  rw [List.reverse_append, List.reverse_cons, List.append_assoc, List.singleton_append]
  rfl

/-- **Nothing passes a fence** in short lists: what does not compare with any other candidate stays
in its place, and both sides of it are ordered on their own. -/
theorem order_append_cons (hlength : (before ++ c :: after).length ≤ 20)
    (hbefore : ∀ x ∈ before, ¬ c.distanceSq < x.distanceSq)
    (hafter : ∀ x ∈ after, ¬ x.distanceSq < c.distanceSq) :
    order (before ++ c :: after) = order before ++ c :: order after := by
  have htotal := hlength
  rw [List.length_append, List.length_cons] at htotal
  rw [order, order, order, if_pos hlength, if_pos (by omega), if_pos (by omega),
    orderByInsertion_append_cons hbefore hafter]

end Candidate

/-! ### The points that a search visits -/

section Searched

variable {α : Type} [Scalar α]

/-- A point with its squared distance from a place. -/
def Candidate.seenFrom (place p : Vec3 α) : Candidate α :=
  ⟨(p - place).normSq, p⟩

/-- **Points in the order in which a search ranks them**, as seen from a place. -/
def nearestFirst (place : Vec3 α) (points : List (Vec3 α)) : List (Vec3 α) :=
  (Candidate.order (points.map (Candidate.seenFrom place))).map Candidate.point

/-- All points are there, in some order. -/
theorem nearestFirst_perm (place : Vec3 α) (points : List (Vec3 α)) :
    (nearestFirst place points).Perm points := by
  refine ((Candidate.order_perm _).map _).trans ?_
  rw [List.map_map]
  exact .of_eq (List.map_id points)

namespace VoxelMap

variable {m : VoxelMap α} {place : Vec3 α}

/-- **The points that a search visits**, voxel by voxel. -/
def searched (m : VoxelMap α) (place : Vec3 α) (radius : Nat) : List (Vec3 α) :=
  ((m.keyOf place).block radius).flatMap fun key => (m.voxel? key).getD []

/-- The candidates are the points that are searched, seen from the query. -/
theorem candidates_eq_map (m : VoxelMap α) (place : Vec3 α) (radius : Nat) :
    m.candidates place radius =
      (m.searched place radius).map (Candidate.seenFrom place) := by
  rw [candidates_eq, searched, List.map_flatMap]
  refine List.flatMap_congr fun key _ => ?_
  cases m.voxel? key <;> rfl

/-- A search ranks what it visits and takes as many as wanted. -/
theorem neighbors_eq_take (m : VoxelMap α) (place : Vec3 α) (radius limit : Nat) :
    m.neighbors place radius limit =
      (nearestFirst place (m.searched place radius)).take limit := by
  rw [neighbors_eq, candidates_eq_map, nearestFirst, List.map_take]

end VoxelMap

end Searched

/-! ### Finding the nearest numbers -/

namespace Vec3

instance : DecidablePred Vec3.HasNaN := fun v =>
  inferInstanceAs (Decidable (v.x.isNaN = true ∨ v.y.isNaN = true ∨ v.z.isNaN = true))

end Vec3

/-- **The nearest numbers are found**, whatever else is: those found are in order of distance, none
of those left out is nearer, and none is left out as long as anything else is found. -/
structure KeepsNearest (place : Vec3 Float) (found left : List (Vec3 Float)) : Prop where
  pairwise : found.Pairwise fun p q => ¬ p.HasNaN → ¬ q.HasNaN →
    (p - place).normSq ≤ (q - place).normSq
  le_of_left : ∀ p ∈ found, ∀ q ∈ left, ¬ p.HasNaN → ¬ q.HasNaN →
    (p - place).normSq ≤ (q - place).normSq
  not_displaced : ∀ p ∈ found, ∀ q ∈ left, p.HasNaN → q.HasNaN

section Fences

variable {place : Vec3 Float} {points : List (Vec3 Float)}

/-- Numbers are ranked by distance. -/
theorem pairwise_nearestFirst (hplace : place.IsFinite) (hpoints : ∀ p ∈ points, ¬ p.HasNaN) :
    (nearestFirst place points).Pairwise fun p q =>
      (p - place).normSq ≤ (q - place).normSq := by
  have hnumber : ∀ c ∈ points.map (Candidate.seenFrom place),
      c.distanceSq = (c.point - place).normSq ∧ c.distanceSq.isNaN = false := by
    intro c hc
    obtain ⟨p, hp, rfl⟩ := List.mem_map.mp hc
    refine ⟨rfl, Bool.not_eq_true _ ▸ fun hnan => hpoints p hp ?_⟩
    exact (NotANumber.isNaN_normSq_sub_iff hplace).mp hnan
  -- numbers compare as their ranks do, which are ordered linearly
  have hrank : ∀ a ∈ points.map (Candidate.seenFrom place),
      ∀ b ∈ points.map (Candidate.seenFrom place), a.distanceSq < b.distanceSq ↔
        NotANumber.rank a.distanceSq.toModel.unpack <
          NotANumber.rank b.distanceSq.toModel.unpack := by
    intro a ha b hb
    rw [NotANumber.lt_iff]
    simp only [(hnumber a ha).2, (hnumber b hb).2, true_and]
  have hordered := Candidate.pairwise_order
    (fun c : Candidate Float => NotANumber.rank c.distanceSq.toModel.unpack) hrank
  refine List.pairwise_map.mpr (hordered.imp_of_mem fun {a b} ha hb hle => ?_)
  obtain ⟨ha, hnumber₁⟩ := hnumber a ((Candidate.order_perm _).mem_iff.mp ha)
  obtain ⟨hb, hnumber₂⟩ := hnumber b ((Candidate.order_perm _).mem_iff.mp hb)
  rw [← ha, ← hb]
  exact NotANumber.le_iff.mpr ⟨hnumber₁, hnumber₂, hle⟩

/-- **A point that is not a number is a fence.** -/
theorem nearestFirst_append_cons {before after : List (Vec3 Float)} {p : Vec3 Float}
    (hp : p.HasNaN) (hlength : (before ++ p :: after).length ≤ 20) :
    nearestFirst place (before ++ p :: after) =
      nearestFirst place before ++ p :: nearestFirst place after := by
  have hnan : (p - place).normSq.isNaN = true :=
    NotANumber.isNaN_normSq (NotANumber.hasNaN_sub (.inl hp))
  have hlt : ∀ x, ¬ (p - place).normSq < x :=
    fun x => NotANumber.not_lt_iff.mpr (.inr (.inr hnan))
  have hgt : ∀ x, ¬ x < (p - place).normSq :=
    fun x => NotANumber.not_lt_iff.mpr (.inr (.inl hnan))
  simp only [nearestFirst, List.map_append, List.map_cons]
  rw [Candidate.order_append_cons ?_ (fun x _ => hlt _) (fun x _ => hgt _), List.map_append,
    List.map_cons]
  · rfl
  · simpa using hlength

/-- In this order points are ranked before one another without harm: the nearer number first, and
every number before everything else. -/
def MayPrecede (place p q : Vec3 Float) : Prop :=
  (p.HasNaN → q.HasNaN) ∧
    (¬ p.HasNaN → ¬ q.HasNaN → (p - place).normSq ≤ (q - place).normSq)

/-- Where all points are ranked without harm, a search may stop anywhere. -/
theorem keepsNearest_of_pairwise (h : points.Pairwise (MayPrecede place)) (limit : Nat) :
    KeepsNearest place (points.take limit) (points.drop limit) := by
  rw [← List.take_append_drop limit points] at h
  obtain ⟨hfound, -, hleft⟩ := List.pairwise_append.mp h
  exact ⟨hfound.imp And.right, fun p hp q hq => (hleft p hp q hq).2,
    fun p hp q hq => (hleft p hp q hq).1⟩

/-- Among numbers every point may precede those behind it. -/
theorem pairwise_mayPrecede_of_numbers (hplace : place.IsFinite)
    (hpoints : ∀ p ∈ points, ¬ p.HasNaN) :
    (nearestFirst place points).Pairwise (MayPrecede place) := by
  refine (pairwise_nearestFirst hplace hpoints).imp_of_mem fun {p q} hp _ hle => ?_
  have hnumber : ¬ p.HasNaN := hpoints p ((nearestFirst_perm place points).mem_iff.mp hp)
  exact ⟨fun hnan => absurd hnan hnumber, fun _ _ => hle⟩

/-- Numbers visited before everything else are ranked without harm. -/
theorem pairwise_mayPrecede (hplace : place.IsFinite) (hlength : points.length ≤ 20)
    (h : points.Pairwise fun p q => p.HasNaN → q.HasNaN) :
    (nearestFirst place points).Pairwise (MayPrecede place) := by
  cases hfind : points.find? fun p => decide p.HasNaN with
  | none =>
      exact pairwise_mayPrecede_of_numbers hplace (by simpa using hfind)
  | some p =>
      -- the first that is not a number splits the list: behind it there are no numbers
      obtain ⟨hp, before, after, rfl, hbefore⟩ := List.find?_eq_some_iff_append.mp hfind
      have hp : p.HasNaN := of_decide_eq_true hp
      have hbefore : ∀ q ∈ before, ¬ q.HasNaN := by simpa using hbefore
      have hafter : ∀ q ∈ p :: nearestFirst place after, q.HasNaN := by
        obtain ⟨-, hafter, -⟩ := List.pairwise_append.mp h
        intro q hq
        rcases List.mem_cons.mp hq with rfl | hq
        · exact hp
        · exact (List.pairwise_cons.mp hafter).1 q ((nearestFirst_perm ..).mem_iff.mp hq) hp
      rw [nearestFirst_append_cons hp hlength]
      refine List.pairwise_append.mpr ⟨pairwise_mayPrecede_of_numbers hplace hbefore, ?_,
        fun q hq r hr => ?_⟩
      · exact List.pairwise_of_forall_mem_list fun q hq r hr =>
          ⟨fun _ => hafter r hr, fun hnumber => absurd (hafter q hq) hnumber⟩
      · exact ⟨fun _ => hafter r hr, fun _ hnumber => absurd (hafter r hr) hnumber⟩

/-- **Fences do no harm**, however many points are wanted, exactly if no number is visited after
one. -/
theorem keepsNearest_nearestFirst_iff (hplace : place.IsFinite) (hlength : points.length ≤ 20) :
    (∀ limit, KeepsNearest place ((nearestFirst place points).take limit)
      ((nearestFirst place points).drop limit)) ↔
      points.Pairwise fun p q => p.HasNaN → q.HasNaN := by
  refine ⟨fun h => List.pairwise_iff_forall_sublist.mpr fun {p q} hpair hp => ?_,
    fun h => keepsNearest_of_pairwise (pairwise_mayPrecede hplace hlength h)⟩
  -- if only the points up to the fence are wanted, no number may come later
  obtain ⟨start, rest, rfl, hstart, hrest⟩ := List.cons_sublist_iff.mp hpair
  obtain ⟨before, after, rfl⟩ := List.append_of_mem hstart
  rw [List.append_assoc, List.cons_append] at h hlength
  have hkeeps := h ((nearestFirst place before).length + 1)
  rw [nearestFirst_append_cons hp hlength, List.append_cons, ← List.length_concat,
    List.concat_eq_append, List.take_left, List.drop_left] at hkeeps
  refine hkeeps.not_displaced p (List.mem_append_right _ List.mem_cons_self) q ?_ hp
  exact (nearestFirst_perm ..).mem_iff.mpr
    (List.mem_append_right _ (List.singleton_sublist.mp hrest))

end Fences

namespace VoxelMap

variable {m : VoxelMap Float} {g : VoxelGroups Float} {place p : Vec3 Float} {radius : Nat}

/-- The points that a search visits are those of its cube. -/
theorem Represents.searched_eq (h : m.Represents g) :
    m.searched place radius = ((m.keyOf place).block radius).flatMap g.group :=
  List.flatMap_congr fun key _ => (h.group_eq key).symm

/-- What a search visits lies in a voxel of its cube. -/
theorem Represents.keyOf_mem_block (h : m.Represents g) (ht : g.Tidy m.voxelSize m.capacity)
    (hp : p ∈ m.searched place radius) : m.keyOf p ∈ (m.keyOf place).block radius := by
  rw [h.searched_eq] at hp
  obtain ⟨key, hkey, hp⟩ := List.mem_flatMap.mp hp
  have heq : m.keyOf p = key := ht.ofPoint_eq key p hp
  rwa [heq]

/-- **A point that is not a number lies in a cell of number zero.** -/
theorem keyOf_of_hasNaN (m : VoxelMap Float) (hp : p.HasNaN) :
    (m.keyOf p).x = 0 ∨ (m.keyOf p).y = 0 ∨ (m.keyOf p).z = 0 := by
  rcases hp with h | h | h
  · exact .inl (NotANumber.floor_div_eq_zero h _)
  · exact .inr (.inl (NotANumber.floor_div_eq_zero h _))
  · exact .inr (.inr (NotANumber.floor_div_eq_zero h _))

/-- **What a search finds among points that are not numbers.** In every map that can be reached, a
search from a finite place ranks the points that it visits and takes the first of them. If all of
these are numbers, it finds the nearest. What is not a number lies in a visited cell of number zero.
Of at most twenty points, such a point separates those visited before it from those visited after
it, and nearest numbers are found for all limits exactly if none is visited after it. -/
theorem keepsNearest_neighbors {voxelSize : Float} {capacity : Nat}
    {calls : List (MapCall Float)} {answers : List Nat}
    (hrun : Run (empty voxelSize capacity) calls answers m) (hplace : place.IsFinite)
    (radius : Nat) :
    let block := (m.keyOf place).block radius
    let searched := m.searched place radius
    let ranked := nearestFirst place searched
    let keepsNearest := ∀ limit,
      KeepsNearest place (m.neighbors place radius limit) (ranked.drop limit)
    ranked.Perm searched ∧ (∀ limit, m.neighbors place radius limit = ranked.take limit) ∧
      ((m.keyOf place).HasRoom radius → searched.Perm
        (m.points.filter fun p => (m.keyOf place).IsAround radius (m.keyOf p))) ∧
      ((∀ p ∈ searched, ¬ p.HasNaN) → keepsNearest) ∧
      (∀ p ∈ searched, p.HasNaN → m.keyOf p ∈ block ∧
        ((m.keyOf p).x = 0 ∨ (m.keyOf p).y = 0 ∨ (m.keyOf p).z = 0)) ∧
      (searched.length ≤ 20 →
        (∀ before p after, searched = before ++ p :: after → p.HasNaN →
          ranked = nearestFirst place before ++ p :: nearestFirst place after) ∧
        (keepsNearest ↔ searched.Pairwise fun p q => p.HasNaN → q.HasNaN)) := by
  intro block searched ranked keepsNearest
  obtain ⟨g, h, ht, -, rfl, rfl⟩ := hrun.exists_tidy
  have htake : ∀ limit, m.neighbors place radius limit = ranked.take limit :=
    m.neighbors_eq_take place radius
  have hkeeps : keepsNearest ↔
      ∀ limit, KeepsNearest place (ranked.take limit) (ranked.drop limit) :=
    forall_congr' fun limit => by rw [htake limit]
  refine ⟨nearestFirst_perm place searched, htake, fun hroom => ?_, fun hnumbers => ?_,
    fun p hp hnan => ⟨?_, m.keyOf_of_hasNaN hnan⟩, fun hlength => ⟨?_, ?_⟩⟩
  · have hperm := h.candidates_perm ht hroom
    rwa [h.map_point_candidates, ← h.searched_eq] at hperm
  · exact hkeeps.mpr (keepsNearest_of_pairwise (pairwise_mayPrecede_of_numbers hplace hnumbers))
  · exact h.keyOf_mem_block ht hp
  · intro before p after heq hp
    change nearestFirst place searched = _
    rw [heq] at hlength ⊢
    exact nearestFirst_append_cons hp hlength
  · exact hkeeps.trans (keepsNearest_nearestFirst_iff hplace hlength)

/-- A map after one insertion. -/
theorem exists_inserted (voxelSize : Float) (capacity : Nat) (points : List (Vec3 Float))
    (density : Density Float) : ∃ answers, ∃ m : VoxelMap Float,
      Run (empty voxelSize capacity) [.insert points density] answers m ∧ m.voxelSize = voxelSize ∧
        m.Represents ((MapCall.insert points density).onGroups voxelSize capacity .empty) := by
  have hempty := represents_empty voxelSize capacity
  obtain ⟨hcall, -⟩ := hempty.performs_performCall (VoxelArena.tracked_empty capacity)
    (.insert points density)
  have hrun := Run.cons hcall .nil
  obtain ⟨-, -, -, -, hsize, -⟩ := hrun.exists_tidy
  exact ⟨_, _, hrun, hsize, (hempty.performs hcall).1⟩

/-- A map of one voxel, in which a fence comes before the nearest point. -/
theorem exists_fenced : ∃ answers, ∃ m : VoxelMap Float,
    Run (empty 1 5) [.insert [⟨0.5, 0, 0⟩, ⟨0 / 0, 0, 0⟩, ⟨0.25, 0, 0⟩] ⟨5, 0⟩] answers m ∧
      m.searched ⟨0, 0, 0⟩ 0 = [⟨0.5, 0, 0⟩, ⟨0 / 0, 0, 0⟩, ⟨0.25, 0, 0⟩] := by
  obtain ⟨answers, m, hrun, hsize, hrepresents⟩ :=
    exists_inserted 1 5 [⟨0.5, 0, 0⟩, ⟨0 / 0, 0, 0⟩, ⟨0.25, 0, 0⟩] ⟨5, 0⟩
  refine ⟨answers, m, hrun, ?_⟩
  rw [hrepresents.searched_eq, keyOf, hsize]
  decide +kernel

/-- **A fence spoils a search** for any number of points: wanting one, the nearest point is left
out for one behind which it comes, wanting two it is displaced by the fence, and all three are not
in order. -/
theorem not_keepsNearest_behind_fence :
    let near : Vec3 Float := ⟨0.25, 0, 0⟩
    let far : Vec3 Float := ⟨0.5, 0, 0⟩
    let fence : Vec3 Float := ⟨0 / 0, 0, 0⟩
    let place : Vec3 Float := ⟨0, 0, 0⟩
    (near - place).normSq < (far - place).normSq ∧ ¬ near.HasNaN ∧ ¬ far.HasNaN ∧ fence.HasNaN ∧
      ∃ answers, ∃ m : VoxelMap Float,
        Run (empty 1 5) [.insert [far, fence, near] ⟨5, 0⟩] answers m ∧
          m.searched place 0 = [far, fence, near] ∧ m.neighbors place 0 1 = [far] ∧
          m.neighbors place 0 2 = [far, fence] ∧ m.neighbors place 0 3 = [far, fence, near] := by
  intro near far fence place
  obtain ⟨answers, m, hrun, hsearched⟩ := exists_fenced
  refine ⟨by decide +kernel, by decide +kernel, by decide +kernel, by decide +kernel, answers, m,
    hrun, hsearched, ?_⟩
  simp only [neighbors_eq_take]
  rw [hsearched]
  decide +kernel

/-- A number is visited after the fence, so that some limit gives a wrong answer. -/
theorem keepsNearest_neighbors_fenced : ∃ answers, ∃ m : VoxelMap Float,
    Run (empty 1 5) [.insert [⟨0.5, 0, 0⟩, ⟨0 / 0, 0, 0⟩, ⟨0.25, 0, 0⟩] ⟨5, 0⟩] answers m ∧
      (⟨0, 0, 0⟩ : Vec3 Float).IsFinite ∧
      ¬ ∀ limit, KeepsNearest ⟨0, 0, 0⟩ (m.neighbors ⟨0, 0, 0⟩ 0 limit)
        ((nearestFirst ⟨0, 0, 0⟩ (m.searched ⟨0, 0, 0⟩ 0)).drop limit) := by
  obtain ⟨answers, m, hrun, hsearched⟩ := exists_fenced
  have hplace : (⟨0, 0, 0⟩ : Vec3 Float).IsFinite :=
    ⟨by decide +kernel, by decide +kernel, by decide +kernel⟩
  obtain ⟨-, -, -, -, -, hshort⟩ := keepsNearest_neighbors hrun hplace 0
  rw [hsearched] at hshort
  obtain ⟨-, hiff⟩ := hshort (by decide)
  refine ⟨answers, m, hrun, hplace, fun h => ?_⟩
  rw [hsearched] at h
  exact absurd (hiff.mp h) (by decide +kernel)

end VoxelMap

end LidarOdometry
