import LidarOdometry.Proofs.Numeric.Checked
import LidarOdometry.Proofs.Voxel.Fences

/-!
# The Ends of the Key Space

The coordinates of a voxel are words, and adding steps to them may leave the range of words. If sums
are checked there is no result of the search then. If they go round, a search that steps over one
end of the key space goes on at the other, where it visits voxels that lie nowhere near its place.
This happens as soon as the place is too close to an end for the radius, in particular wherever the
cell of the place is that of all values beyond the range. It happens in no other case: as long as
there is room, every key that is visited is that of a voxel around the place, with either sum.

## Main definitions

* `VoxelKey.IsWord`: coordinates within the range of words.
* `VoxelKey.IsReached`: keys at most some steps away, over the ends of the range.
* `VoxelKey.IsSaturated`: voxels at the end of the range.

## Main results

* `VoxelKey.blockBy_checked_ne_none`: when all sums stay within the range.
* `VoxelKey.mem_block_iff`: the keys that are visited, with room or without.
* `VoxelKey.exists_not_isAround`: without room, the other end is visited.
* `VoxelMap.neighborsBy_checked`: with room the check makes no difference.
* `VoxelMap.checked_search_iff_hasRoom`: searches in maps that can be reached.
-/

namespace LidarOdometry

/-- The cell of a value is a word, saturated if need be. -/
theorem Binary64.isWord_floor (b : Binary64) : Word.IsWord b.floor := by
  cases b with
  | notANumber => exact by decide
  | infinite isNegative => cases isNegative <;> exact by decide
  | finite isNegative significand exponent => exact Word.isWord_clamp _

/-! ### Keys within the range -/

namespace VoxelKey

variable {β : Type} {center key : VoxelKey} {radius : Nat} {a b : Int}

/-- All coordinates are words. -/
structure IsWord (key : VoxelKey) : Prop where
  x : Word.IsWord key.x
  y : Word.IsWord key.y
  z : Word.IsWord key.z

/-- The coordinates of a key are words, as conversion saturates. -/
theorem isWord_ofPoint (size : Float) (p : Vec3 Float) : (ofPoint size p).IsWord :=
  ⟨Binary64.isWord_floor _, Binary64.isWord_floor _, Binary64.isWord_floor _⟩

/-! ### Checked sums -/

/-- The steps go where the sums do. -/
theorem agrees_inRow {f : Int → Option β} {g : Int → Id β} (hf : ∀ d, Agrees (f d) (g d))
    (count : Nat) (first : Int) : Agrees (inRow f count first) (inRow g count first) := by
  induction count generalizing first with
  | zero => exact .pure []
  | succ count ih => exact .bind (hf first) fun b => .bind (ih _) fun bs => .pure (b :: bs)

/-- **Along one axis** cells agree if they do step by step. -/
theorem agrees_alongBy {f : Int → Option β} {g : Int → Id β} (hf : ∀ d, Agrees (f d) (g d))
    (radius : Nat) : Agrees (alongBy Word.checked radius f) (alongBy Word.wrapping radius g) :=
  .bind (Word.agrees_checked _) fun _ => agrees_inRow hf _ _

/-- **The cube with checked sums** is the cube, if there is one. -/
theorem agrees_blockBy (center : VoxelKey) (radius : Nat) :
    Agrees (center.blockBy Word.checked radius) (center.block radius) := by
  refine .bind (agrees_alongBy (fun dx => agrees_alongBy (fun dy => agrees_alongBy (fun dz => ?_)
    _) _) _) fun layers => .pure layers.flatten.flatten
  exact .bind (Word.agrees_checked _) fun _ => .bind (Word.agrees_checked _) fun _ =>
    .bind (Word.agrees_checked _) fun _ => .pure _

/-- A row has no result if there is an integer in it that has none. -/
theorem inRow_eq_none_iff {f : Int → Option β} {count : Nat} {first : Int} :
    inRow f count first = none ↔ ∃ i < count, f (first + (i : Nat)) = none := by
  induction count generalizing first with
  | zero => simp [inRow]
  | succ count ih =>
      have hrow : inRow f (count + 1) first = none ↔
          f first = none ∨ inRow f count (first + 1) = none := by
        rw [inRow]
        cases f first <;> cases inRow f count (first + 1) <;> simp
      rw [hrow, ih, Nat.exists_lt_succ_left]
      simp only [Nat.cast_zero, add_zero, Nat.cast_succ, add_assoc, add_comm (1 : Int)]

/-- **The steps of a search have no result** if the radius cannot be turned round, or at one of
them there is none. -/
theorem alongBy_checked_eq_none_iff {f : Int → Option β} :
    alongBy Word.checked radius f = none ↔
      ¬ Word.IsWord (-Word.wrap radius) ∨ ∃ d ∈ steps radius, f d = none := by
  rw [alongBy]
  by_cases hword : Word.IsWord (-Word.wrap radius)
  · simp only [Word.checked_of_isWord hword, Option.bind_eq_bind, Option.bind_some,
      inRow_eq_none_iff, steps, Word.wrap_eq_self_iff.mpr hword, hword, not_true_eq_false,
      false_or, List.mem_map, List.mem_range]
    constructor
    · rintro ⟨i, hi, hnone⟩
      exact ⟨_, ⟨i, hi, rfl⟩, hnone⟩
    · rintro ⟨_, ⟨i, hi, rfl⟩, hnone⟩
      exact ⟨i, hi, hnone⟩
  · rw [Word.checked_eq_none_iff.mpr hword]
    exact iff_of_true rfl (.inl hword)

/-- A cell beyond the words along some axis is not given. -/
theorem offsetBy_checked_eq_none_iff {dx dy dz : Int} :
    center.offsetBy Word.checked dx dy dz = none ↔ ¬ Word.IsWord (center.x + dx) ∨
      ¬ Word.IsWord (center.y + dy) ∨ ¬ Word.IsWord (center.z + dz) := by
  simp only [← Word.checked_eq_none_iff, offsetBy]
  cases Word.checked (center.x + dx) <;> cases Word.checked (center.y + dy) <;>
    cases Word.checked (center.z + dz) <;> simp

/-- **The cube with checked sums** does not exist if the radius cannot be turned round, or if some
sum of the search leaves the range. -/
theorem blockBy_checked_eq_none_iff : center.blockBy Word.checked radius = none ↔
    ¬ Word.IsWord (-Word.wrap radius) ∨
      ∃ dx ∈ steps radius, ∃ dy ∈ steps radius, ∃ dz ∈ steps radius,
        ¬ Word.IsWord (center.x + dx) ∨ ¬ Word.IsWord (center.y + dy) ∨
          ¬ Word.IsWord (center.z + dz) := by
  have hlayers : center.blockBy Word.checked radius = none ↔
      alongBy Word.checked radius (fun dx => alongBy Word.checked radius fun dy =>
        alongBy Word.checked radius fun dz => center.offsetBy Word.checked dx dy dz) = none := by
    rw [blockBy, Option.bind_eq_bind, Option.bind_eq_none_iff]
    exact ⟨fun h => Option.eq_none_iff_forall_ne_some.mpr fun layers hlayers =>
      Option.some_ne_none _ (h layers hlayers), fun h _ hlayers => by simp [h] at hlayers⟩
  simp only [hlayers, alongBy_checked_eq_none_iff, offsetBy_checked_eq_none_iff]
  by_cases hword : Word.IsWord (-Word.wrap radius)
  · simp only [hword, not_true_eq_false, false_or]
  · simp only [hword, not_false_eq_true, true_or]

/-- A radius that is a word is not wrapped. -/
theorem wrap_radius (hradius : (radius : Int) ≤ Word.greatest) : Word.wrap radius = radius := by
  refine Word.wrap_of_mem ?_ hradius
  simp only [Word.least]
  omega

/-- The sums along an axis stay within the range if the first and the last do. -/
theorem forall_isWord_iff (hradius : (radius : Int) ≤ Word.greatest) :
    (∀ d ∈ steps radius, Word.IsWord (a + d)) ↔ RoomAt a radius := by
  simp only [mem_steps (wrap_radius hradius), abs_le]
  constructor
  · intro h
    obtain ⟨hfirst, -⟩ := h (-radius) (by omega)
    obtain ⟨-, hlast⟩ := h radius (by omega)
    exact ⟨by omega, hlast⟩
  · rintro ⟨hl, hu⟩ d hd
    exact ⟨by omega, by omega⟩

/-- **No sum leaves the range exactly if there is room**, for a radius that is a word. -/
theorem blockBy_checked_ne_none_iff (hradius : (radius : Int) ≤ Word.greatest) :
    center.blockBy Word.checked radius ≠ none ↔ center.HasRoom radius := by
  have hopposite : Word.IsWord (-Word.wrap radius) := by
    rw [wrap_radius hradius]
    simp only [Word.IsWord, Word.least, Word.greatest] at hradius ⊢
    omega
  have hstep : (0 : Int) ∈ steps radius := (mem_steps (wrap_radius hradius) 0).mpr (by simp)
  rw [Ne, blockBy_checked_eq_none_iff, not_or, not_not]
  push Not
  constructor
  · rintro ⟨-, h⟩
    -- along one axis the other steps do not matter
    exact ⟨(forall_isWord_iff hradius).mp fun d hd => (h d hd 0 hstep 0 hstep).1,
      (forall_isWord_iff hradius).mp fun d hd => (h 0 hstep d hd 0 hstep).2.1,
      (forall_isWord_iff hradius).mp fun d hd => (h 0 hstep 0 hstep d hd).2.2⟩
  · rintro ⟨hx, hy, hz⟩
    exact ⟨hopposite, fun dx hdx dy hdy dz hdz => ⟨(forall_isWord_iff hradius).mpr hx dx hdx,
      (forall_isWord_iff hradius).mpr hy dy hdy, (forall_isWord_iff hradius).mpr hz dz hdz⟩⟩

/-- How a radius beyond the range reads. -/
theorem wrap_radius_beyond (hradius : Word.greatest < radius) (hword : radius < 2 ^ 64) :
    Word.wrap radius = radius - 0x10000000000000000 := by
  refine Word.wrap_eq_of_isWord (q := 1) ?_ (by omega)
  simp only [Word.IsWord, Word.least, Word.greatest] at hradius ⊢
  omega

/-- The opposite of a radius that reads as a negative word. -/
theorem isWord_neg_wrap_radius (hradius : Word.greatest + 1 < radius) (hword : radius < 2 ^ 64) :
    Word.IsWord (-Word.wrap radius) := by
  rw [wrap_radius_beyond (by omega) hword]
  simp only [Word.IsWord, Word.least, Word.greatest] at hradius ⊢
  omega

/-- A radius that reads as a negative word has no steps. -/
theorem steps_eq_nil (hradius : Word.greatest + 1 < radius) (hword : radius < 2 ^ 64) :
    steps radius = [] := by
  have hlast := wrap_radius_beyond (by omega) hword
  have hfirst := Word.wrap_eq_self_iff.mpr (isWord_neg_wrap_radius hradius hword)
  simp only [Word.greatest] at hradius
  have hlength : (Word.wrap radius + 1 - Word.wrap (-Word.wrap radius)).toNat = 0 := by omega
  simp only [steps, hlength, List.range_zero, List.map_nil]

/-- **When no sum leaves the range**, for every radius. The one radius that reads as its own
opposite cannot be turned round, those beyond it leave no steps. -/
theorem blockBy_checked_ne_none (hword : radius < 2 ^ 64) :
    center.blockBy Word.checked radius ≠ none ↔
      center.HasRoom radius ∨ Word.greatest + 1 < radius := by
  have hroom : center.HasRoom radius → (radius : Int) ≤ Word.greatest := fun h =>
    h.x.wrap_radius ▸ Word.wrap_le_greatest radius
  rcases lt_trichotomy (radius : Int) (Word.greatest + 1) with hlt | heq | hgt
  · rw [blockBy_checked_ne_none_iff (by omega)]
    exact ⟨.inl, fun h => h.elim id (by omega)⟩
  · obtain rfl : radius = 0x8000000000000000 := by
      simp only [Word.greatest] at heq
      omega
    refine iff_of_false (not_not.mpr (blockBy_checked_eq_none_iff.mpr (.inl (by decide)))) ?_
    rintro (h | hgt)
    · exact absurd (hroom h) (by omega)
    · omega
  · refine iff_of_true (fun hnone => ?_) (.inr hgt)
    rcases blockBy_checked_eq_none_iff.mp hnone with hopposite | ⟨d, hd, -⟩
    · exact hopposite (isWord_neg_wrap_radius hgt hword)
    · exact absurd (steps_eq_nil hgt hword ▸ hd) List.not_mem_nil

/-! ### The keys that are visited -/

/-- A coordinate at most `radius` steps away, over the ends of the range if need be. -/
def ReachedFrom (a : Int) (radius : Nat) (b : Int) : Prop :=
  |b - a| ≤ radius ∨ 0x10000000000000000 - (radius : Int) ≤ |b - a|

instance (a : Int) (radius : Nat) (b : Int) : Decidable (ReachedFrom a radius b) :=
  inferInstanceAs (Decidable (_ ∨ _))

/-- **Keys at most `radius` steps away** along each axis, over the ends of the range if need
be. -/
def IsReached (center : VoxelKey) (radius : Nat) (key : VoxelKey) : Prop :=
  ReachedFrom center.x radius key.x ∧ ReachedFrom center.y radius key.y ∧
    ReachedFrom center.z radius key.z

instance (center : VoxelKey) (radius : Nat) : DecidablePred (center.IsReached radius) :=
  fun _ => inferInstanceAs (Decidable (_ ∧ _ ∧ _))

/-- **A cell is reached by a wrapped step** exactly if it is a word within the radius, counted
round. -/
theorem exists_step_iff (hradius : (radius : Int) ≤ Word.greatest) (ha : Word.IsWord a) :
    (∃ d ∈ steps radius, Word.wrap (a + d) = b) ↔ Word.IsWord b ∧ ReachedFrom a radius b := by
  simp only [mem_steps (wrap_radius hradius), ReachedFrom]
  constructor
  · rintro ⟨d, hd, rfl⟩
    refine ⟨Word.isWord_wrap _, ?_⟩
    obtain ⟨q, hq⟩ := Word.exists_wrap_eq (a + d)
    obtain ⟨hl, hu⟩ := Word.isWord_wrap (a + d)
    simp only [Word.IsWord, Word.least, Word.greatest] at ha hl hu hradius
    rw [abs_le] at hd ⊢
    rw [le_abs]
    omega
  · rintro ⟨hb, hnear | hfar⟩
    · exact ⟨b - a, hnear, by rw [add_sub_cancel, Word.wrap_eq_self_iff.mpr hb]⟩
    · have hbounds := And.intro ha hb
      simp only [Word.IsWord, Word.least, Word.greatest] at hbounds
      -- the step that goes round the other way
      rcases le_abs.mp hfar with hover | hunder
      · refine ⟨b - a - 0x10000000000000000, ?_, Word.wrap_eq_of_isWord (q := -1) hb (by omega)⟩
        rw [abs_le]
        omega
      · refine ⟨b - a + 0x10000000000000000, ?_, Word.wrap_eq_of_isWord (q := 1) hb (by omega)⟩
        rw [abs_le]
        omega

/-- **The keys that are visited.** -/
theorem mem_block_iff (hradius : (radius : Int) ≤ Word.greatest) (hcenter : center.IsWord) :
    key ∈ center.block radius ↔ key.IsWord ∧ center.IsReached radius key := by
  obtain ⟨x, y, z⟩ := key
  have hx := exists_step_iff (b := x) hradius hcenter.x
  have hy := exists_step_iff (b := y) hradius hcenter.y
  have hz := exists_step_iff (b := z) hradius hcenter.z
  simp only [block_eq, List.mem_map, Prod.exists, List.mem_product, offset_eq_wrap,
    VoxelKey.mk.injEq]
  constructor
  · rintro ⟨dx, dy, dz, ⟨hdx, hdy, hdz⟩, heqx, heqy, heqz⟩
    obtain ⟨hwx, hrx⟩ := hx.mp ⟨dx, hdx, heqx⟩
    obtain ⟨hwy, hry⟩ := hy.mp ⟨dy, hdy, heqy⟩
    obtain ⟨hwz, hrz⟩ := hz.mp ⟨dz, hdz, heqz⟩
    exact ⟨⟨hwx, hwy, hwz⟩, hrx, hry, hrz⟩
  · rintro ⟨⟨hwx, hwy, hwz⟩, hrx, hry, hrz⟩
    obtain ⟨dx, hdx, heqx⟩ := hx.mpr ⟨hwx, hrx⟩
    obtain ⟨dy, hdy, heqy⟩ := hy.mpr ⟨hwy, hry⟩
    obtain ⟨dz, hdz, heqz⟩ := hz.mpr ⟨hwz, hrz⟩
    exact ⟨dx, dy, dz, ⟨hdx, hdy, hdz⟩, heqx, heqy, heqz⟩

/-- Without room along an axis, a word at the other end of it is reached. -/
theorem exists_reachedFrom (hradius : (radius : Int) ≤ Word.greatest) (ha : Word.IsWord a)
    (h : ¬ RoomAt a radius) : ∃ b, Word.IsWord b ∧ ReachedFrom a radius b ∧ ¬ |b - a| ≤ radius := by
  have hends : Word.greatest < a + radius ∨ a - radius < Word.least := by
    rw [RoomAt, not_and_or, not_le, not_le] at h
    exact h.symm
  simp only [Word.IsWord, Word.least, Word.greatest] at ha hends hradius
  rcases hends with hover | hunder
  · refine ⟨a + radius - 0x10000000000000000, ?_, .inr ?_, ?_⟩
    · simp only [Word.IsWord, Word.least, Word.greatest]
      omega
    · rw [le_abs]
      omega
    · rw [abs_le]
      omega
  · refine ⟨a - radius + 0x10000000000000000, ?_, .inr ?_, ?_⟩
    · simp only [Word.IsWord, Word.least, Word.greatest]
      omega
    · rw [le_abs]
      omega
    · rw [abs_le]
      omega

/-- **Without room, the other end is visited.** -/
theorem exists_not_isAround (hradius : (radius : Int) ≤ Word.greatest) (hcenter : center.IsWord)
    (h : ¬ center.HasRoom radius) : ∃ key ∈ center.block radius, ¬ center.IsAround radius key := by
  have hself : ∀ a, ReachedFrom a radius a := fun a => .inl (by simp)
  simp only [mem_block_iff hradius hcenter]
  by_cases hx : RoomAt center.x radius
  · by_cases hy : RoomAt center.y radius
    · obtain ⟨z, hword, hreached, hfar⟩ :=
        exists_reachedFrom hradius hcenter.z fun hz => h ⟨hx, hy, hz⟩
      exact ⟨⟨center.x, center.y, z⟩, ⟨⟨hcenter.x, hcenter.y, hword⟩, hself _, hself _, hreached⟩,
        fun h => hfar h.2.2⟩
    · obtain ⟨y, hword, hreached, hfar⟩ := exists_reachedFrom hradius hcenter.y hy
      exact ⟨⟨center.x, y, center.z⟩, ⟨⟨hcenter.x, hword, hcenter.z⟩, hself _, hreached, hself _⟩,
        fun h => hfar h.2.1⟩
  · obtain ⟨x, hword, hreached, hfar⟩ := exists_reachedFrom hradius hcenter.x hx
    exact ⟨⟨x, center.y, center.z⟩, ⟨⟨hword, hcenter.y, hcenter.z⟩, hreached, hself _, hself _⟩,
      fun h => hfar h.1⟩

/-- A voxel **at the end of the range** along some axis, as is that of every place beyond it. -/
def IsSaturated (key : VoxelKey) : Prop :=
  (key.x = Word.least ∨ key.x = Word.greatest) ∨ (key.y = Word.least ∨ key.y = Word.greatest) ∨
    (key.z = Word.least ∨ key.z = Word.greatest)

/-- At the end of the range there is no room for any step. -/
theorem IsSaturated.not_hasRoom (h : center.IsSaturated) (hradius : 1 ≤ radius) :
    ¬ center.HasRoom radius := by
  have hend : ∀ {a : Int}, a = Word.least ∨ a = Word.greatest → ¬ RoomAt a radius := by
    rintro a ha ⟨hl, hu⟩
    omega
  rintro ⟨hx, hy, hz⟩
  rcases h with h | h | h
  · exact hend h hx
  · exact hend h hy
  · exact hend h hz

end VoxelKey

/-! ### Searches -/

namespace VoxelMap

variable {α : Type} [Scalar α]

/-- **A search with checked sums** finds what a search finds, if it comes to an end. -/
theorem agrees_neighborsBy (m : VoxelMap α) (place : Vec3 α) (radius limit : Nat) :
    Agrees (m.neighborsBy Word.checked place radius limit) (m.neighbors place radius limit) :=
  .bind (.bind (VoxelKey.agrees_blockBy _ radius) fun _ => .pure _) fun _ => .pure _

/-- It does so exactly if the cube of voxels exists. -/
theorem neighborsBy_checked_eq_none_iff {m : VoxelMap α} {place : Vec3 α} {radius limit : Nat} :
    m.neighborsBy Word.checked place radius limit = none ↔
      (m.keyOf place).blockBy Word.checked radius = none := by
  rw [neighborsBy, candidatesBy]
  cases (m.keyOf place).blockBy Word.checked radius with
  | none => exact iff_of_true rfl rfl
  | some keys => exact iff_of_false (Option.some_ne_none _) (Option.some_ne_none _)

/-- **With room the check makes no difference.** -/
theorem neighborsBy_checked (m : VoxelMap α) {place : Vec3 α} {radius : Nat}
    (hroom : (m.keyOf place).HasRoom radius) (limit : Nat) :
    m.neighborsBy Word.checked place radius limit = some (m.neighbors place radius limit) := by
  have hradius : (radius : Int) ≤ Word.greatest :=
    hroom.x.wrap_radius ▸ Word.wrap_le_greatest radius
  refine (m.agrees_neighborsBy place radius limit).eq_some fun hnone => ?_
  exact (VoxelKey.blockBy_checked_ne_none_iff hradius).mpr hroom
    (neighborsBy_checked_eq_none_iff.mp hnone)

/-- **When a search stays within the key space.** In every map that can be reached and for every
place, a search with checked sums has no result exactly if there is no room for the radius, unless
the radius is so far beyond the words that it leaves no steps; a result is that of the search with
sums that go round. That search, for a radius that is a word, sees the points whose keys are reached
over the ends of the range, and all visited keys are around the place exactly if there is room. With
room each voxel of the cube is visited once, and what is found lies in one of them. At the end of
the range there never is room. -/
theorem checked_search_iff_hasRoom {voxelSize : Float} {capacity : Nat}
    {calls : List (MapCall Float)} {answers : List Nat} {m : VoxelMap Float}
    (hrun : Run (empty voxelSize capacity) calls answers m) (place : Vec3 Float) (radius : Nat)
    (hword : radius < 2 ^ 64) :
    let center := m.keyOf place
    (∀ limit, m.neighborsBy Word.checked place radius limit = none ↔
      ¬ (center.HasRoom radius ∨ Word.greatest + 1 < radius)) ∧
    (∀ limit, ∀ found ∈ m.neighborsBy Word.checked place radius limit,
      found = m.neighbors place radius limit) ∧
    (Word.greatest + 1 < radius → m.searched place radius = []) ∧
    (radius ≤ Word.greatest →
      (m.searched place radius).Perm
        (m.points.filter fun p => center.IsReached radius (m.keyOf p)) ∧
      (center.HasRoom radius ↔ ∀ key ∈ center.block radius, center.IsAround radius key)) ∧
    (center.HasRoom radius → (center.block radius).Nodup ∧
      (center.block radius).length = (2 * radius + 1) ^ 3 ∧
      ∀ limit, ∀ p ∈ m.neighbors place radius limit, center.IsAround radius (m.keyOf p)) ∧
    (1 ≤ radius → center.IsSaturated → ¬ center.HasRoom radius) := by
  intro center
  have hcenter : center.IsWord := VoxelKey.isWord_ofPoint _ _
  have hnone : center.blockBy Word.checked radius = none ↔
      ¬ (center.HasRoom radius ∨ Word.greatest + 1 < radius) :=
    (not_iff_comm.mp (VoxelKey.blockBy_checked_ne_none hword)).symm
  obtain ⟨g, h, ht, -, rfl, rfl⟩ := hrun.exists_tidy
  refine ⟨fun limit => neighborsBy_checked_eq_none_iff.trans hnone,
    fun limit => m.agrees_neighborsBy place radius limit, fun hgt => ?_,
    fun hradius => ⟨?_, ?_⟩,
    fun hroom => ⟨VoxelKey.nodup_block center hroom.x.wrap_radius, VoxelKey.length_block hroom,
      fun limit p hp => ?_⟩, fun hpos hsaturated => hsaturated.not_hasRoom hpos⟩
  · rw [searched, VoxelKey.block_eq, VoxelKey.steps_eq_nil hgt hword]
    rfl
  · have hperm := h.candidates_perm_of_nodup ht
      (VoxelKey.nodup_block (m.keyOf place) (VoxelKey.wrap_radius hradius))
    rw [h.map_point_candidates, ← h.searched_eq] at hperm
    refine hperm.trans (.of_eq (List.filter_congr fun p _ => decide_eq_decide.mpr ?_))
    rw [VoxelKey.mem_block_iff hradius hcenter]
    simp only [keyOf, VoxelKey.isWord_ofPoint, true_and]
  · refine ⟨fun hroom key hkey => (VoxelKey.mem_block hroom).mp hkey, fun haround => ?_⟩
    by_contra hroom
    obtain ⟨key, hkey, hnot⟩ := VoxelKey.exists_not_isAround hradius hcenter hroom
    exact hnot (haround key hkey)
  · rw [neighbors_eq_take] at hp
    have hvisited : p ∈ m.searched place radius :=
      (nearestFirst_perm ..).mem_iff.mp (List.mem_of_mem_take hp)
    exact (VoxelKey.mem_block hroom).mp (h.keyOf_mem_block ht hvisited)

/-- A map of one point, beyond the lower end of the range. -/
theorem exists_far : ∃ answers, ∃ m : VoxelMap Float,
    Run (empty 1 5) [.insert [⟨-1e300, 0.5, 0.5⟩] ⟨5, 0⟩] answers m ∧
      (m.keyOf ⟨1e300, 0.5, 0.5⟩ = ⟨Word.greatest, 0, 0⟩ ∧
        m.keyOf ⟨-1e300, 0.5, 0.5⟩ = ⟨Word.least, 0, 0⟩) ∧
      m.searched ⟨1e300, 0.5, 0.5⟩ 1 = [⟨-1e300, 0.5, 0.5⟩] := by
  obtain ⟨answers, m, hrun, hsize, hrepresents⟩ :=
    exists_inserted 1 5 [⟨-1e300, 0.5, 0.5⟩] ⟨5, 0⟩
  refine ⟨answers, m, hrun, ?_, ?_⟩
  · rw [keyOf, keyOf, hsize]
    decide +kernel
  · rw [hrepresents.searched_eq, keyOf, hsize]
    decide +kernel

/-- **A search leaves the range** from a finite place that lies beyond it: with checked sums there
is no result. With sums that go round, one step on is the other end of the key space, and the point
that is found there lies beyond that. -/
theorem neighborsBy_checked_beyond_range :
    let place : Vec3 Float := ⟨1e300, 0.5, 0.5⟩
    let opposite : Vec3 Float := ⟨-1e300, 0.5, 0.5⟩
    place.IsFinite ∧ opposite.IsFinite ∧ ∃ answers, ∃ m : VoxelMap Float,
      Run (empty 1 5) [.insert [opposite] ⟨5, 0⟩] answers m ∧
        m.keyOf place = ⟨Word.greatest, 0, 0⟩ ∧ m.keyOf opposite = ⟨Word.least, 0, 0⟩ ∧
        m.neighborsBy Word.checked place 1 1 = none ∧
        (m.keyOf place).offset 1 0 0 = m.keyOf opposite ∧ m.neighbors place 1 1 = [opposite] := by
  intro place opposite
  obtain ⟨answers, m, hrun, ⟨hplace, hopposite⟩, hsearched⟩ := exists_far
  refine ⟨⟨by decide +kernel, by decide +kernel, by decide +kernel⟩,
    ⟨by decide +kernel, by decide +kernel, by decide +kernel⟩, answers, m, hrun, hplace,
    hopposite, ?_, ?_, ?_⟩
  · rw [neighborsBy_checked_eq_none_iff, hplace]
    decide
  · rw [hplace, hopposite]
    decide
  · rw [neighbors_eq_take, hsearched]
    decide +kernel

/-- At the end of the range one step is too many: with checked sums there is no result, and with
sums that go round the search visits the other end. -/
theorem checked_search_iff_hasRoom_far : ∃ answers, ∃ m : VoxelMap Float,
    Run (empty 1 5) [.insert [⟨-1e300, 0.5, 0.5⟩] ⟨5, 0⟩] answers m ∧ 1 < 2 ^ 64 ∧
      m.neighborsBy Word.checked ⟨1e300, 0.5, 0.5⟩ 1 1 = none ∧
      ∃ key ∈ (m.keyOf ⟨1e300, 0.5, 0.5⟩).block 1,
        ¬ (m.keyOf ⟨1e300, 0.5, 0.5⟩).IsAround 1 key := by
  obtain ⟨answers, m, hrun, ⟨hplace, -⟩, -⟩ := exists_far
  obtain ⟨hnone, -, -, hvisited, -, hsaturated⟩ :=
    checked_search_iff_hasRoom hrun ⟨1e300, 0.5, 0.5⟩ 1 (by decide)
  have hroom := hsaturated le_rfl (hplace ▸ .inl (.inr rfl))
  obtain ⟨-, hiff⟩ := hvisited (by decide)
  refine ⟨answers, m, hrun, by decide, (hnone 1).mpr ?_, ?_⟩
  · rintro (h | hgt)
    · exact hroom h
    · exact absurd hgt (by decide)
  · by_contra hall
    push Not at hall
    exact hroom (hiff.mpr hall)

end VoxelMap

end LidarOdometry
