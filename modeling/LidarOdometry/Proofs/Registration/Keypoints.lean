import LidarOdometry.Proofs.Registration.Schedule
import LidarOdometry.Proofs.Registration.Allowance
import LidarOdometry.Proofs.Scan.Density
import LidarOdometry.Proofs.Scan.Motion

/-!
# Keypoints from Attempt to Attempt

From one attempt to the next the voxels that keypoints are drawn by shrink by a third, down to those
by which the scan was thinned. Keypoints are meant to become denser that way, but the grids of two
attempts do not nest, and a retry can draw fewer of them. It can lose seven keypoints out of eight,
and no more.

Whether a retry can lose keypoints depends on the sizes alone. It cannot if the voxels have stopped
shrinking. If the scan is a thinned one, it cannot either once the voxels are those by which it was
thinned, since then every point is a keypoint. In all other cases there is a scan whose retry does.

## Main definitions

* `Attempt.shrunk`: the closed form of sizes.
* `Registrar.drawn`: the keypoints that a registration draws, attempt by attempt.
* `OdometryOptions.DrawsNoFewer`: retries that do not lose keypoints.

## Main results

* `Registrar.keypoints_succ_eq`, `Registrar.length_keypoints_le`: retries without a loss.
* `Registrar.length_keypoints_le_mul`: the most that is lost.
* `Registrar.exists_drawn_fewer`: retries with the greatest loss.
* `OdometryOptions.drawsNoFewer_iff`: which retries never draw fewer keypoints.
-/

namespace LidarOdometry

/-! ### Sizes -/

namespace Attempt

/-- **A size shrunk `k` times** by a third, down to `least`. -/
noncomputable def shrunk (start least : ℝ) (k : ℕ) : ℝ :=
  max (start / 1.5 ^ k) (min least start)

variable {start least : ℝ} {k : ℕ}

/-- A positive size stays positive. -/
theorem shrunk_pos (hstart : 0 < start) : 0 < shrunk start least k :=
  lt_max_of_lt_left (by positivity)

/-- A size is divided at each step. -/
theorem div_pow_succ (start : ℝ) (k : ℕ) : start / 1.5 ^ (k + 1) = start / 1.5 ^ k / 1.5 := by
  rw [pow_succ, div_div]

/-- One division more makes no size larger. -/
theorem div_pow_succ_le (hstart : 0 < start) (k : ℕ) :
    start / 1.5 ^ (k + 1) ≤ start / 1.5 ^ k := by
  rw [div_pow_succ]
  exact div_le_self (by positivity) (by norm_num)

/-- No number of divisions makes a size larger. -/
theorem div_pow_le (hstart : 0 < start) (k : ℕ) : start / 1.5 ^ k ≤ start :=
  div_le_self hstart.le (one_le_pow₀ (by norm_num))

/-- Sizes never grow from one attempt to the next. -/
theorem shrunk_succ_le (hstart : 0 < start) : shrunk start least (k + 1) ≤ shrunk start least k :=
  max_le_max_right _ (div_pow_succ_le hstart k)

/-- A size loses no more than half of what is left of it. -/
theorem shrunk_le_mul (hstart : 0 < start) (hleast : 0 < least) :
    shrunk start least k ≤ 1.5 * shrunk start least (k + 1) := by
  have hbound : 0 < min least start := lt_min hleast hstart
  refine max_le ?_ ?_
  · have hdivided : start / 1.5 ^ k = 1.5 * (start / 1.5 ^ (k + 1)) := by
      rw [div_pow_succ, mul_div_cancel₀ _ (by norm_num)]
    rw [hdivided]
    exact mul_le_mul_of_nonneg_left (le_max_left _ _) (by norm_num)
  · have hle : min least start ≤ shrunk start least (k + 1) := le_max_right _ _
    linarith

/-- What has reached its bound stays there. -/
theorem shrunk_of_le (hstart : 0 < start) (h : start / 1.5 ^ k ≤ least) :
    shrunk start least k = min least start :=
  max_eq_right (le_min h (div_pow_le hstart k))

/-- What has not reached it is divided. -/
theorem shrunk_of_lt (h : least < start / 1.5 ^ k) : shrunk start least k = start / 1.5 ^ k :=
  max_eq_left ((min_le_left _ _).trans h.le)

/-- Before the bound is reached sizes do shrink. -/
theorem shrunk_succ_lt (hstart : 0 < start) (h : least < start / 1.5 ^ k) :
    shrunk start least (k + 1) < shrunk start least k := by
  rw [shrunk_of_lt h]
  refine max_lt ?_ ((min_le_left _ _).trans_lt h)
  rw [div_pow_succ]
  exact div_lt_self (by positivity) (by norm_num)

end Attempt

namespace Registrar

/-! ### The keypoints of an attempt -/

section Keypoints

variable {σ : Type} {r : Registrar σ ℝ} {scan : Scan ℝ} {i : ℕ}

/-- **Keypoints are first points** by voxels of the shrunk size. -/
theorem keypoints_eq_firsts (r : Registrar σ ℝ) (scan : Scan ℝ) (hkeypoint : 0 < scan.keypointSize)
    (hthinning : 0 < scan.thinningSize) (i : ℕ) : r.keypoints scan i =
      ScanPoint.firsts (Attempt.shrunk scan.keypointSize scan.thinningSize i) (r.undone scan) := by
  rw [keypoints, Sampler.thin_eq_firsts, parameters_eq_schedule r hkeypoint hthinning]
  rfl

variable (hkeypoint : 0 < scan.keypointSize) (hthinning : 0 < scan.thinningSize)
include hkeypoint hthinning

/-- **No more than seven keypoints of eight are lost.** -/
theorem length_keypoints_le_mul (r : Registrar σ ℝ) (i : ℕ) :
    (r.keypoints scan i).length ≤ 8 * (r.keypoints scan (i + 1)).length := by
  rw [keypoints_eq_firsts r scan hkeypoint hthinning,
    keypoints_eq_firsts r scan hkeypoint hthinning]
  exact ScanPoint.length_firsts_le_mul (Attempt.shrunk_pos hkeypoint)
    (Attempt.shrunk_succ_le hkeypoint) _

/-- **Voxels that have stopped shrinking** draw the same keypoints. -/
theorem keypoints_succ_eq (r : Registrar σ ℝ)
    (h : scan.keypointSize / 1.5 ^ i ≤ scan.thinningSize) :
    r.keypoints scan (i + 1) = r.keypoints scan i := by
  have hnext := (Attempt.div_pow_succ_le hkeypoint i).trans h
  rw [keypoints_eq_firsts r scan hkeypoint hthinning,
    keypoints_eq_firsts r scan hkeypoint hthinning, Attempt.shrunk_of_le hkeypoint h,
    Attempt.shrunk_of_le hkeypoint hnext]

/-- **Voxels by which the scan was thinned** draw all its points, so no keypoint is lost on the way
to them. -/
theorem length_keypoints_le (h : scan.keypointSize / 1.5 ^ (i + 1) ≤ scan.thinningSize)
    (hthinned : Sampler.thin scan.thinningSize (r.undone scan) = r.undone scan) :
    (r.keypoints scan i).length ≤ (r.keypoints scan (i + 1)).length := by
  rcases le_total scan.keypointSize scan.thinningSize with hfine | hcoarse
  · -- the voxels were never larger than those by which the scan was thinned
    rw [keypoints_succ_eq hkeypoint hthinning r ((Attempt.div_pow_le hkeypoint i).trans hfine)]
  · have hall : r.keypoints scan (i + 1) = r.undone scan := by
      rw [keypoints_eq_firsts r scan hkeypoint hthinning, Attempt.shrunk_of_le hkeypoint h,
        min_eq_left hcoarse, ← Sampler.thin_eq_firsts, hthinned]
    rw [hall]
    exact Sampler.length_thin_le _ _

end Keypoints

/-! ### The keypoints of a registration -/

section Drawn

variable {σ α : Type} [Scalar α]

/-- **The keypoints that a registration draws**, attempt by attempt: those that the solver is asked
about. -/
def drawn (r : Registrar σ α) (scan : Scan α) (session : Session σ) : List (List (ScanPoint α)) :=
  (r.asked scan session).map fun question => question.1.keypoints

/-- What is drawn in an attempt does not depend on the answers before it. -/
theorem eq_keypoints_of_drawn {r : Registrar σ α} (hattempts : 0 < r.options.maxAttempts)
    {scan : Scan α} {session : Session σ} {i : ℕ} {points : List (ScanPoint α)}
    (h : (r.drawn scan session)[i]? = some points) : points = r.keypoints scan i := by
  by_cases hpoints : scan.points = []
  · rw [drawn, asked_of_nil hpoints] at h
    cases h
  cases hprevious : scan.previous with
  | none =>
      rw [drawn, asked_of_first hpoints hprevious] at h
      cases h
  | some previous =>
      obtain ⟨last, -, -, hasked⟩ := register_asks hpoints hprevious hattempts session
      rw [drawn, hasked, List.map_map, List.getElem?_map, Option.map_eq_some_iff] at h
      obtain ⟨j, hj, rfl⟩ := h
      obtain ⟨_, rfl⟩ := List.getElem?_eq_some_iff.mp hj
      rw [List.getElem_range]
      rfl

/-- With a solver that always fails, keypoints are drawn for all attempts. -/
theorem drawn_failing {options : OdometryOptions α} (hrobust : options.robust = true)
    (hattempts : 0 < options.maxAttempts) {scan : Scan α} {previous : ScanMotion α}
    (hpoints : scan.points ≠ []) (hprevious : scan.previous = some previous)
    (session : Session Unit) : (failing options).drawn scan session =
      (List.range options.maxAttempts).map ((failing options).keypoints scan) := by
  obtain ⟨last, hstops, -, hasked⟩ := register_asks (r := failing options) hpoints hprevious
    hattempts session
  have hlast : last + 1 = options.maxAttempts := hstops.of_failing.trans (if_pos hrobust)
  rw [drawn, hasked, hlast, List.map_map]
  rfl

end Drawn

/-- A guess at rest leaves the points where they are, in every mode. -/
theorem undone_of_guess_identity {σ : Type} (r : Registrar σ ℝ) {scan : Scan ℝ}
    (hguess : scan.guess = .identity) : r.undone scan = scan.points := by
  rw [undone, hguess]
  split
  · exact ScanMotion.settle_of_start_eq ⟨Pose.isRigid_identity, Pose.isRigid_identity⟩ rfl _
  · rfl

/-- With a solver that always fails and a guess at rest, first points are drawn for all attempts. -/
theorem drawn_failing_of_guess_identity {options : OdometryOptions ℝ}
    (hrobust : options.robust = true) (hattempts : 0 < options.maxAttempts) {scan : Scan ℝ}
    {previous : ScanMotion ℝ} (hpoints : scan.points ≠ [])
    (hprevious : scan.previous = some previous) (hguess : scan.guess = .identity)
    (hkeypoint : 0 < scan.keypointSize) (hthinning : 0 < scan.thinningSize)
    (session : Session Unit) :
    (failing options).drawn scan session = (List.range options.maxAttempts).map fun j =>
      ScanPoint.firsts (Attempt.shrunk scan.keypointSize scan.thinningSize j) scan.points := by
  rw [drawn_failing hrobust hattempts hpoints hprevious]
  refine List.map_congr_left fun j _ => ?_
  rw [keypoints_eq_firsts _ scan hkeypoint hthinning, undone_of_guess_identity _ hguess]

/-- **A retry with the greatest loss**: as long as the voxels shrink, there is a scan of eight
keypoints of which the retry draws one. Its points may be as far apart as any size below that of
the retry. -/
theorem exists_drawn_fewer {options : OdometryOptions ℝ} (hrobust : options.robust = true)
    {keypointSize thinningSize gap : ℝ} (hkeypoint : 0 < keypointSize)
    (hthinning : 0 < thinningSize) {i : ℕ} (hi : i + 1 < options.maxAttempts)
    (hshrinks : thinningSize < keypointSize / 1.5 ^ i)
    (hgap : gap < Attempt.shrunk keypointSize thinningSize (i + 1)) :
    ∃ scan : Scan ℝ, scan.keypointSize = keypointSize ∧ scan.thinningSize = thinningSize ∧
      (0 < gap → Sampler.thin gap ((failing options).undone scan) =
        (failing options).undone scan) ∧
      ∃ points points', ((failing options).drawn scan ⟨(), .fresh⟩)[i]? = some points ∧
        ((failing options).drawn scan ⟨(), .fresh⟩)[i + 1]? = some points' ∧
        points.length = 8 ∧ points'.length = 1 := by
  have hpos : 0 < Attempt.shrunk keypointSize thinningSize (i + 1) := Attempt.shrunk_pos hkeypoint
  have hhalf : Attempt.shrunk keypointSize thinningSize i <
      2 * Attempt.shrunk keypointSize thinningSize (i + 1) := by
    have hmul := Attempt.shrunk_le_mul (k := i) hkeypoint hthinning
    linarith
  obtain ⟨points, height, hone, hthinned⟩ := ScanPoint.exists_length_firsts_lt hgap hpos
    (Attempt.shrunk_succ_lt hkeypoint hshrinks) hhalf
  let scan : Scan ℝ := ⟨points, .identity, some .identity, 1, thinningSize, keypointSize⟩
  have hpoints : scan.points ≠ [] := fun hnil => by
    have hnone : points = [] := hnil
    rw [hnone] at height
    cases height
  have hundone : (failing options).undone scan = points := undone_of_guess_identity _ rfl
  have hdrawn : ∀ j < options.maxAttempts, ((failing options).drawn scan ⟨(), .fresh⟩)[j]? =
      some (ScanPoint.firsts (Attempt.shrunk keypointSize thinningSize j) points) := by
    intro j hj
    rw [drawn_failing_of_guess_identity hrobust (Nat.zero_lt_of_lt hi) hpoints rfl rfl hkeypoint
      hthinning, List.getElem?_map, List.getElem?_range hj, Option.map_some]
  refine ⟨scan, rfl, rfl, fun hgap => ?_, _, _, hdrawn i (Nat.lt_of_succ_lt hi), hdrawn (i + 1) hi,
    height, hone⟩
  rw [hundone, Sampler.thin_eq_firsts]
  exact hthinned hgap

end Registrar

/-! ### Retries -/

namespace OdometryOptions

/-- **A retry draws no fewer keypoints** than attempt `i`, which it follows, however a scan with
the given sizes is registered under these options, if its points are as `Thinned` says. -/
def DrawsNoFewer (options : OdometryOptions ℝ) (keypointSize thinningSize : ℝ) (i : ℕ)
    (Thinned : List (ScanPoint ℝ) → Prop) : Prop :=
  ∀ (σ : Type) (r : Registrar σ ℝ) (scan : Scan ℝ) (session : Session σ),
    r.options = options → scan.keypointSize = keypointSize → scan.thinningSize = thinningSize →
    Thinned (r.undone scan) → ∀ points points', (r.drawn scan session)[i]? = some points →
      (r.drawn scan session)[i + 1]? = some points' → points.length ≤ points'.length

/-- **Retries can draw fewer keypoints**, but never less than an eighth. Let registration be robust
under valid options. Then a retry has at least an eighth of the keypoints of the attempt before it.
It never has fewer keypoints, whatever the scan is, exactly if the voxels had shrunk to the size of
thinning in the attempt before it; and of scans that are thinned it never has fewer exactly if they
shrink to that size in the retry. -/
theorem drawsNoFewer_iff {options : OdometryOptions ℝ} (hvalid : options.validate = .ok ())
    (hrobust : options.robust = true) {keypointSize thinningSize : ℝ}
    (hkeypoint : 0 < keypointSize) (hthinning : 0 < thinningSize) {i : ℕ}
    (hi : i + 1 < options.maxAttempts) :
    (∀ (σ : Type) (r : Registrar σ ℝ) (scan : Scan ℝ) (session : Session σ),
      r.options = options → scan.keypointSize = keypointSize → scan.thinningSize = thinningSize →
      ∀ points points', (r.drawn scan session)[i]? = some points →
        (r.drawn scan session)[i + 1]? = some points' → points.length ≤ 8 * points'.length) ∧
    (options.DrawsNoFewer keypointSize thinningSize i (fun _ => True) ↔
      keypointSize / 1.5 ^ i ≤ thinningSize) ∧
    (options.DrawsNoFewer keypointSize thinningSize i
        (fun points => Sampler.thin thinningSize points = points) ↔
      keypointSize / 1.5 ^ (i + 1) ≤ thinningSize) := by
  have hattempts : 0 < options.maxAttempts :=
    Nat.pos_of_ne_zero (validate_eq_ok_iff.mp hvalid).maxAttempts
  refine ⟨?_, ⟨fun h => ?_, ?_⟩, ⟨fun h => ?_, ?_⟩⟩
  · rintro σ r scan session rfl rfl rfl points points' hpoints hpoints'
    rw [Registrar.eq_keypoints_of_drawn hattempts hpoints,
      Registrar.eq_keypoints_of_drawn hattempts hpoints']
    exact Registrar.length_keypoints_le_mul hkeypoint hthinning r i
  · by_contra hlt
    obtain ⟨scan, hsize, hthin, -, points, points', hpoints, hpoints', height, hone⟩ :=
      Registrar.exists_drawn_fewer hrobust hkeypoint hthinning hi (not_le.mp hlt)
        (Attempt.shrunk_pos hkeypoint)
    have hle := h Unit (.failing options) scan ⟨(), .fresh⟩ rfl hsize hthin trivial points points'
      hpoints hpoints'
    omega
  · rintro hle σ r scan session rfl rfl rfl - points points' hpoints hpoints'
    rw [Registrar.eq_keypoints_of_drawn hattempts hpoints,
      Registrar.eq_keypoints_of_drawn hattempts hpoints',
      Registrar.keypoints_succ_eq hkeypoint hthinning r hle]
  · by_contra hlt
    have hlt := not_le.mp hlt
    -- the corners may lie so far apart that the scan is as if thinned already
    have hgap : thinningSize < Attempt.shrunk keypointSize thinningSize (i + 1) := by
      rw [Attempt.shrunk_of_lt hlt]
      exact hlt
    obtain ⟨scan, hsize, hthin, hthinned, points, points', hpoints, hpoints', height, hone⟩ :=
      Registrar.exists_drawn_fewer hrobust hkeypoint hthinning hi
        (hlt.trans_le (Attempt.div_pow_succ_le hkeypoint i)) hgap
    have hle := h Unit (.failing options) scan ⟨(), .fresh⟩ rfl hsize hthin (hthinned hthinning)
      points points' hpoints hpoints'
    omega
  · rintro hle σ r scan session rfl rfl rfl hthinned points points' hpoints hpoints'
    rw [Registrar.eq_keypoints_of_drawn hattempts hpoints,
      Registrar.eq_keypoints_of_drawn hattempts hpoints']
    exact Registrar.length_keypoints_le hkeypoint hthinning hle hthinned

/-- In the slow outdoor profile the first retry can draw fewer keypoints than the attempt before
it. The second one cannot, if the scan is thinned. -/
theorem drawsNoFewer_iff_slow_outdoor :
    let Thinned : List (ScanPoint ℝ) → Prop := fun points => Sampler.thin 0.8 points = points
    ¬ (slowOutdoor : OdometryOptions ℝ).DrawsNoFewer 1.5 0.8 0 Thinned ∧
      (slowOutdoor : OdometryOptions ℝ).DrawsNoFewer 1.5 0.8 1 Thinned := by
  intro Thinned
  have hvalid : (slowOutdoor : OdometryOptions ℝ).validate = .ok () :=
    validate_eq_ok_iff.mpr (valid_ofProfile .slowOutdoor)
  obtain ⟨-, -, hfirst⟩ := drawsNoFewer_iff hvalid rfl (by norm_num : (0 : ℝ) < 1.5)
    (by norm_num : (0 : ℝ) < 0.8) (by decide : 0 + 1 < 10)
  obtain ⟨-, -, hsecond⟩ := drawsNoFewer_iff hvalid rfl (by norm_num : (0 : ℝ) < 1.5)
    (by norm_num : (0 : ℝ) < 0.8) (by decide : 1 + 1 < 10)
  refine ⟨?_, ?_⟩
  · rw [hfirst]
    norm_num
  · rw [hsecond]
    norm_num

/-- **A retry that draws fewer keypoints**: two points in the same cell of length one, on the two
sides of a cell boundary at one and a half. -/
theorem not_drawsNoFewer_across_boundary :
    let options : OdometryOptions ℝ := { driving with robust := true, maxAttempts := 2 }
    let scan : Scan ℝ := ⟨[.untimed ⟨1.25, 0.25, 0.25⟩, .untimed ⟨1.75, 0.25, 0.25⟩], .identity,
      some .identity, 1, 0.5, 1.5⟩
    options.validate = .ok () ∧ Sampler.thin scan.thinningSize scan.points = scan.points ∧
      ((Registrar.failing options).drawn scan ⟨(), .fresh⟩).map List.length = [2, 1] := by
  intro options scan
  have hpreset := valid_ofProfile .driving
  have hvalid : options.validate = .ok () :=
    validate_eq_ok_iff.mpr { hpreset with maxAttempts := two_ne_zero }
  have hapart : ∀ size : ℝ, ⌊1.25 / size⌋ ≠ ⌊1.75 / size⌋ →
      ScanPoint.firsts size scan.points = scan.points := fun size h => by
    rw [ScanPoint.firsts_eq_self_iff]
    simp [scan, ScanPoint.voxel, ScanPoint.untimed, ScanPoint.sampled, VoxelKey.ofPoint,
      Scalar.floor_real, h]
  have htogether : (ScanPoint.firsts 1 scan.points).length = 1 := by
    have hnear : ⌊(1.25 : ℝ)⌋ = 1 := by norm_num
    have hfar : ⌊(1.75 : ℝ)⌋ = 1 := by norm_num
    rw [ScanPoint.length_firsts_eq_card]
    simp [scan, ScanPoint.voxel, ScanPoint.untimed, ScanPoint.sampled, VoxelKey.ofPoint,
      Scalar.floor_real, hnear, hfar]
  have hkeypoint : 0 < scan.keypointSize := by norm_num [scan]
  have hthinning : 0 < scan.thinningSize := by norm_num [scan]
  have hfirst : Attempt.shrunk scan.keypointSize scan.thinningSize 0 = 1.5 := by
    norm_num [Attempt.shrunk, scan]
  have hretry : Attempt.shrunk scan.keypointSize scan.thinningSize 1 = 1 := by
    norm_num [Attempt.shrunk, scan]
  have hattempts : List.range options.maxAttempts = [0, 1] := rfl
  refine ⟨hvalid, ?_, ?_⟩
  · rw [Sampler.thin_eq_firsts]
    exact hapart _ (by norm_num [scan])
  · rw [Registrar.drawn_failing_of_guess_identity rfl two_pos (List.cons_ne_nil _ _) rfl rfl
      hkeypoint hthinning, hattempts, List.map_map]
    simp only [List.map_cons, List.map_nil, Function.comp_apply, hfirst, hretry, htogether]
    rw [hapart _ (by norm_num)]
    rfl

end OdometryOptions

end LidarOdometry
