import LidarOdometry.Proofs.Numeric.Exact
import LidarOdometry.Registration.Prediction

/-!
# Times and Phases

The times of a scan are read twice: once to normalize the phases of its points, and once more for
the times of the predicted motion. Two folds go through the points for that, each in its own way.
Over the reals both find the *reach* of the scan, its least and its greatest time, which the set of
all times determines; so neither the way of reading nor the order of the points shows.

The phase of a point is where its time lies within the reach, as a fraction. Everything else about
phases is said of that fraction: it does not notice a change of clock, and it is read off times
alone, so that to normalize once more changes nothing.

## Main definitions

* `ScanPoint.Reaches`: the least and the greatest time of a scan.
* `ScanPoint.phaseOf`: a time as a fraction of the reach.
* `ScanPoint.IsPhased`: a point before and after its phase is normalized.
* `ScanPoint.clocked`: a point on another clock.

## Main results

* `ScanPoint.exists_timeRange?_eq`, `ScanPoint.exists_interval?_eq`: both folds find the reach.
* `ScanPoint.Reaches.normalizePhases_eq`: normal phases are fractions of the reach.
* `Initialization.times_agree_with_phases`: the predicted motion has the times that the phases
  refer to.
-/

namespace LidarOdometry

namespace ScanPoint

variable {points points' : List (ScanPoint ℝ)} {p : ScanPoint ℝ}
  {earliest latest earliest' latest' t t' : ℝ}

/-! ### The reach of a scan -/

/-- **A scan reaches** from its least time to its greatest one: no time lies outside, and both are
times of points. -/
structure Reaches (points : List (ScanPoint ℝ)) (earliest latest : ℝ) : Prop where
  isLeast : IsLeast {t | t ∈ points.map time} earliest
  isGreatest : IsGreatest {t | t ∈ points.map time} latest

namespace Reaches

/-- The reach is unique. -/
theorem unique (h : Reaches points earliest latest) (h' : Reaches points earliest' latest') :
    (earliest, latest) = (earliest', latest') :=
  Prod.ext (h.isLeast.unique h'.isLeast) (h.isGreatest.unique h'.isGreatest)

/-- Only the times matter, not their order. -/
theorem of_perm (h : Reaches points earliest latest) (hperm : points'.Perm points) :
    Reaches points' earliest latest := by
  have hsame : {t | t ∈ points'.map time} = {t | t ∈ points.map time} :=
    Set.ext fun t => (hperm.map time).mem_iff
  exact ⟨hsame ▸ h.isLeast, hsame ▸ h.isGreatest⟩

/-- No point is earlier than the lower bound. -/
theorem earliest_le (h : Reaches points earliest latest) (hp : p ∈ points) : earliest ≤ p.time :=
  h.isLeast.2 (List.mem_map_of_mem hp)

/-- No point is later than the upper bound. -/
theorem le_latest (h : Reaches points earliest latest) (hp : p ∈ points) : p.time ≤ latest :=
  h.isGreatest.2 (List.mem_map_of_mem hp)

/-- A single point is both bounds. -/
theorem singleton (p : ScanPoint ℝ) : Reaches [p] p.time p.time := by
  have hsame : {t | t ∈ [p].map time} = {p.time} := Set.ext fun t => List.mem_singleton
  exact ⟨hsame ▸ isLeast_singleton, hsame ▸ isGreatest_singleton⟩

/-- One point more. -/
theorem concat (h : Reaches points earliest latest) (p : ScanPoint ℝ) :
    Reaches (points ++ [p]) (min p.time earliest) (max p.time latest) := by
  have hsame : {t | t ∈ (points ++ [p]).map time} = insert p.time {t | t ∈ points.map time} := by
    ext t
    simp [or_comm]
  exact ⟨hsame ▸ h.isLeast.insert p.time, hsame ▸ h.isGreatest.insert p.time⟩

end Reaches

/-- **The range of times is the reach.** The induction adds points at the end, where the fold goes
on from what it has found so far. -/
theorem exists_timeRange?_eq (hpoints : points ≠ []) :
    ∃ earliest latest, timeRange? points = some (earliest, latest) ∧
      Reaches points earliest latest := by
  obtain ⟨first, ps, rfl⟩ := List.exists_cons_of_ne_nil hpoints
  induction ps using List.reverseRecOn with
  | nil => exact ⟨_, _, rfl, .singleton first⟩
  | append_singleton ps p ih =>
      obtain ⟨earliest, latest, hrange, hreach⟩ := ih (List.cons_ne_nil _ _)
      refine ⟨_, _, ?_, hreach.concat p⟩
      rw [timeRange?, List.map_cons, Scalar.range?, Option.some.injEq] at hrange
      rw [timeRange?, List.map_cons, Scalar.range?, List.map_append, List.foldl_append, hrange,
        List.map_singleton, List.foldl_cons, List.foldl_nil, Scalar.min_real, Scalar.max_real,
        min_comm, max_comm]

/-- **The interval of times is the reach.** -/
theorem exists_interval?_eq (hpoints : points ≠ []) :
    ∃ earliest latest, interval? points = some (earliest, latest) ∧
      Reaches points earliest latest := by
  obtain ⟨first, ps, rfl⟩ := List.exists_cons_of_ne_nil hpoints
  induction ps using List.reverseRecOn with
  | nil => exact ⟨_, _, rfl, .singleton first⟩
  | append_singleton ps p ih =>
      obtain ⟨earliest, latest, hinterval, hreach⟩ := ih (List.cons_ne_nil _ _)
      refine ⟨_, _, ?_, hreach.concat p⟩
      rw [interval?] at hinterval
      rw [interval?, ← List.cons_append, List.foldl_append, hinterval, List.foldl_cons,
        List.foldl_nil, ← Scalar.min_real, ← Scalar.max_real]

/-! ### Fractions of the reach -/

/-- **A time as a fraction of the reach**, `1` if the reach is a single time. -/
noncomputable def phaseOf (earliest latest t : ℝ) : ℝ :=
  if 0 < latest - earliest then (t - earliest) / (latest - earliest) else 1

/-- No phase is negative. -/
theorem phaseOf_nonneg (h : earliest ≤ t) : 0 ≤ phaseOf earliest latest t := by
  rw [phaseOf]
  split
  · next hreach => exact div_nonneg (sub_nonneg.mpr h) hreach.le
  · exact zero_le_one

/-- No phase exceeds one. -/
theorem phaseOf_le_one (h : t ≤ latest) : phaseOf earliest latest t ≤ 1 := by
  rw [phaseOf]
  split
  · next hreach => exact (div_le_one hreach).mpr (sub_le_sub_right h earliest)
  · exact le_rfl

/-- A later time has no earlier phase. -/
theorem phaseOf_mono (h : t ≤ t') : phaseOf earliest latest t ≤ phaseOf earliest latest t' := by
  rw [phaseOf, phaseOf]
  split
  · next hreach => exact div_le_div_of_nonneg_right (sub_le_sub_right h earliest) hreach.le
  · exact le_rfl

/-- The earliest time has phase zero, if there are two times. -/
theorem phaseOf_earliest (h : earliest < latest) : phaseOf earliest latest earliest = 0 := by
  rw [phaseOf, if_pos (sub_pos.mpr h), sub_self, zero_div]

/-- The latest time has phase one. -/
theorem phaseOf_latest (earliest latest : ℝ) : phaseOf earliest latest latest = 1 := by
  rw [phaseOf]
  split
  · next hreach => exact div_self hreach.ne'
  · rfl

/-- **The fraction leads back to the time.** -/
theorem eq_add_phaseOf_mul (hl : earliest ≤ t) (hu : t ≤ latest) :
    t = earliest + phaseOf earliest latest t * (latest - earliest) := by
  rw [phaseOf]
  split
  · next hreach =>
      rw [div_mul_cancel₀ _ hreach.ne']
      ring
  · linarith

/-- **Another clock**, set and running differently, shows the same fraction. -/
theorem phaseOf_add_mul {scale : ℝ} (hscale : 0 < scale) (shift earliest latest t : ℝ) :
    phaseOf (shift + scale * earliest) (shift + scale * latest) (shift + scale * t) =
      phaseOf earliest latest t := by
  have hsub : ∀ a b : ℝ, shift + scale * a - (shift + scale * b) = scale * (a - b) :=
    fun a b => by ring
  simp only [phaseOf, hsub, mul_pos_iff_of_pos_left hscale, mul_div_mul_left _ _ hscale.ne']

/-! ### Normal phases -/

/-- **A point with its phase**: where its time lies between the earliest and the latest one, as a
fraction. Nothing else about the point has changed. -/
structure IsPhased (earliest latest : ℝ) (p q : ScanPoint ℝ) : Prop where
  raw_eq : q.raw = p.raw
  world_eq : q.world = p.world
  time_eq : q.time = p.time
  phase_nonneg : 0 ≤ q.phase
  phase_le_one : q.phase ≤ 1
  time_eq_add : q.time = earliest + q.phase * (latest - earliest)

/-- The point on another clock. -/
def clocked (shift scale : ℝ) (p : ScanPoint ℝ) : ScanPoint ℝ :=
  { p with time := shift + scale * p.time }

namespace Reaches

/-- **Normal phases are fractions of the reach.** -/
theorem normalizePhases_eq (h : Reaches points earliest latest) :
    normalizePhases points =
      points.map fun p => { p with phase := phaseOf earliest latest p.time } := by
  have hpoints : points ≠ [] := by
    rintro rfl
    exact absurd h.isLeast.1 List.not_mem_nil
  obtain ⟨_, _, hrange, hreach⟩ := exists_timeRange?_eq hpoints
  obtain ⟨rfl, rfl⟩ := Prod.mk.inj (h.unique hreach)
  rw [normalizePhases, hrange]
  rfl

/-- The phase of a normalized point is that of its time. -/
theorem phase_eq_of_mem (h : Reaches points earliest latest) {q : ScanPoint ℝ}
    (hq : q ∈ normalizePhases points) : q.phase = phaseOf earliest latest q.time := by
  rw [h.normalizePhases_eq] at hq
  obtain ⟨p, -, rfl⟩ := List.mem_map.mp hq
  rfl

/-- Normalized points have the times of the scan. -/
theorem normalized (h : Reaches points earliest latest) :
    Reaches (normalizePhases points) earliest latest := by
  have hsame : (normalizePhases points).map time = points.map time := by
    rw [h.normalizePhases_eq, List.map_map]
    rfl
  exact ⟨hsame ▸ h.isLeast, hsame ▸ h.isGreatest⟩

/-- **Every point gets its phase**, and keeps all else. -/
theorem isPhased (h : Reaches points earliest latest) :
    List.Forall₂ (IsPhased earliest latest) points (normalizePhases points) := by
  rw [h.normalizePhases_eq, List.forall₂_map_right_iff, List.forall₂_same]
  intro p hp
  have hl : earliest ≤ p.time := h.earliest_le hp
  have hu : p.time ≤ latest := h.le_latest hp
  exact ⟨rfl, rfl, rfl, phaseOf_nonneg hl, phaseOf_le_one hu, eq_add_phaseOf_mul hl hu⟩

/-- The reach is a single time only if all times coincide. -/
theorem lt_of_ne (h : Reaches points earliest latest) {p p' : ScanPoint ℝ} (hp : p ∈ points)
    (hp' : p' ∈ points) (hne : p.time ≠ p'.time) : earliest < latest := by
  refine lt_of_le_of_ne ((h.earliest_le hp).trans (h.le_latest hp)) fun heq => hne ?_
  exact le_antisymm ((h.le_latest hp).trans (heq ▸ h.earliest_le hp'))
    ((h.le_latest hp').trans (heq ▸ h.earliest_le hp))

/-- On another clock the reach is another one. -/
theorem map_clocked (h : Reaches points earliest latest) {scale : ℝ} (hscale : 0 < scale)
    (shift : ℝ) : Reaches (points.map (clocked shift scale)) (shift + scale * earliest)
      (shift + scale * latest) := by
  have hmono : Monotone fun t : ℝ => shift + scale * t := fun a b hab =>
    add_le_add_right (mul_le_mul_of_nonneg_left hab hscale.le) shift
  have hsame : {t | t ∈ (points.map (clocked shift scale)).map time} =
      (fun t => shift + scale * t) '' {t | t ∈ points.map time} := by
    ext t
    simp [clocked]
  refine ⟨hsame ▸ ?_, hsame ▸ ?_⟩
  · exact hmono.map_isLeast h.isLeast
  · exact hmono.map_isGreatest h.isGreatest

end Reaches

/-- **To normalize once more changes nothing**, since no time has changed. -/
theorem Reaches.normalizePhases_normalizePhases (h : Reaches points earliest latest) :
    normalizePhases (normalizePhases points) = normalizePhases points := by
  rw [h.normalized.normalizePhases_eq, h.normalizePhases_eq, List.map_map]
  rfl

/-- **Another clock shows the same phases.** -/
theorem Reaches.normalizePhases_map_clocked (h : Reaches points earliest latest) {scale : ℝ}
    (hscale : 0 < scale) (shift : ℝ) :
    normalizePhases (points.map (clocked shift scale)) =
      (normalizePhases points).map (clocked shift scale) := by
  rw [(h.map_clocked hscale shift).normalizePhases_eq, h.normalizePhases_eq, List.map_map,
    List.map_map]
  refine List.map_congr_left fun p _ => ?_
  simp only [Function.comp_apply, clocked, phaseOf_add_mul hscale]

end ScanPoint

/-! ### Predictions -/

namespace Initialization

variable {mode : Initialization} {trajectory : List (ScanMotion ℝ)} {points : List (ScanPoint ℝ)}

/-- The predicted motion has the times of the scan, if the scan has points. -/
theorem reaches_predictTimed (hpoints : points ≠ []) :
    ScanPoint.Reaches points (mode.predictTimed trajectory points).startTime
      (mode.predictTimed trajectory points).finishTime := by
  obtain ⟨_, _, hinterval, hreach⟩ := ScanPoint.exists_interval?_eq hpoints
  rw [predictTimed, hinterval]
  exact hreach

/-- The order of the points does not show in the predicted motion. -/
theorem predictTimed_of_perm {others : List (ScanPoint ℝ)} (hperm : others.Perm points)
    (hpoints : points ≠ []) :
    mode.predictTimed trajectory others = mode.predictTimed trajectory points := by
  have hothers : others ≠ [] := fun hnil => hpoints (List.nil_perm.mp (hnil ▸ hperm))
  obtain ⟨_, _, hinterval, hreach⟩ := ScanPoint.exists_interval?_eq hpoints
  obtain ⟨_, _, hinterval', hreach'⟩ := ScanPoint.exists_interval?_eq hothers
  rw [predictTimed, predictTimed, hinterval, hinterval', hreach'.unique (hreach.of_perm hperm)]

/-- **The times of the predicted motion are those that the phases refer to.** They are the least and
the greatest time of the scan, in whatever order its points are. Normalized points lie between
them by their phases and are otherwise as they were; phases grow with times, the latest points
have phase `1`, the earliest ones phase `0` unless all times coincide, and then all phases are `1`.
To normalize once more changes nothing, and a clock that is set and runs differently shows the
same phases. -/
theorem times_agree_with_phases (mode : Initialization) (trajectory : List (ScanMotion ℝ))
    {points : List (ScanPoint ℝ)} (hpoints : points ≠ []) :
    let guess := mode.predictTimed trajectory points
    let normal := ScanPoint.normalizePhases points
    ScanPoint.Reaches points guess.startTime guess.finishTime ∧
    (∀ others : List (ScanPoint ℝ), others.Perm points →
      mode.predictTimed trajectory others = guess) ∧
    List.Forall₂ (ScanPoint.IsPhased guess.startTime guess.finishTime) points normal ∧
    (∀ q ∈ normal, ∀ q' ∈ normal, q.time ≤ q'.time → q.phase ≤ q'.phase) ∧
    (∀ q ∈ normal, q.time = guess.finishTime → q.phase = 1) ∧
    ((∃ p ∈ points, ∃ p' ∈ points, p.time ≠ p'.time) →
      ∀ q ∈ normal, q.time = guess.startTime → q.phase = 0) ∧
    ((∀ p ∈ points, ∀ p' ∈ points, p.time = p'.time) → ∀ q ∈ normal, q.phase = 1) ∧
    ScanPoint.normalizePhases normal = normal ∧
    ∀ shift scale : ℝ, 0 < scale →
      ScanPoint.normalizePhases (points.map (ScanPoint.clocked shift scale)) =
        normal.map (ScanPoint.clocked shift scale) := by
  intro guess normal
  have hreach : ScanPoint.Reaches points guess.startTime guess.finishTime :=
    reaches_predictTimed hpoints
  have hphase : ∀ q ∈ normal,
      q.phase = ScanPoint.phaseOf guess.startTime guess.finishTime q.time := fun q hq =>
    hreach.phase_eq_of_mem hq
  refine ⟨hreach, fun others hperm => predictTimed_of_perm hperm hpoints, hreach.isPhased,
    fun q hq q' hq' hle => ?_, fun q hq hlatest => ?_, ?_, fun hsame q hq => ?_,
    hreach.normalizePhases_normalizePhases,
    fun shift scale hscale => hreach.normalizePhases_map_clocked hscale shift⟩
  · rw [hphase q hq, hphase q' hq']
    exact ScanPoint.phaseOf_mono hle
  · rw [hphase q hq, hlatest, ScanPoint.phaseOf_latest]
  · rintro ⟨p, hp, p', hp', hne⟩ q hq hearliest
    rw [hphase q hq, hearliest, ScanPoint.phaseOf_earliest (hreach.lt_of_ne hp hp' hne)]
  · have hstart : guess.startTime = guess.finishTime := by
      obtain ⟨p, hp, hearliest⟩ := List.mem_map.mp hreach.isLeast.1
      obtain ⟨p', hp', hlatest⟩ := List.mem_map.mp hreach.isGreatest.1
      rw [← hearliest, ← hlatest, hsame p hp p' hp']
    rw [hphase q hq, ScanPoint.phaseOf, hstart, sub_self, if_neg (lt_irrefl 0)]

/-- Three points in disorder, the last one a fifth of the way from the first to the second. -/
theorem times_agree_with_phases_disorder :
    let points : List (ScanPoint ℝ) := [.sampled 0 12 0, .sampled 0 15 0, .sampled 0 (63 / 5) 0]
    let guess := Initialization.rest.predictTimed [] points
    guess.startTime = 12 ∧ guess.finishTime = 15 ∧
      (ScanPoint.normalizePhases points).map ScanPoint.phase = [0, 1, 1 / 5] := by
  intro points guess
  obtain ⟨hreach, -, hphased, -⟩ := times_agree_with_phases .rest [] (List.cons_ne_nil
    (.sampled 0 12 0 : ScanPoint ℝ) [.sampled 0 15 0, .sampled 0 (63 / 5) 0])
  have htimes : ScanPoint.Reaches points 12 15 := by
    refine ⟨⟨?_, ?_⟩, ⟨?_, ?_⟩⟩ <;> norm_num [points, ScanPoint.sampled, lowerBounds, upperBounds]
  obtain ⟨hstart, hfinish⟩ := Prod.mk.inj (hreach.unique htimes)
  rw [hstart, hfinish] at hphased
  simp only [List.forall₂_cons_left_iff, List.forall₂_nil_left_iff] at hphased
  obtain ⟨q, _, h, ⟨q', _, h', ⟨q'', _, h'', rfl, rfl⟩, rfl⟩, hnormal⟩ := hphased
  have htime : (12 : ℝ) = 12 + q.phase * (15 - 12) := h.time_eq.symm.trans h.time_eq_add
  have htime' : (15 : ℝ) = 12 + q'.phase * (15 - 12) := h'.time_eq.symm.trans h'.time_eq_add
  have htime'' : (63 / 5 : ℝ) = 12 + q''.phase * (15 - 12) :=
    h''.time_eq.symm.trans h''.time_eq_add
  have hphase : q.phase = 0 := by linarith
  have hphase' : q'.phase = 1 := by linarith
  have hphase'' : q''.phase = 1 / 5 := by linarith
  refine ⟨hstart, hfinish, ?_⟩
  rw [hnormal, List.map_cons, List.map_cons, List.map_singleton, hphase, hphase', hphase'']

end Initialization

end LidarOdometry
