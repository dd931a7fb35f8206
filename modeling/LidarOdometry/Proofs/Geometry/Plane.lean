import LidarOdometry.Proofs.Geometry.Moments
import LidarOdometry.Proofs.Geometry.PrincipalAxes
import LidarOdometry.Geometry.Plane

/-!
# Planes of Least Squares

The plane fitted to some points passes through their centroid, across the last principal axis of
their covariance. The covariance is the mean product of deviations, so along a direction of length
one its form is the variance of the points; hence of all planes the fitted one has the least sum of
squared distances, the standard deviations along the axes are those along their directions, and
the first is the largest in any direction.

How the axes are found does not matter, as long as they are the principal axes of the covariance.

## Main definitions

* `Scalar.exact`: exact arithmetic with a least spread that counts.
* `deviationAlong`: the standard deviation of points along a direction.
* `OnLine`: points on a line.
* `Plane.axes`, `Plane.flatness`: what a fit is read from.

## Main results

* `mean_sq_dot_sub`: the mean squared distance from any plane.
* `Plane.dot_foot`, `Plane.abs_signedDistance_le`: signed distances.
* `Plane.deviation_eq`: the deviations along principal axes.
* `Plane.fit?_exact`: the fit over the reals.
* `Plane.deviation_first_le_iff`: when points all but coincide.
* `Plane.sum_sq_third_le`: least squares.
* `Plane.fit_least_squares`: the fitted plane is the plane of least squares.
-/

namespace LidarOdometry

/-- **Exact arithmetic with a least spread**: points that spread no farther count as one. -/
noncomputable abbrev Scalar.exact (ε : ℝ) : Scalar ℝ :=
  { (inferInstance : Scalar ℝ) with epsilon := ε }

/-- **The standard deviation** of some points along a direction. -/
noncomputable def deviationAlong (points : List (Vec3 ℝ)) (u : Vec3 ℝ) : ℝ :=
  √(covariance points u u)

/-- **Points on a line.** -/
def OnLine (points : List (Vec3 ℝ)) : Prop :=
  ∃ o d : Vec3 ℝ, ∀ p ∈ points, ∃ t, p = o + d.scale t

variable {points : List (Vec3 ℝ)}

/-- **The mean squared distance from a plane** is the variance across it, and the squared distance
of the centroid. -/
theorem mean_sq_dot_sub (h : points ≠ []) (u o : Vec3 ℝ) :
    mean points (fun p => u.dot (p - o) ^ 2) =
      covariance points u u + u.dot (centroid points - o) ^ 2 := by
  have hsplit : mean points (fun p => u.dot (p - o) ^ 2) = mean points fun p =>
      u.dot (p - centroid points) * u.dot (p - centroid points) +
        (2 * u.dot (centroid points - o) * u.dot (p - centroid points) +
          u.dot (centroid points - o) ^ 2) := by
    refine mean_congr fun p _ => ?_
    simp only [Vec3.dot_sub]
    ring
  -- the mixed term vanishes, since deviations balance
  rw [hsplit, mean_add, mean_add, mean_const_mul, mean_dot_sub_centroid, mean_const h, mul_zero,
    zero_add, covariance]

/-- **Points on a line do not vary** at right angles to it. -/
theorem exists_covariance_eq_zero (h : OnLine points) :
    ∃ d : Vec3 ℝ, ∀ u, u.dot d = 0 → covariance points u u = 0 := by
  obtain ⟨o, d, hline⟩ := h
  refine ⟨d, fun u hu => covariance_self_eq_zero (k := u.dot o) fun p hp => ?_⟩
  obtain ⟨t, rfl⟩ := hline p hp
  rw [Vec3.dot_add, Vec3.dot_scale, hu, zero_mul, add_zero]

namespace Plane

/-! ### Signed distances -/

section Distance

variable {plane : Plane ℝ} (hnormal : plane.normal.dot plane.normal = 1)
include hnormal

/-- **A point is off its plane** by the signed distance along the normal. -/
theorem dot_foot (p : Vec3 ℝ) : plane.normal.dot
    (p - plane.normal.scale (plane.signedDistance p) - plane.center) = 0 := by
  rw [Vec3.dot_sub, Vec3.dot_sub, Vec3.dot_scale, hnormal, signedDistance, Vec3.dot_sub]
  ring

/-- **No point of the plane is nearer** than the signed distance says. -/
theorem abs_signedDistance_le {p q : Vec3 ℝ} (hq : plane.normal.dot (q - plane.center) = 0) :
    |plane.signedDistance p| ≤ (p - q).norm := by
  have hsame : plane.signedDistance p = plane.normal.dot (p - q) := by
    rw [Vec3.dot_sub] at hq
    rw [signedDistance, Vec3.dot_sub, Vec3.dot_sub]
    linarith
  rw [hsame]
  exact Vec3.abs_dot_le_norm hnormal _

end Distance

/-! ### Deviations along principal axes -/

section Deviations

variable {e : Eigensystem ℝ} {p q : EigenPair ℝ}

/-- A deviation is the root of the variance, of which a negative one counts as zero. -/
theorem deviation_real (p : EigenPair ℝ) : deviation p = √(max p.value 0) := by
  rw [deviation, Scalar.max_real, Scalar.sqrt_real]

/-- No deviation is negative. -/
theorem deviation_nonneg (p : EigenPair ℝ) : 0 ≤ deviation p :=
  Real.sqrt_nonneg _

/-- A larger variance has no smaller deviation. -/
theorem deviation_le (h : p.value ≤ q.value) : deviation p ≤ deviation q := by
  rw [deviation_real, deviation_real]
  exact Real.sqrt_le_sqrt (max_le_max h le_rfl)

/-- There is a deviation exactly if there is a variance. -/
theorem deviation_pos_iff : 0 < deviation p ↔ 0 < p.value := by
  rw [deviation_real, Real.sqrt_pos, lt_max_iff, or_iff_left (lt_irrefl _)]

/-- Without variance there is no deviation. -/
theorem deviation_eq_zero (h : p.value = 0) : deviation p = 0 := by
  rw [deviation_real, h, max_self, Real.sqrt_zero]

/-- **The variance along a principal axis** is its eigenvalue. -/
theorem value_eq (hne : points ≠ []) (hunit : p.vector.dot p.vector = 1)
    (hscaled : (Moments.ofList points).covariance.mulVec p.vector = p.vector.scale p.value) :
    p.value = covariance points p.vector p.vector := by
  rw [← Moments.dot_covariance_mulVec hne, hscaled, Vec3.dot_scale, hunit, one_mul]

/-- **The standard deviation along a principal axis.** -/
theorem deviation_eq (hne : points ≠ []) (hunit : p.vector.dot p.vector = 1)
    (hscaled : (Moments.ofList points).covariance.mulVec p.vector = p.vector.scale p.value) :
    deviation p = deviationAlong points p.vector := by
  rw [deviation_real, value_eq hne hunit hscaled, max_eq_left (covariance_self_nonneg points _),
    deviationAlong]

/-- The planarity that a fit reads off principal axes. -/
noncomputable def flatness (e : Eigensystem ℝ) : ℝ :=
  (deviation e.second - deviation e.third) / deviation e.first

/-- The flatness of ordered axes is not negative. -/
theorem flatness_nonneg (h : e.third.value ≤ e.second.value) : 0 ≤ flatness e :=
  div_nonneg (sub_nonneg.mpr (deviation_le h)) (deviation_nonneg _)

/-- The flatness of ordered axes is at most one. -/
theorem flatness_le_one (h : e.second.value ≤ e.first.value) : flatness e ≤ 1 := by
  refine div_le_one_of_le₀ ?_ (deviation_nonneg _)
  exact (sub_le_self _ (deviation_nonneg _)).trans (deviation_le h)

/-- Points on a line are not flat. -/
theorem flatness_eq_zero (h : e.third.value ≤ e.second.value) (hsecond : e.second.value = 0) :
    flatness e = 0 := by
  have hthird : deviation e.third = 0 := by
    refine le_antisymm ?_ (deviation_nonneg _)
    rw [← deviation_eq_zero hsecond]
    exact deviation_le h
  rw [flatness, deviation_eq_zero hsecond, hthird, sub_self, zero_div]

end Deviations

/-! ### The fit over the reals -/

section Fit

variable [EigenSolver ℝ]

/-- The principal axes of some points, by decreasing variance. -/
noncomputable def axes (points : List (Vec3 ℝ)) : Eigensystem ℝ :=
  (EigenSolver.decompose (Moments.ofList points).covariance).descending

/-- **The fit over the reals.** -/
theorem fit?_exact (ε : ℝ) (points : List (Vec3 ℝ)) : @fit? ℝ (.exact ε) _ points =
    if points.length < 3 then none
    else if deviation (axes points).first ≤ ε then none
    else some ⟨centroid points, (axes points).third.vector.normalize, flatness (axes points)⟩ := by
  -- the two scalar types differ in the least spread only, which no other operation reads
  have hfit : @fit? ℝ (.exact ε) _ points =
      if (Moments.ofList points).count < 3 then none
      else (Moments.ofList points).summary?.bind fun s =>
        let axes := (EigenSolver.decompose s.2).descending
        if deviation axes.first ≤ ε then none
        else some ⟨s.1, axes.third.vector.normalize, flatness axes⟩ := rfl
  rw [hfit, Moments.count_ofList]
  split
  · rfl
  · next hmany =>
      have hsome : (Moments.ofList points).count ≠ 0 := by
        rw [Moments.count_ofList]
        omega
      rw [Moments.summary?, if_neg hsome, Moments.centroid_ofList]
      rfl

/-- There is no plane of too few points, or of points that all but coincide. -/
theorem fit?_eq_none_iff {ε : ℝ} : @fit? ℝ (.exact ε) _ points = none ↔
    points.length < 3 ∨ deviation (axes points).first ≤ ε := by
  rw [fit?_exact]
  split
  · simp [*]
  · split <;> simp [*]

/-- **A fitted plane** is read off the principal axes. -/
theorem eq_of_fit?_eq_some {ε : ℝ} {plane : Plane ℝ}
    (h : @fit? ℝ (.exact ε) _ points = some plane) :
    3 ≤ points.length ∧ ε < deviation (axes points).first ∧
      plane = ⟨centroid points, (axes points).third.vector.normalize, flatness (axes points)⟩ := by
  rw [fit?_exact] at h
  split at h
  · cases h
  · next hmany =>
      split at h
      · cases h
      · next hspread =>
          cases h
          exact ⟨not_lt.mp hmany, not_le.mp hspread, rfl⟩

/-- **The order of the points does not matter** to the fit. -/
theorem fit?_perm {ε : ℝ} {points' : List (Vec3 ℝ)} (h : points.Perm points') :
    @fit? ℝ (.exact ε) _ points' = @fit? ℝ (.exact ε) _ points := by
  have hmoments : Moments.ofList points' = Moments.ofList points := (Moments.ofList_perm h).symm
  have haxes : axes points' = axes points := by
    rw [axes, hmoments, axes]
  rw [fit?_exact, fit?_exact, h.length_eq, haxes, centroid_perm h]

omit [EigenSolver ℝ] in
/-- A list of three points is not empty. -/
theorem ne_nil_of_three_le (h : 3 ≤ points.length) : points ≠ [] :=
  List.ne_nil_of_length_pos (by omega)

/-! ### Least squares -/

section LeastSquares

variable (hne : points ≠ [])
  (haxes : (axes points).Decomposes (Moments.ofList points).covariance)
include hne

omit [EigenSolver ℝ] in
/-- The covariance that is gathered is symmetric. -/
theorem covariance_symm (u w : Vec3 ℝ) : u.dot ((Moments.ofList points).covariance.mulVec w) =
    w.dot ((Moments.ofList points).covariance.mulVec u) := by
  rw [Moments.dot_covariance_mulVec hne, Moments.dot_covariance_mulVec hne, covariance_comm]

include haxes

/-- **The first deviation is the largest** in any direction. -/
theorem deviation_first_le_iff (ε : ℝ) : deviation (axes points).first ≤ ε ↔
    ∀ u : Vec3 ℝ, u.norm = 1 → deviationAlong points u ≤ ε := by
  have hfirst := deviation_eq hne haxes.orthonormal.first haxes.first
  refine ⟨fun hle u hu => le_trans ?_ (hfirst.symm.le.trans hle), fun hall => ?_⟩
  · refine Real.sqrt_le_sqrt ?_
    rw [← value_eq hne haxes.orthonormal.first haxes.first, ← Moments.dot_covariance_mulVec hne]
    exact haxes.dot_mulVec_le (covariance_symm hne) (Eigensystem.descending_sorted _)
      ((Vec3.norm_eq_one_iff u).mp hu)
  · rw [hfirst]
    exact hall _ ((Vec3.norm_eq_one_iff _).mpr haxes.orthonormal.first)

/-- **The variance is least** along the last axis. -/
theorem covariance_third_le {u : Vec3 ℝ} (hu : u.dot u = 1) :
    covariance points (axes points).third.vector (axes points).third.vector ≤
      covariance points u u := by
  rw [← value_eq hne haxes.orthonormal.third haxes.third, ← Moments.dot_covariance_mulVec hne]
  exact haxes.le_dot_mulVec (covariance_symm hne) (Eigensystem.descending_sorted _) hu

/-- **Least squares**: across the last axis, through the centroid, the sum of squared distances is
the least of any plane. -/
theorem sum_sq_third_le {u : Vec3 ℝ} (hu : u.dot u = 1) (o : Vec3 ℝ) :
    (points.map fun p => (axes points).third.vector.dot (p - centroid points) ^ 2).sum ≤
      (points.map fun p => u.dot (p - o) ^ 2).sum := by
  rw [sum_map_eq_mean hne, sum_map_eq_mean hne, mean_sq_dot_sub hne, mean_sq_dot_sub hne]
  refine mul_le_mul_of_nonneg_left ?_ (Nat.cast_nonneg _)
  refine add_le_add (covariance_third_le hne haxes hu) ?_
  have hcenter : (axes points).third.vector.dot (centroid points - centroid points) ^ 2 = 0 := by
    rw [Vec3.dot_sub, sub_self, zero_pow two_ne_zero]
  rw [hcenter]
  exact sq_nonneg _

/-- **On a line there is one axis** along which points vary, if there is any. -/
theorem value_second_eq_zero (hline : OnLine points) (hfirst : 0 < (axes points).first.value) :
    (axes points).second.value = 0 := by
  obtain ⟨d, hd⟩ := exists_covariance_eq_zero hline
  refine haxes.second_eq_zero (covariance_symm hne) (d := d) (fun u hu => ?_) hfirst ?_
  · rw [Moments.dot_covariance_mulVec hne, hd u hu]
  · rw [value_eq hne haxes.orthonormal.second haxes.second]
    exact covariance_self_nonneg points _

end LeastSquares

/-- **The fitted plane is the plane of least squares**, whichever solver finds the principal axes of
the covariance. There is none exactly for fewer than three points, or if in no direction the points
have a standard deviation above the least spread that counts. Otherwise the plane passes through
the centroid, has a normal of length one, and no plane has a smaller sum of squared distances;
distances are signed along the normal and balance over the points; the planarity lies between zero
and one and is zero for points on a line. The order of the points does not matter. -/
theorem fit_least_squares {ε : ℝ} (hε : 0 ≤ ε) (points : List (Vec3 ℝ))
    (hsolver : (EigenSolver.decompose (Moments.ofList points).covariance).Decomposes
      (Moments.ofList points).covariance) :
    (@fit? ℝ (.exact ε) _ points = none ↔
      points.length < 3 ∨ ∀ u : Vec3 ℝ, u.norm = 1 → deviationAlong points u ≤ ε) ∧
    (∀ plane, @fit? ℝ (.exact ε) _ points = some plane →
      plane.center = centroid points ∧ plane.normal.norm = 1 ∧
      (∀ u o : Vec3 ℝ, u.norm = 1 →
        (points.map fun p => plane.normal.dot (p - plane.center) ^ 2).sum ≤
          (points.map fun p => u.dot (p - o) ^ 2).sum) ∧
      (∀ p, plane.normal.dot (p - plane.normal.scale (plane.signedDistance p) - plane.center) = 0 ∧
        ∀ q, plane.normal.dot (q - plane.center) = 0 →
          |plane.signedDistance p| ≤ (p - q).norm) ∧
      (points.map plane.signedDistance).sum = 0 ∧
      0 ≤ plane.planarity ∧ plane.planarity ≤ 1 ∧ (OnLine points → plane.planarity = 0)) ∧
    ∀ points', points.Perm points' →
      @fit? ℝ (.exact ε) _ points' = @fit? ℝ (.exact ε) _ points := by
  have haxes : (axes points).Decomposes (Moments.ofList points).covariance := hsolver.descending
  have hsorted := Eigensystem.descending_sorted
    (EigenSolver.decompose (Moments.ofList points).covariance)
  refine ⟨?_, fun plane h => ?_, fun points' hperm => fit?_perm hperm⟩
  · rw [fit?_eq_none_iff]
    exact or_congr_right' fun hmany =>
      deviation_first_le_iff (ne_nil_of_three_le (not_lt.mp hmany)) haxes ε
  · obtain ⟨hmany, hspread, rfl⟩ := eq_of_fit?_eq_some h
    have hne := ne_nil_of_three_le hmany
    have hunit := (Vec3.norm_eq_one_iff _).mpr haxes.orthonormal.third
    rw [Vec3.normalize_eq_self hunit]
    refine ⟨rfl, hunit, fun u o hu => sum_sq_third_le hne haxes ((Vec3.norm_eq_one_iff u).mp hu) o,
      fun p => ⟨dot_foot haxes.orthonormal.third p,
        fun q hq => abs_signedDistance_le haxes.orthonormal.third hq⟩, ?_,
      flatness_nonneg hsorted.2, flatness_le_one hsorted.1, fun hline => ?_⟩
    · rw [sum_map_eq_mean hne]
      exact mul_eq_zero_of_right _ (mean_dot_sub_centroid points _)
    · have hfirst := deviation_pos_iff.mp (hε.trans_lt hspread)
      exact flatness_eq_zero hsorted.2 (value_second_eq_zero hne haxes hline hfirst)

end Fit

/-- Four points, at two from the origin along the first axis and at one along the second, have a
plane: the one of the two axes. -/
theorem fit_least_squares_cross :
    let _ : EigenSolver ℝ := ⟨Mat3.jacobi⟩
    let points : List (Vec3 ℝ) := [⟨2, 0, 0⟩, ⟨-2, 0, 0⟩, ⟨0, 1, 0⟩, ⟨0, -1, 0⟩]
    ∃ plane, @fit? ℝ (.exact 0) _ points = some plane ∧ plane.center = 0 ∧
      plane.normal.norm = 1 ∧ (points.map fun p => plane.normal.dot p ^ 2).sum = 0 := by
  intro _ points
  have hcenter : centroid points = 0 := by
    refine Vec3.ext ?_ ?_ ?_ <;> norm_num [centroid, mean, points]
  have hcovariance : (Moments.ofList points).covariance =
      ⟨⟨2, 0, 0⟩, ⟨0, 1 / 2, 0⟩, ⟨0, 0, 0⟩⟩ := by
    refine Mat3.ext_dot fun u w => ?_
    rw [Moments.dot_covariance_mulVec (List.cons_ne_nil _ _), LidarOdometry.covariance, hcenter]
    norm_num [mean, points, Mat3.mulVec, Vec3.dot]
    ring
  have hsolver : (EigenSolver.decompose (Moments.ofList points).covariance).Decomposes
      (Moments.ofList points).covariance := by
    rw [hcovariance]
    exact Mat3.decomposes_jacobi_diagonal _ _ _
  obtain ⟨hnone, hsome, -⟩ := fit_least_squares le_rfl points hsolver
  have hspread : @fit? ℝ (.exact 0) _ points ≠ none := by
    rw [Ne, hnone]
    rintro (hfew | hall)
    · exact absurd hfew (by decide)
    · have hfirst := hall ⟨1, 0, 0⟩ (by simp [Vec3.norm_eq_one_iff, Vec3.dot])
      refine absurd hfirst (not_le.mpr (Real.sqrt_pos.mpr ?_))
      rw [← Moments.dot_covariance_mulVec (List.cons_ne_nil _ _), hcovariance]
      norm_num [Mat3.mulVec, Vec3.dot]
  obtain ⟨plane, hplane⟩ := Option.ne_none_iff_exists'.mp hspread
  obtain ⟨hcentroid, hunit, hleast, -⟩ := hsome plane hplane
  rw [hcenter] at hcentroid
  refine ⟨plane, hplane, hcentroid, hunit, le_antisymm ?_ (List.sum_nonneg ?_)⟩
  · have hflat := hleast ⟨0, 0, 1⟩ 0 (by simp [Vec3.norm_eq_one_iff, Vec3.dot])
    simpa [points, Vec3.dot, hcentroid] using hflat
  · exact List.forall_mem_map.mpr fun _ _ => sq_nonneg _

end Plane

end LidarOdometry
