import LidarOdometry.Proofs.Geometry.Plane

/-!
# The Covariance as a Matrix

The covariance gathered in one pass, the mean of the outer products less the outer product of the
mean, is the mean outer product of the deviations from the centroid. Everything else is read off
the form that this matrix defines, which takes two directions to the mean product of the deviations
along them: it is symmetric and nowhere negative, it does not see where the points lie as a whole,
and along a direction it vanishes only if no point deviates along it.

## Main definitions

* `covarianceMatrix`: the mean outer product of the deviations.

## Main results

* `centroid_eq_divide`: the centroid is the sum over the count.
* `Moments.covariance_ofList`: one pass gathers the mean outer product of the deviations.
* `dot_covarianceMatrix_mulVec`: the form of the covariance.
* `covarianceMatrix_map_add`, `covarianceMatrix_map_mulVec`: moved points.
* `covarianceMatrix_eq_zero_iff`: points that coincide.
* `Moments.summary?_eq_mean_outer`: centroid and covariance of any points.
-/

namespace LidarOdometry

/-! ### Sums of vectors and of matrices -/

/-- The inner product with a sum. -/
theorem Vec3.dot_list_sum (u : Vec3 ℝ) (vs : List (Vec3 ℝ)) :
    u.dot vs.sum = (vs.map u.dot).sum := by
  induction vs with
  | nil => exact u.dot_zero
  | cons v vs ih => rw [List.sum_cons, Vec3.dot_add, ih, List.map_cons, List.sum_cons]

/-- The form of a sum is the sum of the forms. -/
theorem Mat3.dot_list_sum_mulVec (u w : Vec3 ℝ) (ms : List (Mat3 ℝ)) :
    u.dot (ms.sum.mulVec w) = (ms.map fun m => u.dot (m.mulVec w)).sum := by
  induction ms with
  | nil => rw [List.sum_nil, Mat3.zero_mulVec, Vec3.dot_zero, List.map_nil, List.sum_nil]
  | cons m ms ih =>
      rw [List.sum_cons, Mat3.add_mulVec, Vec3.dot_add, ih, List.map_cons, List.sum_cons]

/-- The form of an outer product is a product. -/
theorem Vec3.dot_outer_mulVec (u v w x : Vec3 ℝ) :
    u.dot ((v.outer x).mulVec w) = u.dot v * w.dot x := by
  rw [Mat3.outer_mulVec, Vec3.dot_scale, Vec3.dot_comm x]

/-- A matrix can be moved across an inner product, from its right. -/
theorem Mat3.dot_mulVec_right (m : Mat3 ℝ) (u v : Vec3 ℝ) :
    u.dot (m.mulVec v) = (m.transpose.mulVec u).dot v := by
  rw [Vec3.dot_comm, Mat3.dot_mulVec, Vec3.dot_comm]

/-- The form of a mean of outer products is a mean of products. -/
theorem dot_mean_outer_mulVec (points : List (Vec3 ℝ)) (g : Vec3 ℝ → Vec3 ℝ) (u w : Vec3 ℝ) :
    u.dot (((points.map fun p => (g p).outer (g p)).sum.divide points.length).mulVec w) =
      mean points fun p => u.dot (g p) * w.dot (g p) := by
  rw [Mat3.divide_mulVec, Vec3.dot_divide, Mat3.dot_list_sum_mulVec, List.map_map, mean]
  simp only [Function.comp_def, Vec3.dot_outer_mulVec]

/-! ### Means of moved points -/

section Mean

variable {points : List (Vec3 ℝ)}

/-- The mean over transformed points. -/
theorem mean_map (points : List (Vec3 ℝ)) (g : Vec3 ℝ → Vec3 ℝ) (f : Vec3 ℝ → ℝ) :
    mean (points.map g) f = mean points fun p => f (g p) := by
  rw [mean, List.map_map, List.length_map]
  rfl

/-- **A mean of what is nowhere negative** vanishes only with all of it. -/
theorem mean_eq_zero_iff {f : Vec3 ℝ → ℝ} (h : points ≠ []) (hf : ∀ p ∈ points, 0 ≤ f p) :
    mean points f = 0 ↔ ∀ p ∈ points, f p = 0 := by
  refine ⟨fun hmean p hp => ?_, fun hzero => ?_⟩
  · have hsum : (points.map f).sum = 0 := by
      rw [sum_map_eq_mean h, hmean, mul_zero]
    have hle : f p ≤ (points.map f).sum :=
      List.single_le_sum (List.forall_mem_map.mpr hf) _ (List.mem_map_of_mem hp)
    exact le_antisymm (hle.trans hsum.le) (hf p hp)
  · rw [mean_congr hzero, mean_const h]

/-- **The centroid is the sum over the count.** -/
theorem centroid_eq_divide (points : List (Vec3 ℝ)) :
    centroid points = points.sum.divide points.length := by
  refine Vec3.ext_dot fun u => ?_
  rw [dot_centroid, Vec3.dot_divide, Vec3.dot_list_sum, mean]

/-- **Shifted points** have a shifted centroid. -/
theorem centroid_map_add (h : points ≠ []) (t : Vec3 ℝ) :
    centroid (points.map (· + t)) = centroid points + t := by
  refine Vec3.ext_dot fun u => ?_
  simp only [dot_centroid, mean_map, Vec3.dot_add]
  rw [mean_add, mean_const h]

/-- **The centroid goes along** with a linear map. -/
theorem centroid_map_mulVec (points : List (Vec3 ℝ)) (m : Mat3 ℝ) :
    centroid (points.map m.mulVec) = m.mulVec (centroid points) := by
  refine Vec3.ext_dot fun u => ?_
  simp only [Mat3.dot_mulVec_right, dot_centroid, mean_map]

end Mean

/-! ### The covariance -/

/-- **The mean outer product of the deviations** from the centroid. -/
noncomputable def covarianceMatrix (points : List (Vec3 ℝ)) : Mat3 ℝ :=
  (points.map fun p => (p - centroid points).outer (p - centroid points)).sum.divide points.length

section Covariance

variable {points : List (Vec3 ℝ)}

/-- **The form of the covariance**: the mean product of the deviations along two directions. -/
theorem dot_covarianceMatrix_mulVec (points : List (Vec3 ℝ)) (u w : Vec3 ℝ) :
    u.dot ((covarianceMatrix points).mulVec w) = covariance points u w :=
  dot_mean_outer_mulVec points (· - centroid points) u w

/-- **What is gathered in one pass** is the mean outer product of the deviations. -/
theorem Moments.covariance_ofList (h : points ≠ []) :
    (ofList points).covariance = covarianceMatrix points := by
  refine Mat3.ext_dot fun u w => ?_
  rw [dot_covariance_mulVec h, dot_covarianceMatrix_mulVec]

/-- **The mean outer product less that of the mean** is the mean outer product of the
deviations. -/
theorem mean_outer_sub_outer (h : points ≠ []) :
    (points.map fun p : Vec3 ℝ => p.outer p).sum.divide points.length -
      (centroid points).outer (centroid points) = covarianceMatrix points := by
  refine Mat3.ext_dot fun u w => ?_
  have hmean := dot_mean_outer_mulVec points (fun p => p) u w
  rw [Mat3.sub_mulVec, Vec3.dot_sub, hmean, Vec3.dot_outer_mulVec, dot_covarianceMatrix_mulVec,
    covariance_eq h]

/-- **The covariance is symmetric.** -/
theorem covarianceMatrix_transpose (points : List (Vec3 ℝ)) :
    (covarianceMatrix points).transpose = covarianceMatrix points := by
  refine Mat3.ext_dot fun u w => ?_
  rw [← Mat3.dot_mulVec, Vec3.dot_comm, dot_covarianceMatrix_mulVec, dot_covarianceMatrix_mulVec,
    covariance_comm]

/-- **No eigenvalue is negative**, whatever the length of its vector. -/
theorem value_nonneg {p : EigenPair ℝ} (hvector : p.vector ≠ 0)
    (hscaled : (covarianceMatrix points).mulVec p.vector = p.vector.scale p.value) :
    0 ≤ p.value := by
  have hpos : 0 < p.vector.normSq :=
    lt_of_le_of_ne p.vector.normSq_nonneg fun h => hvector (Vec3.eq_zero_of_normSq_eq_zero h.symm)
  have hform : p.vector.normSq * p.value = covariance points p.vector p.vector := by
    rw [← dot_covarianceMatrix_mulVec, hscaled, Vec3.dot_scale, Vec3.normSq]
  refine nonneg_of_mul_nonneg_right ?_ hpos
  rw [hform]
  exact covariance_self_nonneg points p.vector

/-- **Shifted points** vary as they did. -/
theorem covarianceMatrix_map_add (h : points ≠ []) (t : Vec3 ℝ) :
    covarianceMatrix (points.map (· + t)) = covarianceMatrix points := by
  have hdeviation : ∀ p : Vec3 ℝ, p + t - (centroid points + t) = p - centroid points := fun p =>
    Vec3.ext (add_sub_add_right_eq_sub ..) (add_sub_add_right_eq_sub ..)
      (add_sub_add_right_eq_sub ..)
  rw [covarianceMatrix, centroid_map_add h, List.map_map, List.length_map, covarianceMatrix]
  simp only [Function.comp_def, hdeviation]

/-- **The covariance of mapped points** is the matrix carried along on both sides. -/
theorem covarianceMatrix_map_mulVec (points : List (Vec3 ℝ)) (m : Mat3 ℝ) :
    covarianceMatrix (points.map m.mulVec) = m * covarianceMatrix points * m.transpose := by
  have hdeviation : ∀ u p : Vec3 ℝ, u.dot (m.mulVec p - m.mulVec (centroid points)) =
      (m.transpose.mulVec u).dot (p - centroid points) := fun u p => by
    rw [Vec3.dot_sub, Mat3.dot_mulVec_right, Mat3.dot_mulVec_right, Vec3.dot_sub]
  refine Mat3.ext_dot fun u w => ?_
  calc u.dot ((covarianceMatrix (points.map m.mulVec)).mulVec w)
      = mean points fun p => u.dot (m.mulVec p - m.mulVec (centroid points)) *
          w.dot (m.mulVec p - m.mulVec (centroid points)) := by
        rw [dot_covarianceMatrix_mulVec, covariance, mean_map, centroid_map_mulVec]
    _ = covariance points (m.transpose.mulVec u) (m.transpose.mulVec w) := by
        simp only [hdeviation]
        rfl
    _ = u.dot ((m * covarianceMatrix points * m.transpose).mulVec w) := by
        rw [← dot_covarianceMatrix_mulVec, Mat3.mul_mulVec, Mat3.mul_mulVec, m.dot_mulVec_right]

/-- **The order of the points does not matter** to the covariance. -/
theorem covarianceMatrix_perm {points' : List (Vec3 ℝ)} (h : points.Perm points') :
    covarianceMatrix points' = covarianceMatrix points := by
  rcases eq_or_ne points [] with rfl | hne
  · rw [h.nil_eq]
  · have hne' : points' ≠ [] := fun hnil => hne (List.perm_nil.mp (hnil ▸ h))
    rw [← Moments.covariance_ofList hne, ← Moments.covariance_ofList hne', Moments.ofList_perm h]

/-- **Along a direction without variance** no point deviates. -/
theorem covariance_self_eq_zero_iff (h : points ≠ []) (u : Vec3 ℝ) :
    covariance points u u = 0 ↔ ∀ p ∈ points, u.dot (p - centroid points) = 0 := by
  rw [covariance, mean_eq_zero_iff h fun _ _ => mul_self_nonneg _]
  simp only [mul_self_eq_zero]

/-- **The covariance vanishes** exactly if all points coincide. -/
theorem covarianceMatrix_eq_zero_iff (h : points ≠ []) :
    covarianceMatrix points = 0 ↔ ∀ p ∈ points, ∀ q ∈ points, p = q := by
  refine ⟨fun hzero => ?_, fun hsame => ?_⟩
  -- without variance along any direction all points are the centroid
  · have hcentroid : ∀ p ∈ points, p = centroid points := fun p hp => by
      refine Vec3.ext_dot fun u => sub_eq_zero.mp ?_
      rw [← Vec3.dot_sub]
      refine (covariance_self_eq_zero_iff h u).mp ?_ p hp
      rw [← dot_covarianceMatrix_mulVec, hzero, Mat3.zero_mulVec, Vec3.dot_zero]
    intro p hp q hq
    rw [hcentroid p hp, ← hcentroid q hq]
  · obtain ⟨q, hq⟩ := List.exists_mem_of_ne_nil points h
    have hcentroid : centroid points = q := by
      refine Vec3.ext_dot fun u => ?_
      rw [dot_centroid]
      refine (mean_congr fun p hp => ?_).trans (mean_const h (u.dot q))
      rw [hsame p hp q hq]
    refine Mat3.ext_dot fun u w => ?_
    rw [dot_covarianceMatrix_mulVec, Mat3.zero_mulVec, Vec3.dot_zero, covariance, hcentroid]
    refine (mean_congr fun p hp => ?_).trans (mean_const h 0)
    rw [hsame p hp q hq, Vec3.dot_sub, sub_self, zero_mul]

end Covariance

/-! ### The summary -/

namespace Moments

/-- **There is no summary** exactly of no points. -/
theorem summary?_eq_none_iff (points : List (Vec3 ℝ)) :
    (ofList points).summary? = none ↔ points = [] := by
  rw [summary?, count_ofList, ite_eq_left_iff]
  simp only [reduceCtorEq, imp_false, not_not, List.length_eq_zero_iff]

/-- **Centroid and covariance**, where there are points. -/
theorem summary?_ofList {points : List (Vec3 ℝ)} (h : points ≠ []) :
    (ofList points).summary? = some (LidarOdometry.centroid points, covarianceMatrix points) := by
  rw [summary?, count_ofList, if_neg (List.length_eq_zero_iff.not.mpr h), centroid_ofList,
    covariance_ofList h]

/-- **One pass gives centroid and covariance.** There is none exactly for no points. Otherwise the
centroid is the sum over the count, and the mean of the outer products less the outer product of
the centroid is the mean outer product of the deviations from it. This matrix is symmetric and
nowhere negative, so that no eigenvalue is negative and a plane fit may take its square root as it
is. Shifting all points shifts the centroid only, their order does not matter, a matrix that is
applied to all points, such as a rotation, is applied to the covariance from both sides, and the
covariance is zero exactly if all points coincide. -/
theorem summary?_eq_mean_outer (points : List (Vec3 ℝ)) :
    let c : Vec3 ℝ := points.sum.divide points.length
    let C : Mat3 ℝ := (points.map fun p => (p - c).outer (p - c)).sum.divide points.length
    ((ofList points).summary? = none ↔ points = []) ∧
    (points ≠ [] →
      (ofList points).summary? = some (c, C) ∧
      (points.map fun p : Vec3 ℝ => p.outer p).sum.divide points.length - c.outer c = C ∧
      C.transpose = C ∧
      (∀ u : Vec3 ℝ, 0 ≤ u.dot (C.mulVec u)) ∧
      (∀ p : EigenPair ℝ, p.vector ≠ 0 → C.mulVec p.vector = p.vector.scale p.value →
        0 ≤ p.value ∧ Plane.deviation p = √p.value) ∧
      (∀ t : Vec3 ℝ, (ofList (points.map (· + t))).summary? = some (c + t, C)) ∧
      (∀ points', points.Perm points' → (ofList points').summary? = some (c, C)) ∧
      (∀ R : Mat3 ℝ, (ofList (points.map R.mulVec)).summary? =
        some (R.mulVec c, R * C * R.transpose)) ∧
      (C = 0 ↔ ∀ p ∈ points, ∀ q ∈ points, p = q)) := by
  intro c C
  have hc : c = LidarOdometry.centroid points := (centroid_eq_divide points).symm
  have hC : C = covarianceMatrix points := by
    simp only [C, hc]
    rfl
  clear_value c C
  subst hc hC
  refine ⟨summary?_eq_none_iff points, fun h => ⟨summary?_ofList h, mean_outer_sub_outer h,
    covarianceMatrix_transpose points, fun u => ?_, fun p hvector hscaled => ?_, fun t => ?_,
    fun points' hperm => ?_, fun R => ?_, covarianceMatrix_eq_zero_iff h⟩⟩
  · rw [dot_covarianceMatrix_mulVec]
    exact covariance_self_nonneg points u
  · have hvalue := value_nonneg hvector hscaled
    refine ⟨hvalue, ?_⟩
    rw [Plane.deviation_real, max_eq_left hvalue]
  · rw [summary?_ofList (List.map_eq_nil_iff.not.mpr h), centroid_map_add h,
      covarianceMatrix_map_add h]
  · have h' : points' ≠ [] := fun hnil => h (List.perm_nil.mp (hnil ▸ hperm))
    rw [summary?_ofList h', centroid_perm hperm, covarianceMatrix_perm hperm]
  · rw [summary?_ofList (List.map_eq_nil_iff.not.mpr h), centroid_map_mulVec,
      covarianceMatrix_map_mulVec]

/-- A cross with arms of one and of two. -/
theorem summary?_eq_mean_outer_cross :
    (ofList [(⟨3, 1, 0⟩ : Vec3 ℝ), ⟨1, 1, 0⟩, ⟨2, 3, 0⟩, ⟨2, -1, 0⟩]).summary? =
      some (⟨2, 1, 0⟩, ⟨⟨1 / 2, 0, 0⟩, ⟨0, 2, 0⟩, ⟨0, 0, 0⟩⟩) := by
  obtain ⟨-, hsome⟩ := summary?_eq_mean_outer [⟨3, 1, 0⟩, ⟨1, 1, 0⟩, ⟨2, 3, 0⟩, ⟨2, -1, 0⟩]
  obtain ⟨hsummary, -⟩ := hsome (List.cons_ne_nil _ _)
  rw [hsummary, Option.some.injEq, Prod.mk.injEq, ← centroid_eq_divide]
  have hcentroid : LidarOdometry.centroid
      [(⟨3, 1, 0⟩ : Vec3 ℝ), ⟨1, 1, 0⟩, ⟨2, 3, 0⟩, ⟨2, -1, 0⟩] = ⟨2, 1, 0⟩ := by
    refine Vec3.ext ?_ ?_ ?_ <;> norm_num [LidarOdometry.centroid, mean]
  refine ⟨hcentroid, ?_⟩
  refine Mat3.ext_dot fun u w => ?_
  rw [dot_mean_outer_mulVec, hcentroid]
  norm_num [mean, Mat3.mulVec, Vec3.dot]
  ring

end Moments

end LidarOdometry
