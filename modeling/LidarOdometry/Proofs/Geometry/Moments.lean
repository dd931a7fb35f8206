import LidarOdometry.Proofs.Geometry.Vector
import LidarOdometry.Geometry.Moments

/-!
# Moments over the Reals

The covariance of some points is gathered in one pass, as the mean of the products of coordinates
less the products of the means. What it stands for are products of deviations: between two
directions it takes the mean, over the points, of how far a point lies from the centroid along the
one times how far along the other. So the covariance does not prefer an order of the points, it is
symmetric, and along any direction it is not negative.

## Main definitions

* `mean`: the mean of a quantity over some points.
* `centroid`: the point of mean coordinates.
* `covariance`: the mean product of the deviations along two directions.

## Main results

* `Moments.ofList_perm`: the order of the points does not matter.
* `Moments.centroid_ofList`, `Moments.dot_covariance_mulVec`: what is gathered.
* `mean_dot_sub_centroid`: deviations from the centroid balance.
-/

namespace LidarOdometry

/-! ### Means -/

/-- **The mean of a quantity** over some points. -/
noncomputable def mean (points : List (Vec3 ℝ)) (f : Vec3 ℝ → ℝ) : ℝ :=
  (points.map f).sum / points.length

section Mean

variable {points : List (Vec3 ℝ)} {f g : Vec3 ℝ → ℝ}

/-- The mean of a sum. -/
theorem mean_add (points : List (Vec3 ℝ)) (f g : Vec3 ℝ → ℝ) :
    mean points (fun p => f p + g p) = mean points f + mean points g := by
  rw [mean, List.sum_map_add, add_div]
  rfl

/-- The mean of a multiple. -/
theorem mean_const_mul (points : List (Vec3 ℝ)) (k : ℝ) (f : Vec3 ℝ → ℝ) :
    mean points (fun p => k * f p) = k * mean points f := by
  rw [mean, List.sum_map_mul_left, mul_div_assoc]
  rfl

/-- The mean of a constant, provided that there are points. -/
theorem mean_const (h : points ≠ []) (k : ℝ) : mean points (fun _ => k) = k := by
  have hlength : (points.length : ℝ) ≠ 0 := by
    exact_mod_cast (List.length_pos_iff.mpr h).ne'
  rw [mean, List.map_const', List.sum_replicate, nsmul_eq_mul, mul_div_cancel_left₀ _ hlength]

/-- A sum is the mean times the number of points. -/
theorem sum_map_eq_mean (h : points ≠ []) (f : Vec3 ℝ → ℝ) :
    (points.map f).sum = points.length * mean points f := by
  have hlength : (points.length : ℝ) ≠ 0 := by
    exact_mod_cast (List.length_pos_iff.mpr h).ne'
  rw [mean, mul_div_cancel₀ _ hlength]

/-- The mean depends on the values at the points only. -/
theorem mean_congr (h : ∀ p ∈ points, f p = g p) : mean points f = mean points g := by
  rw [mean, List.map_congr_left h]
  rfl

/-- The mean of values that are not negative is not negative. -/
theorem mean_nonneg (h : ∀ p ∈ points, 0 ≤ f p) : 0 ≤ mean points f := by
  refine div_nonneg (List.sum_nonneg ?_) (Nat.cast_nonneg _)
  exact List.forall_mem_map.mpr h

end Mean

/-- **The point of mean coordinates.** -/
noncomputable def centroid (points : List (Vec3 ℝ)) : Vec3 ℝ :=
  ⟨mean points Vec3.x, mean points Vec3.y, mean points Vec3.z⟩

/-- **The mean product of the deviations** from the centroid along two directions. -/
noncomputable def covariance (points : List (Vec3 ℝ)) (u w : Vec3 ℝ) : ℝ :=
  mean points fun p => u.dot (p - centroid points) * w.dot (p - centroid points)

section Deviations

variable {points : List (Vec3 ℝ)}

/-- Along any direction the centroid lies at the mean of the points. -/
theorem dot_centroid (points : List (Vec3 ℝ)) (u : Vec3 ℝ) :
    u.dot (centroid points) = mean points u.dot := by
  have hdot : mean points u.dot =
      mean points fun p => u.x * p.x + u.y * p.y + u.z * p.z := rfl
  rw [hdot, mean_add, mean_add, mean_const_mul, mean_const_mul, mean_const_mul]
  rfl

/-- **Deviations from the centroid balance.** -/
theorem mean_dot_sub_centroid (points : List (Vec3 ℝ)) (u : Vec3 ℝ) :
    mean points (fun p => u.dot (p - centroid points)) = 0 := by
  rcases eq_or_ne points [] with rfl | h
  · simp [mean]
  · have hdeviation : mean points (fun p => u.dot (p - centroid points)) =
        mean points fun p => u.dot p + -u.dot (centroid points) := by
      refine mean_congr fun p _ => ?_
      rw [Vec3.dot_sub, sub_eq_add_neg]
    rw [hdeviation, mean_add, mean_const h, dot_centroid, add_neg_cancel]

/-- **The covariance as it is gathered**: the mean product, less the product of the means. -/
theorem covariance_eq (h : points ≠ []) (u w : Vec3 ℝ) :
    covariance points u w = mean points (fun p => u.dot p * w.dot p) -
      u.dot (centroid points) * w.dot (centroid points) := by
  have hproduct : covariance points u w = mean points fun p => u.dot p * w.dot p +
      (-w.dot (centroid points) * u.dot p + (-u.dot (centroid points) * w.dot p +
        u.dot (centroid points) * w.dot (centroid points))) := by
    refine mean_congr fun p _ => ?_
    rw [Vec3.dot_sub, Vec3.dot_sub]
    ring
  rw [hproduct, mean_add, mean_add, mean_add, mean_const_mul, mean_const_mul, mean_const h,
    ← dot_centroid, ← dot_centroid]
  ring

/-- The covariance along two directions does not depend on their order. -/
theorem covariance_comm (points : List (Vec3 ℝ)) (u w : Vec3 ℝ) :
    covariance points u w = covariance points w u :=
  mean_congr fun _ _ => mul_comm _ _

/-- **No variance is negative.** -/
theorem covariance_self_nonneg (points : List (Vec3 ℝ)) (u : Vec3 ℝ) : 0 ≤ covariance points u u :=
  mean_nonneg fun _ _ => mul_self_nonneg _

/-- **Points at one height** along a direction do not vary along it. -/
theorem covariance_self_eq_zero {u : Vec3 ℝ} {k : ℝ} (h : ∀ p ∈ points, u.dot p = k) :
    covariance points u u = 0 := by
  rcases eq_or_ne points [] with rfl | hne
  · simp [covariance, mean]
  · have hcentroid : u.dot (centroid points) = k := by
      rw [dot_centroid, mean_congr h, mean_const hne]
    have hzero : covariance points u u = mean points fun _ => 0 := by
      refine mean_congr fun p hp => ?_
      rw [Vec3.dot_sub, h p hp, hcentroid, sub_self, mul_zero]
    rw [hzero, mean_const hne]

end Deviations

/-! ### What is gathered -/

namespace Moments

variable {points points' : List (Vec3 ℝ)}

/-- One more point is added last. -/
theorem ofList_concat (points : List (Vec3 ℝ)) (p : Vec3 ℝ) :
    ofList (points ++ [p]) = (ofList points).add p :=
  List.foldl_concat ..

/-- What every vector adds to is a sum over the vectors. -/
theorem map_ofList {M : Type} [AddMonoid M] {f : Moments ℝ → M} {g : Vec3 ℝ → M}
    (hempty : f empty = 0) (hadd : ∀ m p, f (m.add p) = f m + g p) (points : List (Vec3 ℝ)) :
    f (ofList points) = (points.map g).sum := by
  induction points using List.reverseRecOn with
  | nil => exact hempty
  | append_singleton points p ih =>
      rw [ofList_concat, hadd, ih, List.map_append, List.sum_append, List.map_singleton,
        List.sum_singleton]

/-- The points are counted. -/
theorem count_ofList (points : List (Vec3 ℝ)) : (ofList points).count = points.length := by
  rw [map_ofList (f := count) (g := fun _ => 1) rfl fun _ _ => rfl, List.map_const',
    List.sum_replicate, smul_eq_mul, mul_one]

/-- The coordinates along a direction are summed. -/
theorem dot_sum_ofList (points : List (Vec3 ℝ)) (u : Vec3 ℝ) :
    u.dot (ofList points).sum = (points.map u.dot).sum :=
  map_ofList (f := fun m => u.dot m.sum) u.dot_zero (fun m p => u.dot_add m.sum p) points

/-- The products of coordinates along two directions are summed. -/
theorem dot_products_mulVec_ofList (points : List (Vec3 ℝ)) (u w : Vec3 ℝ) :
    u.dot ((ofList points).products.mulVec w) =
      (points.map fun p => u.dot p * w.dot p).sum := by
  refine map_ofList (f := fun m => u.dot (m.products.mulVec w)) ?_ (fun m p => ?_) points
  · rw [empty, Mat3.zero_mulVec, Vec3.dot_zero]
  · rw [add, Mat3.add_mulVec, Mat3.outer_mulVec, Vec3.dot_add, Vec3.dot_scale, Vec3.dot_comm p]

/-- **The centroid is gathered.** -/
theorem centroid_ofList (points : List (Vec3 ℝ)) :
    (ofList points).centroid = LidarOdometry.centroid points := by
  refine Vec3.ext_dot fun u => ?_
  rw [centroid, Vec3.dot_divide, dot_sum_ofList, count_ofList, dot_centroid]
  rfl

/-- **The covariance is gathered.** -/
theorem dot_covariance_mulVec (h : points ≠ []) (u w : Vec3 ℝ) :
    u.dot ((ofList points).covariance.mulVec w) = LidarOdometry.covariance points u w := by
  rw [covariance, Mat3.sub_mulVec, Mat3.divide_mulVec, Mat3.outer_mulVec, Vec3.dot_sub,
    Vec3.dot_divide, Vec3.dot_scale, dot_products_mulVec_ofList, count_ofList, centroid_ofList,
    covariance_eq h, Vec3.dot_comm _ w]
  rfl

/-- Two vectors can be added in either order. -/
theorem add_add_comm (m : Moments ℝ) (v w : Vec3 ℝ) : (m.add v).add w = (m.add w).add v := by
  have hsum : m.sum + v + w = m.sum + w + v := by
    refine Vec3.ext_dot fun u => ?_
    simp only [Vec3.dot_add]
    ring
  have hproducts : m.products + v.outer v + w.outer w = m.products + w.outer w + v.outer v := by
    refine Mat3.ext_dot fun u x => ?_
    simp only [Mat3.add_mulVec, Vec3.dot_add]
    ring
  simp only [add, hsum, hproducts]

/-- **The order of the points does not matter.** -/
theorem ofList_perm (h : points.Perm points') : ofList points = ofList points' :=
  h.foldl_eq' (fun v _ w _ m => add_add_comm m v w) empty

end Moments

/-- The centroid does not depend on the order of the points. -/
theorem centroid_perm {points points' : List (Vec3 ℝ)} (h : points.Perm points') :
    centroid points' = centroid points := by
  rw [← Moments.centroid_ofList, ← Moments.centroid_ofList, Moments.ofList_perm h]

end LidarOdometry
