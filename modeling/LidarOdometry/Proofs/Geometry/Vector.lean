import LidarOdometry.Proofs.Numeric.Exact
import LidarOdometry.Geometry.Vector

/-!
# Vectors and Matrices over the Reals

What the library computes with vectors and matrices obeys, over the reals, the laws of linear
algebra. The laws used elsewhere are collected here, in the library's own terms.

## Main results

* `Vec3.abs_x_le_norm` and its companions: no coordinate is longer than the vector.
* `Vec3.norm_le_norm_iff`: lengths are ordered as their squares are.
* `Vec3.dot_normalize`: directions have length one.
* `Vec3.abs_dot_le_norm`: no component is longer than the vector.
* `Vec3.norm_sub_le`: the triangle inequality.
* `Vec3.lerp_eq`: interpolation has no special cases.
* `Vec3.lerp_zero`, `Vec3.lerp_one`, `Vec3.lerp_swap`, `Vec3.lerp_sub`: it runs evenly from the one
  end to the other.
* `Mat3.mul_mulVec`, `Mat3.mulVec_add`: matrices act linearly, and products act in turn.
-/

namespace LidarOdometry

section Coordinates

variable {α : Type} [Scalar α]

namespace Vec3

/-- The coordinates of a vector, by axis. -/
def coordinates {α : Type} (v : Vec3 α) : Fin 3 → α :=
  ![v.x, v.y, v.z]

variable (v w : Vec3 α) (k : α)

@[simp] theorem zero_x : (0 : Vec3 α).x = 0 := rfl

@[simp] theorem zero_y : (0 : Vec3 α).y = 0 := rfl

@[simp] theorem zero_z : (0 : Vec3 α).z = 0 := rfl

@[simp] theorem add_x : (v + w).x = v.x + w.x := rfl

@[simp] theorem add_y : (v + w).y = v.y + w.y := rfl

@[simp] theorem add_z : (v + w).z = v.z + w.z := rfl

@[simp] theorem sub_x : (v - w).x = v.x - w.x := rfl

@[simp] theorem sub_y : (v - w).y = v.y - w.y := rfl

@[simp] theorem sub_z : (v - w).z = v.z - w.z := rfl

@[simp] theorem neg_x : (-v).x = -v.x := rfl

@[simp] theorem neg_y : (-v).y = -v.y := rfl

@[simp] theorem neg_z : (-v).z = -v.z := rfl

end Vec3

/-- The rows of a product, entry by entry. -/
theorem Mat3.mul_def (m n : Mat3 α) : m * n =
    ⟨n.transpose.mulVec m.x, n.transpose.mulVec m.y, n.transpose.mulVec m.z⟩ := rfl

end Coordinates

namespace Vec3

variable (v w : Vec3 ℝ)

/-- The squared norm in coordinates. -/
theorem normSq_eq : v.normSq = v.x ^ 2 + v.y ^ 2 + v.z ^ 2 := by
  simp only [normSq, dot]
  ring

/-- No squared norm is negative. -/
theorem normSq_nonneg : 0 ≤ v.normSq := by
  rw [normSq_eq]
  exact add_nonneg (add_nonneg (sq_nonneg _) (sq_nonneg _)) (sq_nonneg _)

/-- Only the zero vector has no length. -/
theorem eq_zero_of_normSq_eq_zero {v : Vec3 ℝ} (h : v.normSq = 0) : v = 0 := by
  rw [normSq_eq] at h
  have hx := sq_nonneg v.x
  have hy := sq_nonneg v.y
  have hz := sq_nonneg v.z
  refine Vec3.ext ?_ ?_ ?_
  · exact pow_eq_zero_iff two_ne_zero |>.mp (by linarith)
  · exact pow_eq_zero_iff two_ne_zero |>.mp (by linarith)
  · exact pow_eq_zero_iff two_ne_zero |>.mp (by linarith)

/-- No norm is negative. -/
theorem norm_nonneg : 0 ≤ v.norm :=
  Real.sqrt_nonneg _

/-- The square of the norm is the squared norm. -/
theorem norm_mul_norm : v.norm * v.norm = v.normSq :=
  Real.mul_self_sqrt v.normSq_nonneg

/-- A unit vector is one whose inner product with itself is one. -/
theorem norm_eq_one_iff : v.norm = 1 ↔ v.dot v = 1 :=
  Real.sqrt_eq_one

/-- Only the zero vector has no length. -/
theorem eq_zero_of_norm_le_zero {v : Vec3 ℝ} (h : v.norm ≤ 0) : v = 0 := by
  refine eq_zero_of_normSq_eq_zero ?_
  rw [← norm_mul_norm, le_antisymm h v.norm_nonneg, mul_zero]

/-- The norm of a multiple. -/
theorem norm_scale (k : ℝ) : (v.scale k).norm = |k| * v.norm := by
  have hsq : (v.scale k).normSq = k ^ 2 * v.normSq := by
    simp only [normSq_eq, scale]
    ring
  rw [norm, hsq, Scalar.sqrt_real, Real.sqrt_mul (sq_nonneg k), Real.sqrt_sq_eq_abs]
  rfl

/-- **A direction has length one.** -/
theorem dot_normalize {v : Vec3 ℝ} (h : 0 < v.norm) : v.normalize.dot v.normalize = 1 := by
  have hsq : v.normalize.dot v.normalize = v.normSq / (v.norm * v.norm) := by
    simp only [normalize, divide, dot, normSq]
    field_simp
  rw [hsq, norm_mul_norm, div_self]
  rw [← norm_mul_norm]
  exact (mul_pos h h).ne'

/-- A vector of length one is its own direction. -/
theorem normalize_eq_self {v : Vec3 ℝ} (h : v.norm = 1) : v.normalize = v := by
  rw [normalize, h]
  exact Vec3.ext (div_one _) (div_one _) (div_one _)

/-- The inner product with the zero vector. -/
theorem dot_zero (u : Vec3 ℝ) : u.dot 0 = 0 := by
  simp [dot]

/-- The inner product of the zero vector. -/
theorem zero_dot (u : Vec3 ℝ) : (0 : Vec3 ℝ).dot u = 0 := by
  simp [dot]

/-- The inner product with an opposite. -/
theorem dot_neg (u v : Vec3 ℝ) : u.dot (-v) = -u.dot v := by
  simp only [dot, neg_x, neg_y, neg_z]
  ring

/-- The inner product with a sum. -/
theorem dot_add (u v w : Vec3 ℝ) : u.dot (v + w) = u.dot v + u.dot w := by
  simp only [dot, add_x, add_y, add_z]
  ring

/-- The inner product with a difference. -/
theorem dot_sub (u v w : Vec3 ℝ) : u.dot (v - w) = u.dot v - u.dot w := by
  simp only [dot, sub_x, sub_y, sub_z]
  ring

/-- The inner product with a multiple. -/
theorem dot_scale (u v : Vec3 ℝ) (k : ℝ) : u.dot (v.scale k) = u.dot v * k := by
  simp only [dot, scale]
  ring

/-- The inner product with a fraction. -/
theorem dot_divide (u v : Vec3 ℝ) (k : ℝ) : u.dot (v.divide k) = u.dot v / k := by
  simp only [dot, divide]
  ring

/-- The inner product does not depend on the order. -/
theorem dot_comm (u v : Vec3 ℝ) : u.dot v = v.dot u := by
  simp only [dot]
  ring

/-- A vector is known by its inner products. -/
theorem ext_dot {v w : Vec3 ℝ} (h : ∀ u : Vec3 ℝ, u.dot v = u.dot w) : v = w := by
  have hx := h ⟨1, 0, 0⟩
  have hy := h ⟨0, 1, 0⟩
  have hz := h ⟨0, 0, 1⟩
  simp only [dot, one_mul, zero_mul, add_zero, zero_add] at hx hy hz
  exact Vec3.ext hx hy hz

/-- A place is at no squared distance from itself. -/
theorem normSq_sub_self : (v - v).normSq = 0 := by
  simp [normSq_eq]

/-- A place is at no distance from itself. -/
theorem norm_sub_self : (v - v).norm = 0 := by
  rw [norm, normSq_sub_self, Scalar.sqrt_real, Real.sqrt_zero]

/-- Lengths are ordered as their squares are. -/
theorem norm_le_norm_iff : v.norm ≤ w.norm ↔ v.normSq ≤ w.normSq :=
  Real.sqrt_le_sqrt_iff w.normSq_nonneg

/-- The first coordinate is within the norm. -/
theorem abs_x_le_norm : |v.x| ≤ v.norm := by
  refine Real.abs_le_sqrt ?_
  rw [normSq_eq]
  linarith [sq_nonneg v.y, sq_nonneg v.z]

/-- The second coordinate is within the norm. -/
theorem abs_y_le_norm : |v.y| ≤ v.norm := by
  refine Real.abs_le_sqrt ?_
  rw [normSq_eq]
  linarith [sq_nonneg v.x, sq_nonneg v.z]

/-- The third coordinate is within the norm. -/
theorem abs_z_le_norm : |v.z| ≤ v.norm := by
  refine Real.abs_le_sqrt ?_
  rw [normSq_eq]
  linarith [sq_nonneg v.x, sq_nonneg v.y]

/-- **No component is longer than the vector**, in any direction. -/
theorem abs_dot_le_norm {u : Vec3 ℝ} (hu : u.dot u = 1) (v : Vec3 ℝ) : |u.dot v| ≤ v.norm := by
  have hlagrange : u.dot v ^ 2 + (u.cross v).normSq = u.dot u * v.normSq := by
    simp only [normSq, dot, cross]
    ring
  rw [hu, one_mul] at hlagrange
  refine Real.abs_le_sqrt ?_
  linarith [normSq_nonneg (u.cross v)]

/-- A vector is no longer than the diagonal of a cube that has it. -/
theorem norm_le_of_abs_le {v : Vec3 ℝ} {b : ℝ} (hx : |v.x| ≤ b) (hy : |v.y| ≤ b)
    (hz : |v.z| ≤ b) : v.norm ≤ √3 * b := by
  have hb : 0 ≤ b := (abs_nonneg _).trans hx
  have hsq : ∀ {c : ℝ}, |c| ≤ b → c ^ 2 ≤ b ^ 2 := fun hc => by
    rw [← sq_abs]
    exact pow_le_pow_left₀ (abs_nonneg _) hc 2
  refine Real.sqrt_le_iff.mpr ⟨by positivity, ?_⟩
  rw [normSq_eq, mul_pow, Real.sq_sqrt zero_le_three]
  linarith [hsq hx, hsq hy, hsq hz]

/-- The coordinates of a sum. -/
theorem coordinates_add : (v + w).coordinates = v.coordinates + w.coordinates := by
  ext i
  fin_cases i <;> rfl

/-- The coordinates of a difference. -/
theorem coordinates_sub : (v - w).coordinates = v.coordinates - w.coordinates := by
  ext i
  fin_cases i <;> rfl

/-- The norm is the Euclidean norm of the coordinates. -/
theorem norm_coordinates : ‖WithLp.toLp 2 v.coordinates‖ = v.norm := by
  rw [EuclideanSpace.norm_eq, norm, normSq_eq, Scalar.sqrt_real]
  simp [coordinates, Fin.sum_univ_three]

/-- **The triangle inequality.** -/
theorem norm_sub_le (u v w : Vec3 ℝ) : (u - w).norm ≤ (u - v).norm + (v - w).norm := by
  simp only [← norm_coordinates, coordinates_sub, WithLp.toLp_sub]
  exact norm_sub_le_norm_sub_add_norm_sub _ _ _

/-- **Interpolation has no special cases**: at the end, the other end counts for nothing. -/
theorem lerp_eq (t : ℝ) : v.lerp w t = w.scale t + v.scale (1 - t) := by
  simp only [lerp]
  split
  · next hrest =>
      have ht : 1 - t = 0 := le_antisymm hrest.1 hrest.2
      rw [ht]
      refine Vec3.ext ?_ ?_ ?_ <;> simp [scale]
  · rfl

/-- Interpolation starts at the first vector. -/
theorem lerp_zero : v.lerp w 0 = v := by
  rw [lerp_eq]
  refine Vec3.ext ?_ ?_ ?_ <;> simp [scale]

/-- **The other way** the points between two others are the same. -/
theorem lerp_swap (t : ℝ) : w.lerp v (1 - t) = v.lerp w t := by
  rw [lerp_eq, lerp_eq, sub_sub_cancel]
  exact Vec3.ext (add_comm _ _) (add_comm _ _) (add_comm _ _)

/-- Interpolation ends at the second vector. -/
theorem lerp_one : v.lerp w 1 = w := by
  rw [← lerp_swap, sub_self, lerp_zero]

/-- What a point between two others is away from the first. -/
theorem lerp_sub (t : ℝ) : v.lerp w t - v = (w - v).scale t := by
  rw [lerp_eq]
  refine Vec3.ext ?_ ?_ ?_ <;>
    simp only [scale, add_x, add_y, add_z, sub_x, sub_y, sub_z] <;> ring

end Vec3

namespace Mat3

variable (m n : Mat3 ℝ) (v w : Vec3 ℝ)

/-- The identity changes no vector. -/
theorem identity_mulVec : (identity : Mat3 ℝ).mulVec v = v := by
  refine Vec3.ext ?_ ?_ ?_ <;> simp [identity, mulVec, Vec3.dot]

/-- A matrix acts on sums term by term. -/
theorem mulVec_add : m.mulVec (v + w) = m.mulVec v + m.mulVec w := by
  refine Vec3.ext ?_ ?_ ?_ <;> simp only [mulVec, Vec3.dot, Vec3.add_x, Vec3.add_y, Vec3.add_z] <;>
    ring

/-- A matrix acts on multiples as on the vector. -/
theorem mulVec_scale (k : ℝ) : m.mulVec (v.scale k) = (m.mulVec v).scale k := by
  refine Vec3.ext ?_ ?_ ?_ <;> simp only [mulVec, Vec3.dot, Vec3.scale] <;> ring

/-- A sum of matrices acts term by term. -/
theorem add_mulVec : (m + n).mulVec v = m.mulVec v + n.mulVec v := by
  have hadd : m + n = ⟨m.x + n.x, m.y + n.y, m.z + n.z⟩ := rfl
  rw [hadd]
  refine Vec3.ext ?_ ?_ ?_ <;> simp only [mulVec, Vec3.dot, Vec3.add_x, Vec3.add_y, Vec3.add_z] <;>
    ring

/-- A difference of matrices acts term by term. -/
theorem sub_mulVec : (m - n).mulVec v = m.mulVec v - n.mulVec v := by
  have hsub : m - n = ⟨m.x - n.x, m.y - n.y, m.z - n.z⟩ := rfl
  rw [hsub]
  refine Vec3.ext ?_ ?_ ?_ <;> simp only [mulVec, Vec3.dot, Vec3.sub_x, Vec3.sub_y, Vec3.sub_z] <;>
    ring

/-- A fraction of a matrix acts as the matrix does, divided. -/
theorem divide_mulVec (k : ℝ) : (m.divide k).mulVec v = (m.mulVec v).divide k := by
  refine Vec3.ext ?_ ?_ ?_ <;> simp only [divide, Vec3.divide, mulVec, Vec3.dot] <;> ring

/-- The zero matrix leaves nothing. -/
theorem zero_mulVec : (0 : Mat3 ℝ).mulVec v = 0 :=
  Vec3.ext (Vec3.zero_dot v) (Vec3.zero_dot v) (Vec3.zero_dot v)

/-- An outer product projects onto its second vector. -/
theorem outer_mulVec (u : Vec3 ℝ) : (u.outer v).mulVec w = u.scale (v.dot w) := by
  refine Vec3.ext ?_ ?_ ?_ <;> simp only [Vec3.outer, Vec3.scale, mulVec, Vec3.dot] <;> ring

/-- The identity is neutral on the right. -/
theorem mul_identity : m * identity = m := by
  refine Mat3.ext ?_ ?_ ?_ <;> simp [identity, mul_def, mulVec, transpose, Vec3.dot]

/-- The identity is neutral on the left. -/
theorem identity_mul : identity * m = m := by
  refine Mat3.ext ?_ ?_ ?_ <;> simp [identity, mul_def, mulVec, transpose, Vec3.dot]

/-- Products of matrices may be grouped in any way. -/
theorem mul_assoc (m n o : Mat3 ℝ) : m * n * o = m * (n * o) := by
  simp only [Mat3.ext_iff, Vec3.ext_iff, mul_def, mulVec, transpose, Vec3.dot]
  refine ⟨⟨?_, ?_, ?_⟩, ⟨?_, ?_, ?_⟩, ?_, ?_, ?_⟩ <;> ring

/-- The transpose of a product. -/
theorem transpose_mul : (m * n).transpose = n.transpose * m.transpose := by
  simp only [Mat3.ext_iff, Vec3.ext_iff, mul_def, mulVec, transpose, Vec3.dot]
  refine ⟨⟨?_, ?_, ?_⟩, ⟨?_, ?_, ?_⟩, ?_, ?_, ?_⟩ <;> ring

/-- A product acts by its factors in turn. -/
theorem mul_mulVec : (m * n).mulVec v = m.mulVec (n.mulVec v) := by
  refine Vec3.ext ?_ ?_ ?_ <;> simp only [mul_def, transpose, mulVec, Vec3.dot] <;> ring

/-- A matrix is known by the form it defines. -/
theorem ext_dot {m n : Mat3 ℝ} (h : ∀ u v : Vec3 ℝ, u.dot (m.mulVec v) = u.dot (n.mulVec v)) :
    m = n := by
  have hrow : ∀ (a b : Vec3 ℝ), (∀ v, a.dot v = b.dot v) → a = b := fun a b hab =>
    Vec3.ext_dot fun u => by rw [Vec3.dot_comm u a, Vec3.dot_comm u b, hab]
  have hvec : ∀ v, m.mulVec v = n.mulVec v := fun v => Vec3.ext_dot fun u => h u v
  exact Mat3.ext (hrow _ _ fun v => congrArg Vec3.x (hvec v))
    (hrow _ _ fun v => congrArg Vec3.y (hvec v)) (hrow _ _ fun v => congrArg Vec3.z (hvec v))

/-- A matrix can be moved across an inner product. -/
theorem dot_mulVec : (m.mulVec v).dot w = v.dot (m.transpose.mulVec w) := by
  simp only [mulVec, transpose, Vec3.dot]
  ring

end Mat3

end LidarOdometry
