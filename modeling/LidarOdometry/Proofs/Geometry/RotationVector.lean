import LidarOdometry.Proofs.Geometry.Rotation

/-!
# Rotation Vectors

A rotation vector turns space about its direction, by its length. Over the reals the result is a
rotation whatever the vector, the zero vector included; and along the multiples of a vector it
starts out as the vector product with it.

## Main results

* `Mat3.ofAxis_mulVec`: the image of a vector, along, across and about the axis.
* `Mat3.isRotation_ofRotationVector`: rotation vectors give rotations.
* `Mat3.ofRotationVector_scale`: the multiples of a vector have one axis.
* `Mat3.hasDerivAt_ofRotationVector`: to first order a turn is a vector product.
-/

namespace LidarOdometry

namespace Mat3

variable {u v w : Vec3 ℝ} {sin cos : ℝ}

/-- **The image of a vector** under a turn about an axis. -/
theorem ofAxis_mulVec (u : Vec3 ℝ) (sin cos : ℝ) (v : Vec3 ℝ) : (ofAxis u sin cos).mulVec v =
    v.scale cos + (u.cross v).scale sin + u.scale (u.dot v * (1 - cos)) := by
  refine Vec3.ext ?_ ?_ ?_ <;>
    simp only [ofAxis, mulVec, Vec3.dot, Vec3.cross, Vec3.scale, Vec3.add_x, Vec3.add_y,
      Vec3.add_z] <;> ring

/-- **A turn about an axis is a rotation.** -/
theorem isRotation_ofAxis (hu : u.dot u = 1) (hangle : sin * sin + cos * cos = 1) :
    (ofAxis u sin cos).IsRotation := by
  simp only [Vec3.dot] at hu
  refine .of_rows ⟨?_, ?_, ?_, ?_, ?_, ?_⟩ ?_ <;>
    simp only [ofAxis, det, Vec3.dot, Vec3.cross]
  · linear_combination (1 - u.x * u.x) * hangle + (sin * sin + (1 - cos) ^ 2 * (u.x * u.x)) * hu
  · linear_combination (1 - u.y * u.y) * hangle + (sin * sin + (1 - cos) ^ 2 * (u.y * u.y)) * hu
  · linear_combination (1 - u.z * u.z) * hangle + (sin * sin + (1 - cos) ^ 2 * (u.z * u.z)) * hu
  · linear_combination u.x * u.y * ((1 - cos) ^ 2 * hu - hangle)
  · linear_combination u.x * u.z * ((1 - cos) ^ 2 * hu - hangle)
  · linear_combination u.y * u.z * ((1 - cos) ^ 2 * hu - hangle)
  · linear_combination hangle + (sin * sin + (1 - cos) *
      (cos * cos + sin * sin * (u.x * u.x + u.y * u.y + u.z * u.z))) * hu

/-- **Rotation vectors give rotations.** -/
theorem isRotation_ofRotationVector (v : Vec3 ℝ) : (ofRotationVector v).IsRotation := by
  simp only [ofRotationVector]
  split
  · exact .identity
  · next hnorm =>
      refine isRotation_ofAxis (Vec3.dot_normalize (not_le.mp hnorm)) ?_
      rw [← sq, ← sq]
      exact Real.sin_sq_add_cos_sq v.norm

/-- The zero vector does not turn. -/
theorem ofAxis_zero (u : Vec3 ℝ) : ofAxis u 0 1 = identity := by
  simp [ofAxis, identity]

/-- The zero vector turns nothing. -/
theorem ofRotationVector_zero : ofRotationVector (0 : Vec3 ℝ) = identity := by
  refine if_pos (le_of_eq ?_)
  rw [Vec3.norm, Vec3.normSq_eq]
  simp [Scalar.sqrt_real]

/-- About the opposite axis a turn is the other way round. -/
theorem ofAxis_neg (u : Vec3 ℝ) (sin cos : ℝ) : ofAxis (-u) (-sin) cos = ofAxis u sin cos := by
  simp [ofAxis]

/-- **The multiples of a vector have one axis.** -/
theorem ofRotationVector_scale (hv : 0 < v.norm) (s : ℝ) : ofRotationVector (v.scale s) =
    ofAxis v.normalize (Real.sin (s * v.norm)) (Real.cos (s * v.norm)) := by
  have haxis : ∀ {k : ℝ}, k ≠ 0 → (v.scale s).divide (k * v.norm) = v.normalize.scale (s / k) :=
    fun hk => by
      refine Vec3.ext ?_ ?_ ?_ <;> simp only [Vec3.scale, Vec3.divide, Vec3.normalize] <;>
        field_simp
  have hturn : ∀ hs : s ≠ 0, ofRotationVector (v.scale s) =
      ofAxis (v.normalize.scale (s / |s|)) (Real.sin (|s| * v.norm)) (Real.cos (|s| * v.norm)) := by
    intro hs
    have hpos : 0 < |s| * v.norm := mul_pos (abs_pos.mpr hs) hv
    simp only [ofRotationVector, Vec3.norm_scale]
    rw [if_neg hpos.not_ge, haxis (abs_ne_zero.mpr hs)]
    rfl
  rcases lt_trichotomy s 0 with hs | rfl | hs
  · -- the opposite turn about the opposite axis
    have hopposite : v.normalize.scale (-1) = -v.normalize := by
      refine Vec3.ext ?_ ?_ ?_ <;> simp [Vec3.scale]
    rw [hturn hs.ne, abs_of_neg hs, div_neg, div_self hs.ne, hopposite, neg_mul, Real.sin_neg,
      Real.cos_neg, ofAxis_neg]
  · have hzero : ofRotationVector (v.scale 0) = identity := by
      refine if_pos ?_
      rw [Vec3.norm_scale, abs_zero, zero_mul]
    rw [hzero, zero_mul, Real.sin_zero, Real.cos_zero, ofAxis_zero]
  · have hsame : v.normalize.scale 1 = v.normalize := by
      refine Vec3.ext ?_ ?_ ?_ <;> simp [Vec3.scale]
    rw [hturn hs.ne', abs_of_pos hs, div_self hs.ne', hsame]

/-- **To first order a turn is a vector product** with the rotation vector. -/
theorem hasDerivAt_ofRotationVector (v w m : Vec3 ℝ) :
    HasDerivAt (fun s : ℝ => m.dot ((ofRotationVector (v.scale s)).mulVec w)) (m.dot (v.cross w))
      0 := by
  rcases v.norm_nonneg.eq_or_lt with hzero | hpos
  · obtain rfl : v = 0 := Vec3.eq_zero_of_norm_le_zero hzero.ge
    have hrest : (fun s : ℝ => m.dot ((ofRotationVector ((0 : Vec3 ℝ).scale s)).mulVec w)) =
        fun _ => m.dot w := by
      funext s
      have hnorm : ((0 : Vec3 ℝ).scale s).norm ≤ 0 := by
        rw [Vec3.norm_scale, ← hzero, mul_zero]
      rw [ofRotationVector, if_pos hnorm, identity_mulVec]
    have hcross : m.dot ((0 : Vec3 ℝ).cross w) = 0 := by
      simp [Vec3.cross, Vec3.dot]
    rw [hrest, hcross]
    exact hasDerivAt_const _ _
  -- along the line the turn is about one axis, by an angle that grows evenly
  · have himage : (fun s : ℝ => m.dot ((ofRotationVector (v.scale s)).mulVec w)) = fun s : ℝ =>
        m.dot w * Real.cos (s * v.norm) + m.dot (v.normalize.cross w) * Real.sin (s * v.norm) +
          m.dot v.normalize * (v.normalize.dot w * (1 - Real.cos (s * v.norm))) := by
      funext s
      rw [ofRotationVector_scale hpos, ofAxis_mulVec, Vec3.dot_add, Vec3.dot_add, Vec3.dot_scale,
        Vec3.dot_scale, Vec3.dot_scale]
    have hangle : HasDerivAt (fun s : ℝ => s * v.norm) v.norm 0 := hasDerivAt_mul_const v.norm
    have hcos := hangle.cos
    have hsin := hangle.sin
    rw [zero_mul, Real.sin_zero, neg_zero, zero_mul] at hcos
    rw [zero_mul, Real.cos_zero, one_mul] at hsin
    rw [himage]
    refine (((hcos.const_mul _).add (hsin.const_mul _)).add
      (((hcos.const_sub 1).const_mul _).const_mul _)).congr_deriv ?_
    have hcross : v.cross w = (v.normalize.cross w).scale v.norm := by
      refine Vec3.ext ?_ ?_ ?_ <;>
        simp only [Vec3.cross, Vec3.scale, Vec3.normalize, Vec3.divide] <;> field_simp
    rw [hcross, Vec3.dot_scale]
    ring

end Mat3

end LidarOdometry
