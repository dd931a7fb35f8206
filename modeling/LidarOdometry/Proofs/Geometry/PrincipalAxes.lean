import LidarOdometry.Proofs.Geometry.Rotation
import LidarOdometry.Geometry.Eigen

/-!
# Principal Axes over the Reals

Three orthonormal vectors are the rows of a rotation, once one of them is turned round if need be;
so inner products can be taken in their coordinates. In the coordinates of the principal axes of a
symmetric matrix its form is a weighted sum of squares, and the weights are the eigenvalues. Among
the directions the form is therefore largest along the axis of the largest eigenvalue and smallest
along that of the smallest.

Nothing is assumed here of how axes are found, only what they have to be.

## Main definitions

* `Orthonormal`: three vectors of length one at right angles.
* `Eigensystem.Decomposes`: the principal axes of a matrix.

## Main results

* `Orthonormal.dot_eq`: inner products in the coordinates of orthonormal vectors.
* `Eigensystem.Decomposes.descending`, `Eigensystem.descending_sorted`: ordered axes.
* `Eigensystem.Decomposes.dot_mulVec`: the form along the axes.
* `Eigensystem.Decomposes.le_dot_mulVec`, `Eigensystem.Decomposes.dot_mulVec_le`: its extremes.
* `Eigensystem.Decomposes.second_eq_zero`: forms that vanish across one direction.
* `Mat3.jacobi_diagonal`: a diagonal matrix is decomposed as it stands.
-/

namespace LidarOdometry

/-! ### Orthonormal vectors -/

/-- **Three vectors of length one** at right angles to each other. -/
structure Orthonormal (a b c : Vec3 ℝ) : Prop where
  first : a.dot a = 1
  second : b.dot b = 1
  third : c.dot c = 1
  first_second : a.dot b = 0
  first_third : a.dot c = 0
  second_third : b.dot c = 0

namespace Orthonormal

variable {a b c : Vec3 ℝ}

/-- The first two vectors may be exchanged. -/
theorem swap_first (h : Orthonormal a b c) : Orthonormal b a c where
  first := h.second
  second := h.first
  third := h.third
  first_second := (Vec3.dot_comm b a).trans h.first_second
  first_third := h.second_third
  second_third := h.first_third

/-- The last two vectors may be exchanged. -/
theorem swap_last (h : Orthonormal a b c) : Orthonormal a c b where
  first := h.first
  second := h.third
  third := h.second
  first_second := h.first_third
  first_third := h.first_second
  second_third := (Vec3.dot_comm c b).trans h.second_third

/-- **Orthonormal vectors are the rows of a rotation**, one of them turned round if need be. -/
theorem isRotation (h : Orthonormal a b c) :
    (⟨a, b, c⟩ : Mat3 ℝ).IsRotation ∨ (⟨a, b, -c⟩ : Mat3 ℝ).IsRotation := by
  have hgram : a.dot (b.cross c) * a.dot (b.cross c) =
      a.dot a * (b.dot b * c.dot c - b.dot c * b.dot c) -
        a.dot b * (a.dot b * c.dot c - b.dot c * a.dot c) +
        a.dot c * (a.dot b * b.dot c - b.dot b * a.dot c) := by
    simp only [Vec3.dot, Vec3.cross]
    ring
  have hdet : a.dot (b.cross c) * a.dot (b.cross c) = 1 := by
    rw [hgram, h.first, h.second, h.third, h.first_second, h.first_third, h.second_third]
    norm_num
  rcases mul_self_eq_one_iff.mp hdet with hdet | hdet
  · exact .inl (.of_rows ⟨h.first, h.second, h.third, h.first_second, h.first_third,
      h.second_third⟩ hdet)
  · right
    refine .of_rows ⟨h.first, h.second, ?_, h.first_second, ?_, ?_⟩ ?_
    · rw [Vec3.dot_neg, Vec3.dot_comm, Vec3.dot_neg, neg_neg, h.third]
    · rw [Vec3.dot_neg, h.first_third, neg_zero]
    · rw [Vec3.dot_neg, h.second_third, neg_zero]
    · have hflip : (⟨a, b, -c⟩ : Mat3 ℝ).det = -a.dot (b.cross c) := by
        simp only [Mat3.det, Vec3.dot, Vec3.cross, Vec3.neg_x, Vec3.neg_y, Vec3.neg_z]
        ring
      rw [hflip, hdet, neg_neg]

/-- **Inner products in the coordinates** of orthonormal vectors. -/
theorem dot_eq (h : Orthonormal a b c) (u w : Vec3 ℝ) :
    u.dot w = a.dot u * a.dot w + b.dot u * b.dot w + c.dot u * c.dot w := by
  have hkeep : ∀ {m : Mat3 ℝ}, m.IsRotation → u.dot w = (m.mulVec u).dot (m.mulVec w) :=
    fun hm => by rw [Mat3.dot_mulVec, hm.transpose_mulVec_mulVec]
  rcases h.isRotation with hm | hm
  · exact hkeep hm
  · rw [hkeep hm]
    simp only [Mat3.mulVec, Vec3.dot, Vec3.neg_x, Vec3.neg_y, Vec3.neg_z]
    ring

end Orthonormal

/-! ### Principal axes -/

/-- **The principal axes of a matrix**: orthonormal vectors that it scales. -/
structure Eigensystem.Decomposes (e : Eigensystem ℝ) (m : Mat3 ℝ) : Prop where
  orthonormal : Orthonormal e.first.vector e.second.vector e.third.vector
  first : m.mulVec e.first.vector = e.first.vector.scale e.first.value
  second : m.mulVec e.second.vector = e.second.vector.scale e.second.value
  third : m.mulVec e.third.vector = e.third.vector.scale e.third.value

namespace Eigensystem

variable {e : Eigensystem ℝ} {m : Mat3 ℝ} {a b c : EigenPair ℝ}

/-- The first two axes may be exchanged. -/
theorem Decomposes.swap_first (h : Decomposes ⟨a, b, c⟩ m) : Decomposes ⟨b, a, c⟩ m :=
  ⟨h.orthonormal.swap_first, h.second, h.first, h.third⟩

/-- The last two axes may be exchanged. -/
theorem Decomposes.swap_last (h : Decomposes ⟨a, b, c⟩ m) : Decomposes ⟨a, c, b⟩ m :=
  ⟨h.orthonormal.swap_last, h.first, h.third, h.second⟩

/-- **Ordered axes** are principal axes. -/
theorem Decomposes.descending (h : e.Decomposes m) : e.descending.Decomposes m := by
  obtain ⟨a, b, c⟩ := e
  by_cases hab : a.value < b.value <;>
    simp only [Eigensystem.descending, hab, if_true, if_false]
  · split
    · split
      · exact h.swap_last.swap_first.swap_last
      · exact h.swap_first.swap_last
    · exact h.swap_first
  · split
    · split
      · exact h.swap_last.swap_first
      · exact h.swap_last
    · exact h

/-- **Ordered axes** have decreasing eigenvalues. -/
theorem descending_sorted (e : Eigensystem ℝ) :
    e.descending.second.value ≤ e.descending.first.value ∧
      e.descending.third.value ≤ e.descending.second.value := by
  obtain ⟨a, b, c⟩ := e
  by_cases hab : a.value < b.value <;>
    simp only [Eigensystem.descending, hab, if_true, if_false]
  · split
    · next hac =>
        split
        · next hbc => exact ⟨hbc.le, hab.le⟩
        · next hbc => exact ⟨not_lt.mp hbc, hac.le⟩
    · next hac => exact ⟨hab.le, not_lt.mp hac⟩
  · split
    · next hbc =>
        split
        · next hac => exact ⟨hac.le, not_lt.mp hab⟩
        · next hac => exact ⟨not_lt.mp hac, hbc.le⟩
    · next hbc => exact ⟨not_lt.mp hab, not_lt.mp hbc⟩

section Form

variable (h : e.Decomposes m) (hsymm : ∀ u w : Vec3 ℝ, u.dot (m.mulVec w) = w.dot (m.mulVec u))
include h hsymm

/-- **The form along the axes** is a weighted sum of products. -/
theorem Decomposes.dot_mulVec (u w : Vec3 ℝ) : u.dot (m.mulVec w) =
    e.first.value * (e.first.vector.dot u * e.first.vector.dot w) +
      e.second.value * (e.second.vector.dot u * e.second.vector.dot w) +
      e.third.value * (e.third.vector.dot u * e.third.vector.dot w) := by
  have hscaled : ∀ {p : EigenPair ℝ}, m.mulVec p.vector = p.vector.scale p.value →
      p.vector.dot (m.mulVec w) = p.vector.dot w * p.value := fun hp => by
    rw [hsymm, hp, Vec3.dot_scale, Vec3.dot_comm]
  rw [h.orthonormal.dot_eq u, hscaled h.first, hscaled h.second, hscaled h.third]
  ring

/-- **A form that vanishes across one direction** has one axis along which it does not, if it is
nowhere negative. -/
theorem Decomposes.second_eq_zero {d : Vec3 ℝ}
    (hd : ∀ u : Vec3 ℝ, u.dot d = 0 → u.dot (m.mulVec u) = 0) (hfirst : 0 < e.first.value)
    (hsecond : 0 ≤ e.second.value) : e.second.value = 0 := by
  set a := e.first.vector
  set b := e.second.vector
  -- the direction in the plane of the first two axes that is at right angles to `d`
  let v := b.scale (a.dot d) - a.scale (b.dot d)
  have hdot : ∀ w : Vec3 ℝ, w.dot v = w.dot b * a.dot d - w.dot a * b.dot d := fun w => by
    rw [Vec3.dot_sub, Vec3.dot_scale, Vec3.dot_scale]
  have hacross : v.dot d = 0 := by
    rw [Vec3.dot_comm, hdot, Vec3.dot_comm d b, Vec3.dot_comm d a, mul_comm, sub_self]
  have ha : a.dot v = -b.dot d := by
    rw [hdot, h.orthonormal.first_second, h.orthonormal.first, zero_mul, one_mul, zero_sub]
  have hb : b.dot v = a.dot d := by
    rw [hdot, h.orthonormal.second, Vec3.dot_comm b a, h.orthonormal.first_second, one_mul,
      zero_mul, sub_zero]
  have hc : e.third.vector.dot v = 0 := by
    rw [hdot, Vec3.dot_comm _ b, h.orthonormal.second_third, Vec3.dot_comm _ a,
      h.orthonormal.first_third, zero_mul, zero_mul, sub_zero]
  have hform := h.dot_mulVec hsymm v v
  rw [hd v hacross, ha, hb, hc] at hform
  have hzero : b.dot d = 0 := by
    have hterm := mul_nonneg hsecond (mul_self_nonneg (a.dot d))
    have hsquare : b.dot d * b.dot d ≤ 0 := by
      refine nonpos_of_mul_nonpos_right ?_ hfirst
      linarith
    exact mul_self_eq_zero.mp (le_antisymm hsquare (mul_self_nonneg _))
  have hvalue := hd b hzero
  rw [h.second, Vec3.dot_scale, h.orthonormal.second, one_mul] at hvalue
  exact hvalue

variable (hsorted : e.second.value ≤ e.first.value ∧ e.third.value ≤ e.second.value) {u : Vec3 ℝ}
include hsorted

/-- **No direction has a smaller form** than the last axis. -/
theorem Decomposes.le_dot_mulVec (hu : u.dot u = 1) : e.third.value ≤ u.dot (m.mulVec u) := by
  have hlength := h.orthonormal.dot_eq u u
  rw [hu] at hlength
  have hfirst := mul_le_mul_of_nonneg_right (hsorted.2.trans hsorted.1)
    (mul_self_nonneg (e.first.vector.dot u))
  have hsecond := mul_le_mul_of_nonneg_right hsorted.2 (mul_self_nonneg (e.second.vector.dot u))
  calc e.third.value
      = e.third.value * 1 := (mul_one _).symm
    _ = e.third.value * (e.first.vector.dot u * e.first.vector.dot u) +
          e.third.value * (e.second.vector.dot u * e.second.vector.dot u) +
          e.third.value * (e.third.vector.dot u * e.third.vector.dot u) := by
        rw [hlength, mul_add, mul_add]
    _ ≤ u.dot (m.mulVec u) := by
        rw [h.dot_mulVec hsymm]
        exact add_le_add (add_le_add hfirst hsecond) le_rfl

/-- **No direction has a larger form** than the first axis. -/
theorem Decomposes.dot_mulVec_le (hu : u.dot u = 1) : u.dot (m.mulVec u) ≤ e.first.value := by
  have hlength := h.orthonormal.dot_eq u u
  rw [hu] at hlength
  have hsecond := mul_le_mul_of_nonneg_right hsorted.1 (mul_self_nonneg (e.second.vector.dot u))
  have hthird := mul_le_mul_of_nonneg_right (hsorted.2.trans hsorted.1)
    (mul_self_nonneg (e.third.vector.dot u))
  calc u.dot (m.mulVec u)
      ≤ e.first.value * (e.first.vector.dot u * e.first.vector.dot u) +
          e.first.value * (e.second.vector.dot u * e.second.vector.dot u) +
          e.first.value * (e.third.vector.dot u * e.third.vector.dot u) := by
        rw [h.dot_mulVec hsymm]
        exact add_le_add (add_le_add le_rfl hsecond) hthird
    _ = e.first.value * 1 := by
        rw [hlength, mul_add, mul_add]
    _ = e.first.value := mul_one _

end Form

end Eigensystem

/-! ### Diagonal matrices -/

/-- On a diagonal matrix the sweeps stop before the first. -/
theorem JacobiState.sweeps_diagonal (x y z : ℝ) (n : ℕ) :
    (ofMat3 ⟨⟨x, 0, 0⟩, ⟨0, y, 0⟩, ⟨0, 0, z⟩⟩).sweeps n =
      ofMat3 ⟨⟨x, 0, 0⟩, ⟨0, y, 0⟩, ⟨0, 0, z⟩⟩ := by
  cases n with
  | zero => rfl
  | succ n =>
      have hdiagonal : (ofMat3 ⟨⟨x, 0, 0⟩, ⟨0, y, 0⟩, ⟨0, 0, z⟩⟩).offDiagonal = 0 := by
        simp [offDiagonal, ofMat3, Scalar.abs]
      rw [sweeps, hdiagonal, if_pos]
      norm_num

/-- **A diagonal matrix is decomposed as it stands**, by its entries and the coordinate axes. -/
theorem Mat3.jacobi_diagonal (x y z : ℝ) : Mat3.jacobi ⟨⟨x, 0, 0⟩, ⟨0, y, 0⟩, ⟨0, 0, z⟩⟩ =
    ⟨⟨x, ⟨1, 0, 0⟩⟩, ⟨y, ⟨0, 1, 0⟩⟩, ⟨z, ⟨0, 0, 1⟩⟩⟩ := by
  have hunit : ∀ largest : ℝ, (if 0 < largest then largest else 1) ≠ 0 := fun largest => by
    split
    · next hpos => exact hpos.ne'
    · exact one_ne_zero
  simp only [jacobi, divide, Vec3.divide, zero_div, JacobiState.sweeps_diagonal]
  simp only [JacobiState.ofMat3, div_mul_cancel₀ _ (hunit _)]

/-- The axes of a diagonal matrix are those of the coordinates. -/
theorem Mat3.decomposes_jacobi_diagonal (x y z : ℝ) :
    (Mat3.jacobi ⟨⟨x, 0, 0⟩, ⟨0, y, 0⟩, ⟨0, 0, z⟩⟩).Decomposes
      ⟨⟨x, 0, 0⟩, ⟨0, y, 0⟩, ⟨0, 0, z⟩⟩ := by
  rw [jacobi_diagonal]
  refine ⟨⟨?_, ?_, ?_, ?_, ?_, ?_⟩, ?_, ?_, ?_⟩ <;> simp [mulVec, Vec3.dot, Vec3.scale]

end LidarOdometry
