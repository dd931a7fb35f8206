import LidarOdometry.Proofs.Geometry.Vector
import LidarOdometry.Geometry.Rotation

/-!
# Rotations and Versors

A rotation is a matrix with orthonormal rows that keeps the orientation of space. Over the reals
every rotation is the matrix of a unit versor, namely of the one that `Versor.ofMat3` computes,
whichever coordinate it starts from. The reason is that the sixteen products of two
coordinates are, up to a factor of four, sums and differences of entries of the matrix; in a
rotation these sums are related as products are, by the orthogonality of rows and columns and by
every row being the vector product of the other two.

Two unit versors have the same matrix only if they are equal or opposite, and the matrix of a
product is the product of the matrices. So what is said about rotations can be checked on versors,
up to a sign.

## Main definitions

* `Mat3.IsRotation`: rotation matrices.
* `Versor.StandsFor`: the products of a versor's coordinates, by the entries of its matrix.
* `Versor.mul`: the product of versors.

## Main results

* `Versor.standsFor_ofMat3`: the versor of a rotation stands for it.
* `Versor.toMat3_ofMat3`, `Versor.dot_ofMat3`: there and back; the versor is a unit.
* `Versor.eq_or_eq_neg_of_toMat3_eq`: the versors of a rotation.
* `Versor.toMat3_mul`: products.
* `Mat3.IsRotation.mul`, `Mat3.IsRotation.transpose`: rotations are a group.
* `Versor.ofMat3_mul`: the versor of a product, up to a sign.
-/

namespace LidarOdometry

/-! ### Rotation matrices -/

namespace Mat3

/-- The determinant. -/
def det {α : Type} [Scalar α] (m : Mat3 α) : α :=
  m.x.dot (m.y.cross m.z)

/-- **A rotation**: the rows are orthonormal, and the orientation of space is kept. -/
structure IsRotation (m : Mat3 ℝ) : Prop where
  mul_transpose : m * m.transpose = identity
  det_eq_one : m.det = 1

/-- Transposition keeps the determinant. -/
theorem det_transpose (m : Mat3 ℝ) : m.transpose.det = m.det := by
  simp only [det, transpose, Vec3.dot, Vec3.cross]
  ring

/-- Determinants are multiplied. -/
theorem det_mul (m n : Mat3 ℝ) : (m * n).det = m.det * n.det := by
  simp only [det, mul_def, mulVec, transpose, Vec3.dot, Vec3.cross]
  ring

namespace IsRotation

variable {m n : Mat3 ℝ}

/-- The identity is a rotation. -/
theorem identity : (Mat3.identity : Mat3 ℝ).IsRotation where
  mul_transpose := by
    simp [Mat3.identity, mul_def, mulVec, Mat3.transpose, Vec3.dot]
  det_eq_one := by
    simp [Mat3.identity, det, Vec3.dot, Vec3.cross]

/-- The rows are orthonormal. -/
theorem rows (h : m.IsRotation) : m.x.dot m.x = 1 ∧ m.y.dot m.y = 1 ∧ m.z.dot m.z = 1 ∧
    m.x.dot m.y = 0 ∧ m.x.dot m.z = 0 ∧ m.y.dot m.z = 0 := by
  have heq := h.mul_transpose
  simp only [mul_def, mulVec, Mat3.identity, Mat3.transpose, Vec3.dot, Mat3.mk.injEq,
    Vec3.mk.injEq] at heq ⊢
  obtain ⟨⟨hxx, hxy, hxz⟩, ⟨-, hyy, hyz⟩, -, -, hzz⟩ := heq
  refine ⟨hxx, hyy, hzz, ?_, ?_, ?_⟩
  · linear_combination hxy
  · linear_combination hxz
  · linear_combination hyz

/-- **Orthonormal rows** with determinant one make a rotation. -/
theorem of_rows (h : m.x.dot m.x = 1 ∧ m.y.dot m.y = 1 ∧ m.z.dot m.z = 1 ∧
    m.x.dot m.y = 0 ∧ m.x.dot m.z = 0 ∧ m.y.dot m.z = 0) (hdet : m.det = 1) :
    m.IsRotation := by
  obtain ⟨hxx, hyy, hzz, hxy, hxz, hyz⟩ := h
  refine ⟨?_, hdet⟩
  simp only [mul_def, mulVec, Mat3.identity, Mat3.transpose, Vec3.dot, Mat3.mk.injEq,
    Vec3.mk.injEq] at *
  refine ⟨⟨hxx, ?_, ?_⟩, ⟨?_, hyy, ?_⟩, ?_, ?_, hzz⟩
  · linear_combination hxy
  · linear_combination hxz
  · linear_combination hxy
  · linear_combination hyz
  · linear_combination hxz
  · linear_combination hyz

/-- Of three orthonormal vectors one is the vector product of the others. -/
theorem cross_eq {u v w : Vec3 ℝ} (hu : u.dot u = 1) (hv : v.dot v = 1) (hw : w.dot w = 1)
    (huv : u.dot v = 0) (hdet : w.dot (u.cross v) = 1) : u.cross v = w := by
  have hlength : (u.cross v).dot (u.cross v) = u.dot u * v.dot v - u.dot v * u.dot v := by
    simp only [Vec3.dot, Vec3.cross]
    ring
  have hdifference : (u.cross v - w).normSq = 0 := by
    calc (u.cross v - w).normSq
        = (u.cross v).dot (u.cross v) - 2 * w.dot (u.cross v) + w.dot w := by
          simp only [Vec3.normSq, Vec3.dot, Vec3.sub_x, Vec3.sub_y, Vec3.sub_z]
          ring
      _ = 0 := by
          rw [hlength, hu, hv, huv, hdet, hw]
          norm_num
  have hzero := Vec3.eq_zero_of_normSq_eq_zero hdifference
  rw [Vec3.ext_iff] at hzero ⊢
  simp only [Vec3.sub_x, Vec3.sub_y, Vec3.sub_z, Vec3.zero_x, Vec3.zero_y, Vec3.zero_z,
    sub_eq_zero] at hzero
  exact hzero

/-- **Every row is the vector product of the other two.** -/
theorem cofactors (h : m.IsRotation) :
    m.y.cross m.z = m.x ∧ m.z.cross m.x = m.y ∧ m.x.cross m.y = m.z := by
  obtain ⟨hxx, hyy, hzz, hxy, hxz, hyz⟩ := h.rows
  have hdet := h.det_eq_one
  have hzx : m.z.dot m.x = 0 := by
    rw [← hxz]
    simp only [Vec3.dot]
    ring
  have hdet_y : m.y.dot (m.z.cross m.x) = 1 := by
    rw [← hdet]
    simp only [det, Vec3.dot, Vec3.cross]
    ring
  have hdet_z : m.z.dot (m.x.cross m.y) = 1 := by
    rw [← hdet]
    simp only [det, Vec3.dot, Vec3.cross]
    ring
  exact ⟨cross_eq hyy hzz hxx hyz hdet, cross_eq hzz hxx hyy hzx hdet_y,
    cross_eq hxx hyy hzz hxy hdet_z⟩

/-- **The opposite rotation.** -/
theorem transpose (h : m.IsRotation) : m.transpose.IsRotation := by
  have hdet := h.det_eq_one
  obtain ⟨hx, hy, hz⟩ := h.cofactors
  refine of_rows ?_ (m.det_transpose.trans hdet)
  simp only [Vec3.ext_iff, Mat3.transpose, det, Vec3.dot, Vec3.cross] at hx hy hz hdet ⊢
  refine ⟨?_, ?_, ?_, ?_, ?_, ?_⟩
  · linear_combination hdet - m.x.x * hx.1 - m.y.x * hy.1 - m.z.x * hz.1
  · linear_combination hdet - m.x.y * hx.2.1 - m.y.y * hy.2.1 - m.z.y * hz.2.1
  · linear_combination hdet - m.x.z * hx.2.2 - m.y.z * hy.2.2 - m.z.z * hz.2.2
  · linear_combination -m.x.y * hx.1 - m.y.y * hy.1 - m.z.y * hz.1
  · linear_combination -m.x.z * hx.1 - m.y.z * hy.1 - m.z.z * hz.1
  · linear_combination -m.x.z * hx.2.1 - m.y.z * hy.2.1 - m.z.z * hz.2.1

/-- **The quadratic relations** among the entries of a rotation: orthonormal rows, orthonormal
columns, and entries equal to their cofactors. -/
structure Relations (m : Mat3 ℝ) : Prop where
  row_xx : m.x.x * m.x.x + m.x.y * m.x.y + m.x.z * m.x.z = 1
  row_yy : m.y.x * m.y.x + m.y.y * m.y.y + m.y.z * m.y.z = 1
  row_zz : m.z.x * m.z.x + m.z.y * m.z.y + m.z.z * m.z.z = 1
  row_xy : m.x.x * m.y.x + m.x.y * m.y.y + m.x.z * m.y.z = 0
  row_xz : m.x.x * m.z.x + m.x.y * m.z.y + m.x.z * m.z.z = 0
  row_yz : m.y.x * m.z.x + m.y.y * m.z.y + m.y.z * m.z.z = 0
  col_xx : m.x.x * m.x.x + m.y.x * m.y.x + m.z.x * m.z.x = 1
  col_yy : m.x.y * m.x.y + m.y.y * m.y.y + m.z.y * m.z.y = 1
  col_xy : m.x.x * m.x.y + m.y.x * m.y.y + m.z.x * m.z.y = 0
  col_xz : m.x.x * m.x.z + m.y.x * m.y.z + m.z.x * m.z.z = 0
  col_yz : m.x.y * m.x.z + m.y.y * m.y.z + m.z.y * m.z.z = 0
  cof_xx : m.y.y * m.z.z - m.y.z * m.z.y = m.x.x
  cof_xy : m.y.z * m.z.x - m.y.x * m.z.z = m.x.y
  cof_xz : m.y.x * m.z.y - m.y.y * m.z.x = m.x.z
  cof_yx : m.z.y * m.x.z - m.z.z * m.x.y = m.y.x
  cof_yy : m.z.z * m.x.x - m.z.x * m.x.z = m.y.y
  cof_yz : m.z.x * m.x.y - m.z.y * m.x.x = m.y.z
  cof_zx : m.x.y * m.y.z - m.x.z * m.y.y = m.z.x
  cof_zy : m.x.z * m.y.x - m.x.x * m.y.z = m.z.y
  cof_zz : m.x.x * m.y.y - m.x.y * m.y.x = m.z.z

/-- **The relations hold in a rotation.** -/
theorem relations (h : m.IsRotation) : Relations m := by
  obtain ⟨rxx, ryy, rzz, rxy, rxz, ryz⟩ := h.rows
  obtain ⟨cxx, cyy, -, cxy, cxz, cyz⟩ := h.transpose.rows
  obtain ⟨hx, hy, hz⟩ := h.cofactors
  rw [Vec3.ext_iff] at hx hy hz
  exact ⟨rxx, ryy, rzz, rxy, rxz, ryz, cxx, cyy, cxy, cxz, cyz, hx.1, hx.2.1, hx.2.2,
    hy.1, hy.2.1, hy.2.2, hz.1, hz.2.1, hz.2.2⟩

end IsRotation

end Mat3

/-! ### The versor of a rotation -/

namespace Versor

/-- **A versor stands for a matrix** if four times the products of its coordinates are the sums
and differences of entries from which the matrix is read off. -/
structure StandsFor (q : Versor ℝ) (m : Mat3 ℝ) : Prop where
  ww : 4 * (q.w * q.w) = 1 + m.x.x + m.y.y + m.z.z
  ii : 4 * (q.i * q.i) = 1 + m.x.x - m.y.y - m.z.z
  jj : 4 * (q.j * q.j) = 1 - m.x.x + m.y.y - m.z.z
  kk : 4 * (q.k * q.k) = 1 - m.x.x - m.y.y + m.z.z
  wi : 4 * (q.w * q.i) = m.z.y - m.y.z
  wj : 4 * (q.w * q.j) = m.x.z - m.z.x
  wk : 4 * (q.w * q.k) = m.y.x - m.x.y
  ij : 4 * (q.i * q.j) = m.x.y + m.y.x
  ik : 4 * (q.i * q.k) = m.x.z + m.z.x
  jk : 4 * (q.j * q.k) = m.y.z + m.z.y

namespace StandsFor

variable {q : Versor ℝ} {m : Mat3 ℝ}

/-- A versor that stands for a matrix is a unit. -/
theorem dot_self (h : q.StandsFor m) : q.dot q = 1 := by
  rw [dot]
  linear_combination (h.ww + h.ii + h.jj + h.kk) / 4

/-- A versor that stands for a matrix gives it back. -/
theorem toMat3_eq (h : q.StandsFor m) : q.toMat3 = m := by
  rw [Mat3.ext_iff, Vec3.ext_iff, Vec3.ext_iff, Vec3.ext_iff]
  norm_num [toMat3]
  refine ⟨⟨?_, ?_, ?_⟩, ⟨?_, ?_, ?_⟩, ?_, ?_, ?_⟩
  · linear_combination (h.ww + h.ii - h.jj - h.kk) / 4
  · linear_combination (h.ij - h.wk) / 2
  · linear_combination (h.wj + h.ik) / 2
  · linear_combination (h.wk + h.ij) / 2
  · linear_combination (h.ww - h.ii + h.jj - h.kk) / 4
  · linear_combination (h.jk - h.wi) / 2
  · linear_combination (h.ik - h.wj) / 2
  · linear_combination (h.wi + h.jk) / 2
  · linear_combination (h.ww - h.ii - h.jj + h.kk) / 4

end StandsFor

section Coordinates

/-! One coordinate is a quarter of `d`, a root of four times its product with itself; the others
are products with it, divided by `d`. -/

variable {d k b c e : ℝ}

/-- The coordinate of the root with itself. -/
theorem four_mul_quarter_sq (hdd : d * d = 4 * k) : 4 * (0.25 * d * (0.25 * d)) = k := by
  norm_num
  linear_combination hdd / 4

/-- The coordinate of the root with another one. -/
theorem four_mul_quarter_mul_div (hd : d ≠ 0) : 4 * (0.25 * d * (b / d)) = b := by
  field_simp
  norm_num

/-- Another coordinate with that of the root. -/
theorem four_mul_div_mul_quarter (hd : d ≠ 0) : 4 * (b / d * (0.25 * d)) = b := by
  rw [mul_comm (b / d)]
  exact four_mul_quarter_mul_div hd

/-- Two other coordinates, related as products are. -/
theorem four_mul_div_mul_div (hd : d ≠ 0) (hdd : d * d = 4 * k) (h : k * e = b * c) :
    4 * (b / d * (c / d)) = e := by
  field_simp
  linear_combination -4 * h - e * hdd

/-- The root that a versor starts from. -/
theorem root_spec (hk : 0 < k) :
    Scalar.sqrt k * 2.0 ≠ 0 ∧ Scalar.sqrt k * 2.0 * (Scalar.sqrt k * 2.0) = 4 * k := by
  have hroot : 0 < Real.sqrt k := Real.sqrt_pos.mpr hk
  have hsq : Real.sqrt k * Real.sqrt k = k := Real.mul_self_sqrt hk.le
  rw [Scalar.sqrt_real]
  norm_num
  refine ⟨hroot.ne', ?_⟩
  linear_combination 4 * hsq

end Coordinates

variable {m : Mat3 ℝ}

section Starts

/-! Of a versor that starts from one coordinate the products with that coordinate are right by
construction. Each of the others is right by a quadratic relation among the entries. -/

variable {d : ℝ} (r : Mat3.IsRotation.Relations m) (hd : d ≠ 0)

include r hd

/-- A start from the real part. -/
theorem standsFor_of_w (hdd : d * d = 4 * (1 + m.x.x + m.y.y + m.z.z)) :
    StandsFor ⟨(m.z.y - m.y.z) / d, (m.x.z - m.z.x) / d, (m.y.x - m.x.y) / d, 0.25 * d⟩ m where
  ww := four_mul_quarter_sq hdd
  ii := four_mul_div_mul_div hd hdd
    (by linear_combination r.col_xx - r.row_yy - r.row_zz - 2 * r.cof_xx)
  jj := four_mul_div_mul_div hd hdd
    (by linear_combination r.col_yy - r.row_xx - r.row_zz - 2 * r.cof_yy)
  kk := four_mul_div_mul_div hd hdd
    (by linear_combination r.row_zz - r.col_xx - r.col_yy - 2 * r.cof_zz)
  wi := four_mul_quarter_mul_div hd
  wj := four_mul_quarter_mul_div hd
  wk := four_mul_quarter_mul_div hd
  ij := four_mul_div_mul_div hd hdd
    (by linear_combination r.row_xy + r.col_xy - r.cof_xy - r.cof_yx)
  ik := four_mul_div_mul_div hd hdd
    (by linear_combination r.row_xz + r.col_xz - r.cof_xz - r.cof_zx)
  jk := four_mul_div_mul_div hd hdd
    (by linear_combination r.row_yz + r.col_yz - r.cof_yz - r.cof_zy)

/-- A start from `i`. -/
theorem standsFor_of_i (hdd : d * d = 4 * (1 + m.x.x - m.y.y - m.z.z)) :
    StandsFor ⟨0.25 * d, (m.x.y + m.y.x) / d, (m.x.z + m.z.x) / d, (m.z.y - m.y.z) / d⟩ m where
  ww := four_mul_div_mul_div hd hdd
    (by linear_combination r.col_xx - r.row_yy - r.row_zz - 2 * r.cof_xx)
  ii := four_mul_quarter_sq hdd
  jj := four_mul_div_mul_div hd hdd
    (by linear_combination r.row_zz + 2 * r.cof_zz - r.col_xx - r.col_yy)
  kk := four_mul_div_mul_div hd hdd
    (by linear_combination r.col_yy + 2 * r.cof_yy - r.row_xx - r.row_zz)
  wi := four_mul_div_mul_quarter hd
  wj := four_mul_div_mul_div hd hdd
    (by linear_combination r.col_xz + r.cof_zx - r.row_xz - r.cof_xz)
  wk := four_mul_div_mul_div hd hdd
    (by linear_combination r.row_xy + r.cof_xy - r.col_xy - r.cof_yx)
  ij := four_mul_quarter_mul_div hd
  ik := four_mul_quarter_mul_div hd
  jk := four_mul_div_mul_div hd hdd
    (by linear_combination -r.row_yz - r.col_yz - r.cof_yz - r.cof_zy)

/-- A start from `j`. -/
theorem standsFor_of_j (hdd : d * d = 4 * (1 - m.x.x + m.y.y - m.z.z)) :
    StandsFor ⟨(m.x.y + m.y.x) / d, 0.25 * d, (m.y.z + m.z.y) / d, (m.x.z - m.z.x) / d⟩ m where
  ww := four_mul_div_mul_div hd hdd
    (by linear_combination r.col_yy - r.row_xx - r.row_zz - 2 * r.cof_yy)
  ii := four_mul_div_mul_div hd hdd
    (by linear_combination r.row_zz + 2 * r.cof_zz - r.col_xx - r.col_yy)
  jj := four_mul_quarter_sq hdd
  kk := four_mul_div_mul_div hd hdd
    (by linear_combination r.col_xx + 2 * r.cof_xx - r.row_yy - r.row_zz)
  wi := four_mul_div_mul_div hd hdd
    (by linear_combination r.row_yz + r.cof_yz - r.col_yz - r.cof_zy)
  wj := four_mul_div_mul_quarter hd
  wk := four_mul_div_mul_div hd hdd
    (by linear_combination r.col_xy + r.cof_xy - r.row_xy - r.cof_yx)
  ij := four_mul_div_mul_quarter hd
  ik := four_mul_div_mul_div hd hdd
    (by linear_combination -r.row_xz - r.col_xz - r.cof_xz - r.cof_zx)
  jk := four_mul_quarter_mul_div hd

/-- A start from `k`. -/
theorem standsFor_of_k (hdd : d * d = 4 * (1 - m.x.x - m.y.y + m.z.z)) :
    StandsFor ⟨(m.x.z + m.z.x) / d, (m.y.z + m.z.y) / d, 0.25 * d, (m.y.x - m.x.y) / d⟩ m where
  ww := four_mul_div_mul_div hd hdd
    (by linear_combination r.row_zz - r.col_xx - r.col_yy - 2 * r.cof_zz)
  ii := four_mul_div_mul_div hd hdd
    (by linear_combination r.col_yy + 2 * r.cof_yy - r.row_xx - r.row_zz)
  jj := four_mul_div_mul_div hd hdd
    (by linear_combination r.col_xx + 2 * r.cof_xx - r.row_yy - r.row_zz)
  kk := four_mul_quarter_sq hdd
  wi := four_mul_div_mul_div hd hdd
    (by linear_combination r.col_yz + r.cof_yz - r.row_yz - r.cof_zy)
  wj := four_mul_div_mul_div hd hdd
    (by linear_combination r.row_xz + r.cof_zx - r.col_xz - r.cof_xz)
  wk := four_mul_div_mul_quarter hd
  ij := four_mul_div_mul_div hd hdd
    (by linear_combination -r.row_xy - r.col_xy - r.cof_xy - r.cof_yx)
  ik := four_mul_div_mul_quarter hd
  jk := four_mul_div_mul_quarter hd

end Starts

/-- **The versor of a rotation stands for it**, whichever coordinate it starts from: of the four
products of a coordinate with itself, which sum up to four, the chosen one is not small. -/
theorem standsFor_ofMat3 (h : m.IsRotation) : (ofMat3 m).StandsFor m := by
  have r := h.relations
  -- four cases, after the sum of which the root is taken; it is positive in each
  simp only [ofMat3]
  split
  · next htrace =>
      obtain ⟨hd, hdd⟩ := root_spec (k := m.trace + 1) (by linarith)
      exact standsFor_of_w r hd (hdd.trans (by rw [Mat3.trace]; ring))
  · next htrace =>
      have hsmall : m.x.x + m.y.y + m.z.z ≤ 0 := not_lt.mp htrace
      split
      · next hx =>
          obtain ⟨hd, hdd⟩ := root_spec (k := 1 + m.x.x - m.y.y - m.z.z) (by linarith [hx.1, hx.2])
          exact standsFor_of_i r hd hdd
      · next hx =>
          rw [not_and_or, not_lt, not_lt] at hx
          split
          · next hy =>
              have hle : m.x.x ≤ m.y.y := hx.elim id fun hz => hz.trans (le_of_lt hy)
              obtain ⟨hd, hdd⟩ := root_spec (k := 1 + m.y.y - m.x.x - m.z.z) (by linarith)
              exact standsFor_of_j r hd (hdd.trans (by ring))
          · next hy =>
              have hyz : m.y.y ≤ m.z.z := not_lt.mp hy
              have hle : m.x.x ≤ m.z.z := hx.elim (fun hxy => hxy.trans hyz) id
              obtain ⟨hd, hdd⟩ := root_spec (k := 1 + m.z.z - m.x.x - m.y.y) (by linarith)
              exact standsFor_of_k r hd (hdd.trans (by ring))

/-- **There and back.** -/
theorem toMat3_ofMat3 (h : m.IsRotation) : (ofMat3 m).toMat3 = m :=
  (standsFor_ofMat3 h).toMat3_eq

/-- The versor of a rotation is a unit. -/
theorem dot_ofMat3 (h : m.IsRotation) : (ofMat3 m).dot (ofMat3 m) = 1 :=
  (standsFor_ofMat3 h).dot_self

/-! ### Versors of the same rotation -/

section Coordinates

variable {α : Type} [Scalar α] (q : Versor α)

@[simp] theorem neg_i : (-q).i = -q.i := rfl

@[simp] theorem neg_j : (-q).j = -q.j := rfl

@[simp] theorem neg_k : (-q).k = -q.k := rfl

@[simp] theorem neg_w : (-q).w = -q.w := rfl

end Coordinates

noncomputable instance : InvolutiveNeg (Versor ℝ) where
  neg_neg q := Versor.ext (neg_neg q.i) (neg_neg q.j) (neg_neg q.k) (neg_neg q.w)

variable (e p q : Versor ℝ)

/-- The inner product of versors does not depend on their order. -/
theorem dot_comm : p.dot q = q.dot p := by
  simp only [dot]
  ring

/-- The opposite of the second versor turns the sign round. -/
theorem dot_neg : p.dot (-q) = -p.dot q := by
  simp only [dot, neg_i, neg_j, neg_k, neg_w]
  ring

/-- The opposite of the first versor turns the sign round. -/
theorem neg_dot : (-p).dot q = -p.dot q := by
  rw [dot_comm, dot_neg, dot_comm]

/-- Opposite versors have the same matrix. -/
theorem toMat3_neg : (-q).toMat3 = q.toMat3 := by
  simp only [toMat3, neg_i, neg_j, neg_k, neg_w, neg_mul_neg]

/-- The inner product of two versors tells by how much their rotations differ. -/
theorem trace_transpose_mul : (p.toMat3.transpose * q.toMat3).trace =
    4 * (p.dot q) ^ 2 - p.dot p * q.dot q := by
  simp only [toMat3, Mat3.trace, Mat3.mul_def, Mat3.mulVec, Mat3.transpose, Vec3.dot, dot]
  norm_num
  ring

variable {e p q}

/-- **Unit versors are equal** if their inner product is one. -/
theorem eq_of_dot_eq_one (hp : p.dot p = 1) (hq : q.dot q = 1) (hpq : p.dot q = 1) : p = q := by
  have hdifference : (p.i - q.i) ^ 2 + (p.j - q.j) ^ 2 + (p.k - q.k) ^ 2 + (p.w - q.w) ^ 2 = 0 := by
    simp only [dot] at hp hq hpq
    linear_combination hp + hq - 2 * hpq
  have hi := sq_nonneg (p.i - q.i)
  have hj := sq_nonneg (p.j - q.j)
  have hk := sq_nonneg (p.k - q.k)
  have hw := sq_nonneg (p.w - q.w)
  have hzero : ∀ {x : ℝ}, x ^ 2 = 0 → x = 0 := fun h => pow_eq_zero_iff two_ne_zero |>.mp h
  refine Versor.ext ?_ ?_ ?_ ?_
  · exact sub_eq_zero.mp (hzero (by linarith))
  · exact sub_eq_zero.mp (hzero (by linarith))
  · exact sub_eq_zero.mp (hzero (by linarith))
  · exact sub_eq_zero.mp (hzero (by linarith))

/-- **Unit versors of one rotation** are equal or opposite. -/
theorem eq_or_eq_neg_of_toMat3_eq (hp : p.dot p = 1) (hq : q.dot q = 1)
    (h : p.toMat3 = q.toMat3) : p = q ∨ p = -q := by
  have hself : (q.toMat3.transpose * q.toMat3).trace = 3 := by
    rw [trace_transpose_mul, hq]
    norm_num
  have htrace := trace_transpose_mul p q
  rw [h, hself, hp, hq] at htrace
  have hsq : p.dot q * p.dot q = 1 := by linarith
  rcases mul_self_eq_one_iff.mp hsq with hone | hone
  · exact .inl (eq_of_dot_eq_one hp hq hone)
  · refine .inr (eq_of_dot_eq_one hp ?_ ?_)
    · rw [dot_neg, neg_dot, neg_neg, hq]
    · rw [dot_neg, hone, neg_neg]

/-! ### Products -/

/-- **The product of versors**, as quaternions. -/
def mul (p q : Versor ℝ) : Versor ℝ where
  i := p.w * q.i + p.i * q.w + p.j * q.k - p.k * q.j
  j := p.w * q.j - p.i * q.k + p.j * q.w + p.k * q.i
  k := p.w * q.k + p.i * q.j - p.j * q.i + p.k * q.w
  w := p.w * q.w - p.i * q.i - p.j * q.j - p.k * q.k

/-- **The matrix of a product** is the product of the matrices. -/
theorem toMat3_mul (p q : Versor ℝ) : (p.mul q).toMat3 = p.toMat3 * q.toMat3 := by
  rw [Mat3.ext_iff, Vec3.ext_iff, Vec3.ext_iff, Vec3.ext_iff]
  simp only [toMat3, mul, Mat3.mul_def, Mat3.mulVec, Mat3.transpose, Vec3.dot]
  norm_num
  refine ⟨⟨?_, ?_, ?_⟩, ⟨?_, ?_, ?_⟩, ?_, ?_, ?_⟩ <;> ring

/-- Products with one versor keep inner products, up to its length. -/
theorem dot_mul_mul (e p q : Versor ℝ) : (e.mul p).dot (e.mul q) = e.dot e * p.dot q := by
  simp only [dot, mul]
  ring

/-- Products with a unit versor keep inner products. -/
theorem dot_mul_of_unit {e : Versor ℝ} (he : e.dot e = 1) (p q : Versor ℝ) :
    (e.mul p).dot (e.mul q) = p.dot q := by
  rw [dot_mul_mul, he, one_mul]

/-- The product with an opposite is the opposite product. -/
theorem mul_neg (p q : Versor ℝ) : p.mul (-q) = -p.mul q := by
  refine Versor.ext ?_ ?_ ?_ ?_ <;> simp only [mul, neg_i, neg_j, neg_k, neg_w] <;> ring

end Versor

/-- A rotation is undone by the opposite one. -/
theorem Mat3.IsRotation.transpose_mul_self {m : Mat3 ℝ} (hm : m.IsRotation) :
    m.transpose * m = Mat3.identity :=
  hm.transpose.mul_transpose

/-- From an orientation to itself there is no turn. -/
theorem Mat3.IsRotation.angle_transpose_mul_self {m : Mat3 ℝ} (hm : m.IsRotation) :
    (m.transpose * m).angle = 0 := by
  refine Real.arccos_eq_zero.mpr ?_
  rw [hm.transpose_mul_self]
  norm_num [Mat3.identity, Mat3.trace]

/-- **Rotations one after the other.** -/
theorem Mat3.IsRotation.mul {m n : Mat3 ℝ} (hm : m.IsRotation) (hn : n.IsRotation) :
    (m * n).IsRotation where
  mul_transpose := by
    calc m * n * (m * n).transpose
        = m * (n * n.transpose) * m.transpose := by
          rw [transpose_mul, mul_assoc, mul_assoc, mul_assoc]
      _ = Mat3.identity := by rw [hn.mul_transpose, mul_identity, hm.mul_transpose]
  det_eq_one := by
    rw [det_mul, hm.det_eq_one, hn.det_eq_one, mul_one]

section Isometry

variable {m : Mat3 ℝ}

/-- What a rotation makes of a vector is undone as well. -/
theorem Mat3.IsRotation.transpose_mulVec_mulVec (hm : m.IsRotation) (v : Vec3 ℝ) :
    m.transpose.mulVec (m.mulVec v) = v := by
  rw [← mul_mulVec, hm.transpose_mul_self, identity_mulVec]

/-- What turns one orientation to another is not changed by turning both. -/
theorem Mat3.IsRotation.transpose_mul_mul (hm : m.IsRotation) (n o : Mat3 ℝ) :
    (m * n).transpose * (m * o) = n.transpose * o := by
  calc (m * n).transpose * (m * o)
      = n.transpose * (m.transpose * m * o) := by rw [transpose_mul, mul_assoc, mul_assoc]
    _ = n.transpose * o := by rw [hm.transpose_mul_self, identity_mul]

/-- **Rotations keep lengths.** -/
theorem Mat3.IsRotation.norm_mulVec (hm : m.IsRotation) (v : Vec3 ℝ) :
    (m.mulVec v).norm = v.norm := by
  rw [Vec3.norm, Vec3.normSq, dot_mulVec, hm.transpose_mulVec_mulVec, Vec3.norm, Vec3.normSq]

end Isometry

/-- **The versor of a product** is the product of the versors or its opposite. -/
theorem Versor.ofMat3_mul {m n : Mat3 ℝ} (hm : m.IsRotation) (hn : n.IsRotation) :
    ofMat3 (m * n) = (ofMat3 m).mul (ofMat3 n) ∨ ofMat3 (m * n) = -(ofMat3 m).mul (ofMat3 n) := by
  refine eq_or_eq_neg_of_toMat3_eq (dot_ofMat3 (hm.mul hn)) ?_ ?_
  · rw [dot_mul_mul, dot_ofMat3 hm, dot_ofMat3 hn, mul_one]
  · rw [toMat3_ofMat3 (hm.mul hn), toMat3_mul, toMat3_ofMat3 hm, toMat3_ofMat3 hn]

end LidarOdometry
