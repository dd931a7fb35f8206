import LidarOdometry.Proofs.Geometry.Rotation

/-!
# Interpolation of Orientations

Turning the whole world turns every interpolated orientation with it. An arc between versors is
described by their inner product alone and combines them linearly, so that it is carried along by
a product with a unit versor. The versors of the turned orientations are these products only up
to a sign, but interpolation goes the shorter way round and does not see the signs: unless the
two orientations are a half turn apart, where both ways are equally long and a sign decides.

## Main results

* `Versor.arc_mul`, `Versor.slerp_mul`: interpolation is carried along by products.
* `Versor.slerp_neg_left`, `Versor.slerp_neg_right`: signs do not matter.
* `Versor.dot_ofMat3_ne_zero`: orientations less than a half turn apart.
* `Mat3.slerp_mul`: a turn of the world turns interpolated orientations.
-/

namespace LidarOdometry

namespace Versor

variable {e p q : Versor ℝ} {t : ℝ}

/-- Products are linear in the second versor. -/
theorem mul_combine (a b : ℝ) :
    e.mul (p.combine q a b) = (e.mul p).combine (e.mul q) a b := by
  refine Versor.ext ?_ ?_ ?_ ?_ <;> simp only [mul, combine] <;> ring

/-- **An arc is carried along by a product** with a unit versor. -/
theorem arc_mul (he : e.dot e = 1) : (e.mul p).arc (e.mul q) t = e.mul (p.arc q t) := by
  simp only [arc, dot_mul_of_unit he]
  split
  · rfl
  · split
    · rfl
    · rw [mul_combine]

/-- **Interpolation is carried along by a product** with a unit versor. -/
theorem slerp_mul (he : e.dot e = 1) : (e.mul p).slerp (e.mul q) t = e.mul (p.slerp q t) := by
  simp only [slerp, dot_mul_of_unit he]
  split
  · rw [← mul_neg, arc_mul he]
  · exact arc_mul he

/-- An arc to where it starts stays there. -/
theorem slerp_self (hp : p.dot p = 1) : p.slerp p t = p := by
  have hnonneg : ¬ (1 : ℝ) < 0 := not_lt.mpr zero_le_one
  rw [slerp, hp, if_neg hnonneg]
  simp only [arc, hp]
  exact if_pos le_rfl

/-- The opposite versor is a product, with the unit that turns nothing. -/
theorem neg_eq_mul (q : Versor ℝ) : -q = mul ⟨0, 0, 0, -1⟩ q := by
  refine Versor.ext ?_ ?_ ?_ ?_ <;> simp [mul]

/-- The opposite of the unit quaternion is a unit versor. -/
theorem dot_minus_one : dot (⟨0, 0, 0, -1⟩ : Versor ℝ) ⟨0, 0, 0, -1⟩ = 1 := by
  simp [dot]

/-- Between opposite versors there is the opposite arc. -/
theorem neg_arc_neg (p q : Versor ℝ) (t : ℝ) : (-p).arc (-q) t = -p.arc q t := by
  rw [neg_eq_mul p, neg_eq_mul q, arc_mul dot_minus_one, neg_eq_mul]

/-- Opposites of both ends give the opposite of what is between. -/
theorem neg_slerp_neg (p q : Versor ℝ) (t : ℝ) : (-p).slerp (-q) t = -p.slerp q t := by
  rw [neg_eq_mul p, neg_eq_mul q, slerp_mul dot_minus_one, neg_eq_mul]

/-- Of two opposite targets the nearer one is taken. -/
theorem slerp_neg_right (h : p.dot q ≠ 0) : p.slerp (-q) t = p.slerp q t := by
  simp only [slerp, dot_neg, Left.neg_neg_iff, neg_neg]
  rcases lt_or_gt_of_ne h with hlt | hgt
  · rw [if_neg (not_lt.mpr hlt.le), if_pos hlt]
  · rw [if_pos hgt, if_neg (not_lt.mpr hgt.le)]

/-- From the opposite versor the same arc is taken, seen from the other side. -/
theorem slerp_neg_left (h : p.dot q ≠ 0) : (-p).slerp q t = -p.slerp q t := by
  have hneg : (-p).dot q ≠ 0 := by
    rw [neg_dot]
    exact neg_ne_zero.mpr h
  calc (-p).slerp q t = (-p).slerp (-q) t := (slerp_neg_right hneg).symm
    _ = -p.slerp q t := neg_slerp_neg p q t

variable {m n : Mat3 ℝ}

/-- **Less than a half turn apart**, the versors of two orientations are not perpendicular. -/
theorem dot_ofMat3_ne_zero (hm : m.IsRotation) (hn : n.IsRotation)
    (hangle : (m.transpose * n).angle < Real.pi) : (ofMat3 m).dot (ofMat3 n) ≠ 0 := by
  intro hzero
  have htrace := trace_transpose_mul (ofMat3 m) (ofMat3 n)
  rw [toMat3_ofMat3 hm, toMat3_ofMat3 hn, dot_ofMat3 hm, dot_ofMat3 hn, hzero] at htrace
  refine hangle.ne (Real.arccos_eq_pi.mpr ?_)
  rw [htrace]
  norm_num

end Versor

/-- **A turn of the world turns interpolated orientations**, if these are less than a half turn
apart. -/
theorem Mat3.slerp_mul {e m n : Mat3 ℝ} (he : e.IsRotation) (hm : m.IsRotation)
    (hn : n.IsRotation) (hangle : (m.transpose * n).angle < Real.pi) (t : ℝ) :
    (e * m).slerp (e * n) t = e * m.slerp n t := by
  have hunit := Versor.dot_ofMat3 he
  have hdot : ((Versor.ofMat3 e).mul (Versor.ofMat3 m)).dot
      ((Versor.ofMat3 e).mul (Versor.ofMat3 n)) ≠ 0 := by
    rw [Versor.dot_mul_of_unit hunit]
    exact Versor.dot_ofMat3_ne_zero hm hn hangle
  have hneg : ((Versor.ofMat3 e).mul (Versor.ofMat3 m)).dot
      (-(Versor.ofMat3 e).mul (Versor.ofMat3 n)) ≠ 0 := by
    rw [Versor.dot_neg]
    exact neg_ne_zero.mpr hdot
  have hsigns : ((Versor.ofMat3 (e * m)).slerp (Versor.ofMat3 (e * n)) t).toMat3 =
      (((Versor.ofMat3 e).mul (Versor.ofMat3 m)).slerp
        ((Versor.ofMat3 e).mul (Versor.ofMat3 n)) t).toMat3 := by
    -- either versor is the product of the versors or its opposite
    rcases Versor.ofMat3_mul he hm with hp | hp <;> rcases Versor.ofMat3_mul he hn with hq | hq
    · rw [hp, hq]
    · rw [hp, hq, Versor.slerp_neg_right hdot]
    · rw [hp, hq, Versor.slerp_neg_left hdot, Versor.toMat3_neg]
    · rw [hp, hq, Versor.slerp_neg_left hneg, Versor.toMat3_neg, Versor.slerp_neg_right hdot]
  calc (e * m).slerp (e * n) t
      = ((Versor.ofMat3 e).mul ((Versor.ofMat3 m).slerp (Versor.ofMat3 n) t)).toMat3 := by
        rw [Mat3.slerp, hsigns, Versor.slerp_mul hunit]
    _ = e * m.slerp n t := by
        rw [Versor.toMat3_mul, Versor.toMat3_ofMat3 he, Mat3.slerp]

/-- Interpolation between a rotation and itself gives this rotation. -/
theorem Mat3.slerp_self {m : Mat3 ℝ} (hm : m.IsRotation) (t : ℝ) : m.slerp m t = m := by
  rw [slerp, Versor.slerp_self (Versor.dot_ofMat3 hm), Versor.toMat3_ofMat3 hm]

end LidarOdometry
