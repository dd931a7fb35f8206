import LidarOdometry.Proofs.Geometry.Interpolation

/-!
# Arcs of Orientations

Two unit versors span an angle, and the arc between them divides it evenly: over the reals the
versor at the fraction `t` of the arc is again a unit, and the angle from the start of the arc to it
is the fraction `t` of the whole. All of this comes from the sines of the two parts of the angle and
of their sum.

An orientation turns by twice the angle of its versor. Of two opposite versors, which stand for
one orientation, interpolation goes to the nearer; so the arc spans at most a right angle, and the
orientation turns by at most a half turn, at constant speed.

## Main definitions

* `Versor.separation`: the angle between two unit versors.

## Main results

* `Versor.arc_cases`: the closed form of an arc.
* `Versor.arc_zero`, `Versor.arc_one`, `Versor.arc_swap`: where an arc starts, where it ends, and
  the arc the other way.
* `Versor.dot_arc_self`, `Versor.dot_arc`: its versors are units, evenly spread.
* `Versor.slerp_cases`: of two opposite targets the nearer one is taken.
* `Versor.isRotation_toMat3`: unit versors stand for rotations.
* `Mat3.slerp_zero`, `Mat3.slerp_one`, `Mat3.slerp_swap`, `Mat3.IsRotation.slerp`,
  `Mat3.IsRotation.angle_slerp`: interpolated orientations.
-/

namespace LidarOdometry

namespace Versor

/-! ### Angles between versors -/

/-- **The angle between two unit versors.** -/
noncomputable def separation (p q : Versor ℝ) : ℝ :=
  Real.arccos (p.dot q)

variable {p q : Versor ℝ}

/-- The angle between two versors does not depend on their order. -/
theorem separation_comm (p q : Versor ℝ) : q.separation p = p.separation q := by
  rw [separation, dot_comm, separation]

/-- A versor is as close to itself as unit versors are. -/
theorem dot_le_one (hp : p.dot p = 1) (hq : q.dot q = 1) : p.dot q ≤ 1 := by
  have hdifference : 0 ≤ (p.i - q.i) ^ 2 + (p.j - q.j) ^ 2 + (p.k - q.k) ^ 2 + (p.w - q.w) ^ 2 := by
    positivity
  simp only [dot] at hp hq ⊢
  linarith

/-- The cosine of an acute separation is the inner product. -/
theorem cos_separation (hp : p.dot p = 1) (hq : q.dot q = 1) (hnear : 0 ≤ p.dot q) :
    Real.cos (p.separation q) = p.dot q :=
  Real.cos_arccos (by linarith) (dot_le_one hp hq)

/-- The sine of a separation. -/
theorem sin_separation (p q : Versor ℝ) :
    Real.sin (p.separation q) = √(1 - p.dot q * p.dot q) := by
  rw [separation, Real.sin_arccos, sq]

/-- A unit versor is at no angle to itself. -/
theorem separation_self (hp : p.dot p = 1) : p.separation p = 0 := by
  rw [separation, hp, Real.arccos_one]

/-- The two parts of an angle make up the whole. -/
theorem part_add_part (t θ : ℝ) : (1 - t) * θ + t * θ = θ := by
  ring

/-! ### Arcs -/

/-- The inner product is linear in a combination. -/
theorem dot_combine (r p q : Versor ℝ) (a b : ℝ) :
    r.dot (p.combine q a b) = a * r.dot p + b * r.dot q := by
  simp only [dot, combine]
  ring

/-- The square of a combination. -/
theorem dot_combine_self (p q : Versor ℝ) (a b : ℝ) :
    (p.combine q a b).dot (p.combine q a b) =
      a ^ 2 * p.dot p + b ^ 2 * q.dot q + 2 * a * b * p.dot q := by
  simp only [dot, combine]
  ring

/-- **The closed form of an arc**: from a versor to itself it stays there; otherwise it combines
the ends by the sines of the two parts of the angle. -/
theorem arc_cases (hp : p.dot p = 1) (hq : q.dot q = 1) (hnear : 0 ≤ p.dot q) :
    (p = q ∧ ∀ t, p.arc q t = p) ∨ (0 < Real.sin (p.separation q) ∧ ∀ t, p.arc q t =
      p.combine q (Real.sin ((1 - t) * p.separation q) / Real.sin (p.separation q))
        (Real.sin (t * p.separation q) / Real.sin (p.separation q))) := by
  rcases (dot_le_one hp hq).eq_or_lt with hsame | hlt
  · refine .inl ⟨eq_of_dot_eq_one hp hq hsame, fun t => ?_⟩
    rw [arc]
    exact if_pos hsame.ge
  · have hsine : 0 < √(1 - p.dot q * p.dot q) :=
      Real.sqrt_pos.mpr (sub_pos.mpr (mul_lt_one_of_nonneg_of_lt_one_left hnear hlt hlt.le))
    rw [sin_separation]
    exact .inr ⟨hsine, fun t => (if_neg hlt.not_ge).trans (if_neg hsine.not_ge)⟩

section Arcs

variable (hp : p.dot p = 1) (hq : q.dot q = 1) (hnear : 0 ≤ p.dot q)

include hp hq hnear

/-- An arc starts at its first end. -/
theorem arc_zero : p.arc q 0 = p := by
  obtain ⟨-, harc⟩ | ⟨hsine, harc⟩ := arc_cases hp hq hnear
  · exact harc 0
  · rw [harc, sub_zero, one_mul, div_self hsine.ne', zero_mul, Real.sin_zero, zero_div]
    refine Versor.ext ?_ ?_ ?_ ?_ <;> simp [combine]

/-- **The arc the other way** has the same versors. -/
theorem arc_swap (t : ℝ) : q.arc p (1 - t) = p.arc q t := by
  have hnear' : 0 ≤ q.dot p := hnear.trans_eq (dot_comm p q)
  obtain ⟨rfl, harc⟩ | ⟨hsine, harc⟩ := arc_cases hp hq hnear
  · rw [harc, harc]
  · obtain ⟨rfl, -⟩ | ⟨-, harc'⟩ := arc_cases hq hp hnear'
    · rw [separation_self hq, Real.sin_zero] at hsine
      exact absurd hsine (lt_irrefl 0)
    · rw [harc, harc', separation_comm, sub_sub_cancel]
      refine Versor.ext ?_ ?_ ?_ ?_ <;> exact add_comm _ _

/-- An arc ends at its second end. -/
theorem arc_one : p.arc q 1 = q := by
  rw [← arc_swap hp hq hnear, sub_self, arc_zero hq hp (hnear.trans_eq (dot_comm p q))]

/-- **The versors of an arc are units.** -/
theorem dot_arc_self (t : ℝ) : (p.arc q t).dot (p.arc q t) = 1 := by
  obtain ⟨-, harc⟩ | ⟨hsine, harc⟩ := arc_cases hp hq hnear
  · rw [harc, hp]
  · have hsum : ∀ x y : ℝ, Real.sin x ^ 2 + Real.sin y ^ 2 +
        2 * Real.sin x * Real.sin y * Real.cos (x + y) = Real.sin (x + y) ^ 2 := fun x y => by
      rw [Real.cos_add, Real.sin_add]
      linear_combination -Real.sin x ^ 2 * Real.sin_sq_add_cos_sq y -
        Real.sin y ^ 2 * Real.sin_sq_add_cos_sq x
    have hparts := hsum ((1 - t) * p.separation q) (t * p.separation q)
    rw [part_add_part, cos_separation hp hq hnear] at hparts
    rw [harc, dot_combine_self, hp, hq]
    field_simp
    linear_combination hparts

/-- **The versors of an arc are evenly spread.** -/
theorem dot_arc (t : ℝ) : p.dot (p.arc q t) = Real.cos (t * p.separation q) := by
  obtain ⟨rfl, harc⟩ | ⟨hsine, harc⟩ := arc_cases hp hq hnear
  · rw [harc, hp, separation_self hp, mul_zero, Real.cos_zero]
  · have hsum : ∀ x y : ℝ, Real.sin x + Real.sin y * Real.cos (x + y) =
        Real.sin (x + y) * Real.cos y := fun x y => by
      rw [Real.cos_add, Real.sin_add]
      linear_combination -Real.sin x * Real.sin_sq_add_cos_sq y
    have hparts := hsum ((1 - t) * p.separation q) (t * p.separation q)
    rw [part_add_part, cos_separation hp hq hnear] at hparts
    rw [harc, dot_combine, hp]
    field_simp
    linear_combination hparts

end Arcs

/-! ### Interpolation -/

/-- Opposites of two versors have the same inner product. -/
theorem neg_dot_neg (p q : Versor ℝ) : (-p).dot (-q) = p.dot q := by
  rw [dot_neg, neg_dot, neg_neg]

/-- **Of two opposite targets the nearer one is taken.** -/
theorem slerp_cases (p : Versor ℝ) (hq : q.dot q = 1) : ∃ near : Versor ℝ,
    near.dot near = 1 ∧ near.toMat3 = q.toMat3 ∧ p.dot near = |p.dot q| ∧
      (∀ t, p.slerp q t = p.arc near t) ∧ ∀ t, (q.slerp p t).toMat3 = (near.arc p t).toMat3 := by
  rcases lt_or_ge (p.dot q) 0 with hfar | hnear
  · refine ⟨-q, (neg_dot_neg q q).trans hq, toMat3_neg q, ?_, fun t => if_pos hfar, fun t => ?_⟩
    · rw [dot_neg, abs_of_neg hfar]
    · -- seen from the target, the start is the one that is replaced
      have hback : q.slerp p t = q.arc (-p) t := if_pos (dot_comm p q ▸ hfar)
      rw [hback, ← toMat3_neg, ← neg_arc_neg, neg_neg]
  · refine ⟨q, hq, rfl, (abs_of_nonneg hnear).symm, fun t => if_neg hnear.not_gt, fun t => ?_⟩
    have hback : q.slerp p t = q.arc p t := if_neg (dot_comm p q ▸ hnear.not_gt)
    rw [hback]

section Slerp

variable (hp : p.dot p = 1) (hq : q.dot q = 1)

include hp hq

/-- **Interpolation starts** at the first versor. -/
theorem slerp_zero : p.slerp q 0 = p := by
  obtain ⟨near, hunit, -, hdot, hslerp, -⟩ := slerp_cases p hq
  rw [hslerp, arc_zero hp hunit (hdot ▸ abs_nonneg _)]

/-- Interpolation ends at the target, or at the opposite versor. -/
theorem toMat3_slerp_one : (p.slerp q 1).toMat3 = q.toMat3 := by
  obtain ⟨near, hunit, hsame, hdot, hslerp, -⟩ := slerp_cases p hq
  rw [hslerp, arc_one hp hunit (hdot ▸ abs_nonneg _), hsame]

/-- **Interpolation the other way** gives the same orientations. -/
theorem toMat3_slerp_swap (t : ℝ) : (q.slerp p (1 - t)).toMat3 = (p.slerp q t).toMat3 := by
  obtain ⟨near, hunit, -, hdot, hslerp, hback⟩ := slerp_cases p hq
  rw [hslerp, hback, arc_swap hp hunit (hdot ▸ abs_nonneg _)]

/-- **Interpolated versors are units.** -/
theorem dot_slerp_self (t : ℝ) : (p.slerp q t).dot (p.slerp q t) = 1 := by
  obtain ⟨near, hunit, -, hdot, hslerp, -⟩ := slerp_cases p hq
  rw [hslerp, dot_arc_self hp hunit (hdot ▸ abs_nonneg _)]

/-- **Interpolated versors are evenly spread**, along the shorter arc. -/
theorem dot_slerp (t : ℝ) : p.dot (p.slerp q t) = Real.cos (t * Real.arccos |p.dot q|) := by
  obtain ⟨near, hunit, -, hdot, hslerp, -⟩ := slerp_cases p hq
  rw [hslerp, dot_arc hp hunit (hdot ▸ abs_nonneg _), separation, hdot]

end Slerp

/-! ### Orientations -/

/-- **Unit versors stand for rotations.** -/
theorem isRotation_toMat3 (hq : q.dot q = 1) : q.toMat3.IsRotation := by
  simp only [dot] at hq
  have hrow : (q.i * q.i + q.k * q.k + (q.j * q.j + q.w * q.w)) ^ 2 = 1 := by
    rw [hq, one_pow]
  have hdet : (q.i * q.i + q.k * q.k + (q.j * q.j + q.w * q.w)) ^ 3 = 1 := by
    rw [hq, one_pow]
  refine .of_rows ⟨?_, ?_, ?_, ?_, ?_, ?_⟩ ?_ <;>
    norm_num [toMat3, Mat3.det, Vec3.dot, Vec3.cross]
  · linear_combination hrow
  · linear_combination hrow
  · linear_combination hrow
  · ring
  · ring
  · ring
  · linear_combination hdet

/-- **An orientation turns by twice the angle** to the nearer of two opposite versors. -/
theorem angle_transpose_mul (hp : p.dot p = 1) (hq : q.dot q = 1) :
    (p.toMat3.transpose * q.toMat3).angle = 2 * Real.arccos |p.dot q| := by
  have hle : |p.dot q| ≤ 1 := by
    obtain ⟨near, hunit, -, hdot, -⟩ := slerp_cases p hq
    exact hdot ▸ dot_le_one hp hunit
  have hcos : Real.cos (2 * Real.arccos |p.dot q|) = 2 * p.dot q ^ 2 - 1 := by
    rw [Real.cos_two_mul, Real.cos_arccos (by linarith [abs_nonneg (p.dot q)]) hle, sq_abs]
  have hright : Real.arccos |p.dot q| ≤ Real.pi / 2 :=
    Real.arccos_le_pi_div_two.mpr (abs_nonneg _)
  calc (p.toMat3.transpose * q.toMat3).angle
      = Real.arccos (Real.cos (2 * Real.arccos |p.dot q|)) := by
        rw [hcos, Mat3.angle, trace_transpose_mul, hp, hq]
        refine congrArg Real.arccos ?_
        norm_num
        ring
    _ = 2 * Real.arccos |p.dot q| :=
        Real.arccos_cos (by linarith [Real.arccos_nonneg |p.dot q|]) (by linarith)

end Versor

namespace Mat3

variable {m n : Mat3 ℝ} (hm : m.IsRotation) (hn : n.IsRotation)

include hm hn

/-- **Interpolation starts** at the first orientation. -/
theorem slerp_zero : m.slerp n 0 = m := by
  rw [slerp, Versor.slerp_zero (Versor.dot_ofMat3 hm) (Versor.dot_ofMat3 hn),
    Versor.toMat3_ofMat3 hm]

/-- **Interpolation ends** at the second orientation. -/
theorem slerp_one : m.slerp n 1 = n := by
  rw [slerp, Versor.toMat3_slerp_one (Versor.dot_ofMat3 hm) (Versor.dot_ofMat3 hn),
    Versor.toMat3_ofMat3 hn]

/-- **The other way** the orientations are the same. -/
theorem slerp_swap (t : ℝ) : n.slerp m (1 - t) = m.slerp n t :=
  Versor.toMat3_slerp_swap (Versor.dot_ofMat3 hm) (Versor.dot_ofMat3 hn) t

/-- **Interpolated orientations are rotations.** -/
theorem IsRotation.slerp (t : ℝ) : (m.slerp n t).IsRotation :=
  Versor.isRotation_toMat3 (Versor.dot_slerp_self (Versor.dot_ofMat3 hm) (Versor.dot_ofMat3 hn) t)

/-- **Orientations turn at constant speed.** -/
theorem IsRotation.angle_slerp {t : ℝ} (h0 : 0 ≤ t) (h1 : t ≤ 1) :
    (m.transpose * m.slerp n t).angle = t * (m.transpose * n).angle := by
  have hp := Versor.dot_ofMat3 hm
  have hq := Versor.dot_ofMat3 hn
  have hpart := Versor.angle_transpose_mul hp (Versor.dot_slerp_self hp hq t)
  have hwhole := Versor.angle_transpose_mul hp hq
  rw [Versor.toMat3_ofMat3 hm] at hpart hwhole
  rw [Versor.toMat3_ofMat3 hn] at hwhole
  -- the angle of the versors is at most a right one, and so is every part of it
  set θ := Real.arccos |(Versor.ofMat3 m).dot (Versor.ofMat3 n)|
  have hθ : 0 ≤ θ := Real.arccos_nonneg _
  have hright : θ ≤ Real.pi / 2 := Real.arccos_le_pi_div_two.mpr (abs_nonneg _)
  have hnonneg : 0 ≤ t * θ := mul_nonneg h0 hθ
  have hle : t * θ ≤ θ := mul_le_of_le_one_left hθ h1
  have hcos : 0 ≤ Real.cos (t * θ) :=
    Real.cos_nonneg_of_neg_pi_div_two_le_of_le (by linarith) (by linarith)
  rw [Mat3.slerp, hpart, hwhole, Versor.dot_slerp hp hq, abs_of_nonneg hcos,
    Real.arccos_cos hnonneg (by linarith [Real.pi_pos])]
  ring

end Mat3

end LidarOdometry
