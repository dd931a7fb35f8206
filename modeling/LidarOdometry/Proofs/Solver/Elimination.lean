import LidarOdometry.Proofs.Numeric.Exact
import LidarOdometry.Solver.LeastSquares

/-!
# Systems Solved by Elimination

Eliminating the first unknown of a symmetric system leaves a symmetric system with one unknown
less, that of its *Schur complement*. A quadratic form is the sum of a square, weighted by the
pivot, and the form of the complement. So a symmetric matrix is positive definite exactly if
its pivot is positive and its complement is positive definite; and this is what decides, one
unknown after the other, whether the solver finds a solution.

## Main definitions

* `entries`: a matrix of the solver as a matrix.
* `schur`: the Schur complement of the first pivot.

## Main results

* `posDef_iff_schur`: positive definiteness, one unknown after the other.
* `solvePositiveDefinite_succ`: the solver eliminates the first unknown.
* `entries_reduced`: the other unknowns have the matrix of the complement.
* `mulVec_of_solvePositiveDefinite`: a solution solves the system.
* `isSome_solvePositiveDefinite_iff`: there is one exactly if the matrix is positive definite.
-/

namespace LidarOdometry

open Matrix

variable {n : ℕ}

/-! ### The Schur complement -/

section Schur

variable (A : Matrix (Fin (n + 1)) (Fin (n + 1)) ℝ)

/-- The first column below the pivot. -/
def belowPivot : Fin n → ℝ :=
  fun i => A i.succ 0

/-- **The Schur complement** of the first pivot: the system of the other unknowns. -/
noncomputable def schur : Matrix (Fin n) (Fin n) ℝ :=
  A.submatrix Fin.succ Fin.succ - (A 0 0)⁻¹ • vecMulVec (belowPivot A) (belowPivot A)

variable {A}

/-- The Schur complement acts as the block does, less its part along the pivot's column. -/
theorem mulVec_schur (y : Fin n → ℝ) : schur A *ᵥ y =
    A.submatrix Fin.succ Fin.succ *ᵥ y - ((A 0 0)⁻¹ * (belowPivot A ⬝ᵥ y)) • belowPivot A := by
  rw [schur, sub_mulVec, smul_mulVec, vecMulVec_mulVec, op_smul_eq_smul, smul_smul]

/-- The first equation of a symmetric system. -/
theorem mulVec_zero (hA : A.IsSymm) (x : Fin (n + 1) → ℝ) :
    (A *ᵥ x) 0 = A 0 0 * x 0 + belowPivot A ⬝ᵥ Fin.tail x := by
  rw [mulVec, dotProduct, Fin.sum_univ_succ]
  refine congrArg _ (Finset.sum_congr rfl fun i _ => ?_)
  rw [hA.apply, belowPivot, Fin.tail]

/-- The other equations. -/
theorem mulVec_succ (x : Fin (n + 1) → ℝ) (i : Fin n) : (A *ᵥ x) i.succ =
    belowPivot A i * x 0 + (A.submatrix Fin.succ Fin.succ *ᵥ Fin.tail x) i := by
  rw [mulVec, dotProduct, Fin.sum_univ_succ]
  rfl

/-- The Schur complement of a symmetric matrix is symmetric. -/
theorem isSymm_schur (hA : A.IsSymm) : (schur A).IsSymm := by
  refine (hA.submatrix _).sub (IsSymm.smul ?_ _)
  rw [IsSymm, transpose_vecMulVec]

/-- **Completing the square**: a quadratic form is a square, weighted by the pivot, and the form
of the complement. -/
theorem dotProduct_mulVec_eq (hA : A.IsSymm) (hpivot : A 0 0 ≠ 0) (x : Fin (n + 1) → ℝ) :
    x ⬝ᵥ A *ᵥ x = A 0 0 * (x 0 + (A 0 0)⁻¹ * (belowPivot A ⬝ᵥ Fin.tail x)) ^ 2 +
      Fin.tail x ⬝ᵥ schur A *ᵥ Fin.tail x := by
  have hform : x ⬝ᵥ A *ᵥ x = x 0 * (A 0 0 * x 0 + belowPivot A ⬝ᵥ Fin.tail x) +
      (x 0 * (belowPivot A ⬝ᵥ Fin.tail x) +
        Fin.tail x ⬝ᵥ A.submatrix Fin.succ Fin.succ *ᵥ Fin.tail x) := by
    have hrest : ∑ i : Fin n, x i.succ * (A *ᵥ x) i.succ =
        Fin.tail x ⬝ᵥ (x 0 • belowPivot A + A.submatrix Fin.succ Fin.succ *ᵥ Fin.tail x) := by
      refine Finset.sum_congr rfl fun i _ => ?_
      rw [mulVec_succ, Pi.add_apply, Pi.smul_apply, smul_eq_mul, mul_comm (x 0), Fin.tail]
    rw [dotProduct, Fin.sum_univ_succ, mulVec_zero hA, hrest, dotProduct_add, dotProduct_smul,
      smul_eq_mul, dotProduct_comm (Fin.tail x) (belowPivot A)]
  rw [hform, mulVec_schur, dotProduct_sub, dotProduct_smul, smul_eq_mul,
    dotProduct_comm (Fin.tail x) (belowPivot A)]
  field_simp
  ring

/-- **Positive definiteness, one unknown after the other.** -/
theorem posDef_iff_schur (hA : A.IsSymm) : A.PosDef ↔ 0 < A 0 0 ∧ (schur A).PosDef := by
  simp only [posDef_iff_dotProduct_mulVec, isHermitian_iff_isSymm, star_trivial]
  constructor
  · rintro ⟨-, hpos⟩
    have hpivot : 0 < A 0 0 := by
      have h := hpos (x := Pi.single 0 1) (by simp)
      simpa using h
    refine ⟨hpivot, isSymm_schur hA, fun y hy => ?_⟩
    -- the first unknown is chosen such that the square vanishes
    have h := hpos (x := Fin.cons (-((A 0 0)⁻¹ * (belowPivot A ⬝ᵥ y))) y)
      fun hzero => hy (funext fun i => congrFun hzero i.succ)
    rw [dotProduct_mulVec_eq hA hpivot.ne', Fin.tail_cons, Fin.cons_zero] at h
    simpa using h
  · rintro ⟨hpivot, -, hpos⟩
    refine ⟨hA, fun x hx => ?_⟩
    rw [dotProduct_mulVec_eq hA hpivot.ne']
    rcases eq_or_ne (Fin.tail x) 0 with htail | htail
    · have hhead : x 0 ≠ 0 := fun hhead =>
        hx (funext fun i => i.cases hhead fun j => congrFun htail j)
      rw [htail, dotProduct_zero, mul_zero, add_zero, zero_dotProduct, add_zero]
      exact mul_pos hpivot (sq_pos_iff.mpr hhead)
    · exact add_pos_of_nonneg_of_pos (mul_nonneg hpivot.le (sq_nonneg _)) (hpos htail)

end Schur

/-! ### The solver -/

/-- A matrix of the solver, as a matrix. -/
def entries (a : Square ℝ n) : Matrix (Fin n) (Fin n) ℝ :=
  Matrix.of fun i j => (a.get i).get j

/-- The sum of products that a solution is substituted into. -/
theorem foldl_zip (v w : Vector ℝ n) :
    (v.zip w).foldl (fun sum (c, x) => sum + c * x) 0 = v.get ⬝ᵥ w.get := by
  have hzip : v.zip w = Vector.ofFn fun i : Fin n => (v.get i, w.get i) :=
    Vector.ext fun i hi => by simp [Vector.get_eq_getElem]
  have hsum : ∀ (l : List (ℝ × ℝ)) (s : ℝ),
      l.foldl (fun sum (c, x) => sum + c * x) s = s + (l.map fun p => p.1 * p.2).sum := by
    intro l
    induction l with
    | nil => simp
    | cons p l ih =>
        intro s
        rw [List.foldl_cons, ih, List.map_cons, List.sum_cons, add_assoc]
  rw [← Vector.foldl_toList, hzip, Vector.toList_ofFn, hsum, zero_add, List.map_ofFn,
    List.sum_ofFn]
  rfl

/-- The two roots of a pivot that a product is divided by. -/
theorem div_sqrt_mul_div_sqrt {p : ℝ} (hp : 0 < p) (c d : ℝ) :
    c / √p * (d / √p) = p⁻¹ * c * d := by
  rw [div_mul_div_comm, Real.mul_self_sqrt hp.le, div_eq_inv_mul, mul_assoc]

section Solver

variable (a : Square ℝ (n + 1)) (b : Vector ℝ (n + 1))

/-- The first column of the factor, below the root of the pivot. -/
noncomputable def factor : Vector ℝ n :=
  Vector.ofFn fun i => entries a i.succ 0 / √(entries a 0 0)

/-- The matrix of the other unknowns. -/
noncomputable def reduced : Square ℝ n :=
  Vector.ofFn fun i => Vector.ofFn fun j =>
    entries a i.succ j.succ - (factor a).get j * (factor a).get i

/-- The right-hand side of the other unknowns. -/
noncomputable def remaining : Vector ℝ n :=
  Vector.ofFn fun i => b.get i.succ - b.get 0 / √(entries a 0 0) * (factor a).get i

/-- The first unknown, by substitution of the others. -/
noncomputable def substituted (y : Vector ℝ n) : ℝ :=
  (b.get 0 / √(entries a 0 0) -
    ((factor a).zip y).foldl (fun sum (c, x) => sum + c * x) 0) / √(entries a 0 0)

/-- The column that is eliminated, over the root of the pivot. -/
theorem get_factor (i : Fin n) :
    (factor a).get i = belowPivot (entries a) i / √(entries a 0 0) := by
  rw [factor, Vector.get_eq_getElem, Vector.getElem_ofFn, belowPivot]

/-- **The solver eliminates the first unknown**, provided that its pivot is positive. -/
theorem solvePositiveDefinite_succ : solvePositiveDefinite (n + 1) a b =
    if 0 < entries a 0 0 then
      (solvePositiveDefinite n (reduced a) (remaining a b)).map fun y =>
        Vector.ofFn (Fin.cons (substituted a b y) y.get : Fin (n + 1) → ℝ)
    else none := by
  have hentry : a[0][0] = entries a 0 0 := rfl
  rw [solvePositiveDefinite]
  by_cases hpivot : 0 < entries a 0 0
  · simp only [isPivot, hentry, hpivot, decide_true, if_true]
    change (solvePositiveDefinite n (reduced a) (remaining a b) >>= _) = _
    cases solvePositiveDefinite n (reduced a) (remaining a b) with
    | none => rfl
    | some y =>
        refine congrArg some (congrArg _ (funext fun i => ?_))
        cases i using Fin.cases with
        | zero => rfl
        | succ i => rfl
  · simp only [isPivot, hentry, hpivot, decide_false, if_false]
    rfl

section Pivot

variable {a b} (hpivot : 0 < entries a 0 0)
include hpivot

/-- **The other unknowns** have the matrix of the Schur complement. -/
theorem entries_reduced : entries (reduced a) = schur (entries a) := by
  ext i j
  have hentry : entries (reduced a) i j =
      entries a i.succ j.succ - (factor a).get j * (factor a).get i := by
    simp [entries, reduced]
  rw [hentry, get_factor, get_factor, div_sqrt_mul_div_sqrt hpivot, schur, Matrix.sub_apply,
    Matrix.smul_apply, vecMulVec_apply, smul_eq_mul, mul_assoc, mul_comm (belowPivot _ i)]
  rfl

/-- What remains on the right hand side. -/
theorem get_remaining (i : Fin n) : (remaining a b).get i =
    b.get i.succ - (entries a 0 0)⁻¹ * b.get 0 * belowPivot (entries a) i := by
  rw [remaining, Vector.get_eq_getElem, Vector.getElem_ofFn, get_factor,
    div_sqrt_mul_div_sqrt hpivot]

/-- The first unknown is found from the others. -/
theorem substituted_eq (y : Vector ℝ n) : substituted a b y =
    (entries a 0 0)⁻¹ * (b.get 0 - belowPivot (entries a) ⬝ᵥ y.get) := by
  have hfactor : (factor a).get = (√(entries a 0 0))⁻¹ • belowPivot (entries a) := by
    funext i
    rw [get_factor, Pi.smul_apply, smul_eq_mul, div_eq_inv_mul]
  rw [substituted, foldl_zip, hfactor, smul_dotProduct, smul_eq_mul, div_eq_inv_mul,
    div_eq_inv_mul, ← mul_sub, ← mul_assoc, ← mul_inv, Real.mul_self_sqrt hpivot.le]

end Pivot

/-- **A solution solves the system.** -/
theorem mulVec_of_solvePositiveDefinite : ∀ {n : ℕ} {a : Square ℝ n} {b x : Vector ℝ n},
    (entries a).IsSymm → solvePositiveDefinite n a b = some x → entries a *ᵥ x.get = b.get
  | 0, _, _, _, _, _ => funext fun i => i.elim0
  | n + 1, a, b, x, ha, hx => by
      rw [solvePositiveDefinite_succ, Option.ite_none_right_eq_some, Option.map_eq_some_iff] at hx
      obtain ⟨hpivot, y, hy, rfl⟩ := hx
      have hrest := mulVec_of_solvePositiveDefinite
        (by rw [entries_reduced hpivot]; exact isSymm_schur ha) hy
      rw [entries_reduced hpivot, mulVec_schur] at hrest
      have hx : (Vector.ofFn (Fin.cons (substituted a b y) y.get : Fin (n + 1) → ℝ)).get =
          Fin.cons (substituted a b y) y.get := by
        funext i
        simp [Vector.get_eq_getElem]
      rw [hx, substituted_eq hpivot]
      funext i
      cases i using Fin.cases with
      | zero =>
          rw [mulVec_zero ha, Fin.cons_zero, Fin.tail_cons, mul_inv_cancel_left₀ hpivot.ne',
            sub_add_cancel]
      | succ i =>
          have hi := congrFun hrest i
          rw [Pi.sub_apply, Pi.smul_apply, smul_eq_mul, get_remaining hpivot] at hi
          rw [mulVec_succ, Fin.cons_zero, Fin.tail_cons]
          linear_combination hi

/-- **There is a solution exactly if the matrix is positive definite.** -/
theorem isSome_solvePositiveDefinite_iff : ∀ {n : ℕ} {a : Square ℝ n} (b : Vector ℝ n),
    (entries a).IsSymm → ((solvePositiveDefinite n a b).isSome ↔ (entries a).PosDef)
  | 0, a, b, ha =>
      iff_of_true rfl (.of_dotProduct_mulVec_pos (isHermitian_iff_isSymm.mpr ha)
        fun x hx => absurd (Subsingleton.elim x 0) hx)
  | n + 1, a, b, ha => by
      rw [posDef_iff_schur ha, solvePositiveDefinite_succ]
      by_cases hpivot : 0 < entries a 0 0
      · have hreduced : (entries (reduced a)).IsSymm := by
          rw [entries_reduced hpivot]
          exact isSymm_schur ha
        rw [if_pos hpivot, Option.isSome_map, isSome_solvePositiveDefinite_iff _ hreduced,
          entries_reduced hpivot, and_iff_right hpivot]
      · simp [hpivot]

end Solver

end LidarOdometry
