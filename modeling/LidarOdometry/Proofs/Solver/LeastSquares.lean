import LidarOdometry.Proofs.Solver.Elimination

/-!
# Least Squares by Normal Equations

A step minimises a weighted sum of squared linear residuals, damped by the squared length of the
step. The sum is a quadratic polynomial, whose second-order part is the matrix of the normal
equations and whose first-order part is their gradient. Where the gradient of the damped sum
vanishes, the sum grows in every direction by the form of the damped matrix; so if that is
positive definite, the solution of the equations is the only minimum.

The form of the undamped matrix is itself a weighted sum of squares. With weights that are not
negative, it vanishes exactly in the directions that no residual of positive weight sees.

## Main definitions

* `Observation`: a weighted linear residual.
* `NormalEquations.ofList`: the normal equations of some residuals.
* `cost`, `dampedCost`: what a step minimises.
* `normalMatrix`, `pull`: the second-order and the first-order part of the sum.

## Main results

* `entries_ofList`, `gradient_ofList`: the solver gathers these parts.
* `ofList_perm`: in whatever order the residuals come.
* `dampedCost_eq`: growth of the damped sum around a solution.
* `solve_eq_some`, `isSome_solve_iff`: the solution of the equations.
* `exists_solve`, `solve_zero_eq_none_iff`: when there is one.
* `solve_eq_zero`: the solution of residuals that vanish.
-/

namespace LidarOdometry

open Matrix

/-- **A weighted linear residual** in `n` unknowns: its value after a step is `residual` and the
product of `row` with the step. -/
structure Observation (α : Type) (n : ℕ) where
  row : Vector α n
  residual : α
  weight : α

/-- **The normal equations of some residuals**, gathered one after the other. -/
def NormalEquations.ofList {α : Type} [Scalar α] {n : ℕ} (os : List (Observation α n)) :
    NormalEquations α n :=
  os.foldl (fun e o => e.add o.row o.residual o.weight) .zero

variable {n : ℕ}

/-- The value of a residual after a step. -/
def Observation.after (o : Observation ℝ n) (x : Fin n → ℝ) : ℝ :=
  o.residual + o.row.get ⬝ᵥ x

/-- **The weighted sum of squared residuals** after a step. -/
def cost (os : List (Observation ℝ n)) (x : Fin n → ℝ) : ℝ :=
  (os.map fun o => o.weight * o.after x ^ 2).sum

/-- **What a damped step minimises.** -/
def dampedCost (os : List (Observation ℝ n)) (damping : ℝ) (x : Fin n → ℝ) : ℝ :=
  cost os x + damping * (x ⬝ᵥ x)

/-- The weighted sum of the products of the rows with themselves. -/
def normalMatrix (os : List (Observation ℝ n)) : Matrix (Fin n) (Fin n) ℝ :=
  (os.map fun o => o.weight • vecMulVec o.row.get o.row.get).sum

/-- The weighted sum of the rows, each by its residual. -/
def pull (os : List (Observation ℝ n)) : Fin n → ℝ :=
  (os.map fun o => (o.weight * o.residual) • o.row.get).sum

/-- The cost of one observation more. -/
theorem cost_cons (o : Observation ℝ n) (os : List (Observation ℝ n)) (x : Fin n → ℝ) :
    cost (o :: os) x = o.weight * o.after x ^ 2 + cost os x := rfl

/-- The normal matrix of one observation more. -/
theorem normalMatrix_cons (o : Observation ℝ n) (os : List (Observation ℝ n)) :
    normalMatrix (o :: os) = o.weight • vecMulVec o.row.get o.row.get + normalMatrix os := rfl

/-- The pull of one observation more. -/
theorem pull_cons (o : Observation ℝ n) (os : List (Observation ℝ n)) :
    pull (o :: os) = (o.weight * o.residual) • o.row.get + pull os := rfl

/-! ### What the solver gathers -/

namespace NormalEquations

variable (e : NormalEquations ℝ n)

/-- The matrix of no observations is zero. -/
theorem entries_zero : entries (zero : NormalEquations ℝ n).matrix = 0 := by
  ext i j
  simp [entries, zero, Vector.get_eq_getElem]

/-- The gradient of no observations is zero. -/
theorem gradient_zero : (zero : NormalEquations ℝ n).gradient.get = 0 := by
  funext i
  simp [zero, Vector.get_eq_getElem]

/-- The matrix with one observation more. -/
theorem entries_add (o : Observation ℝ n) : entries (e.add o.row o.residual o.weight).matrix =
    entries e.matrix + o.weight • vecMulVec o.row.get o.row.get := by
  ext i j
  simp [entries, add, Vector.get_eq_getElem, vecMulVec_apply]
  ring

/-- The gradient with one observation more. -/
theorem gradient_add (o : Observation ℝ n) : (e.add o.row o.residual o.weight).gradient.get =
    e.gradient.get + (o.weight * o.residual) • o.row.get := by
  funext i
  simp [add, Vector.get_eq_getElem]
  ring

/-- Damping is added along the diagonal. -/
theorem entries_damped (damping : ℝ) :
    entries (e.damped damping) = entries e.matrix + damping • 1 := by
  ext i j
  rcases eq_or_ne i j with rfl | hij
  · simp [entries, damped, Vector.get_eq_getElem]
  · have hval : i.val ≠ j.val := fun h => hij (Fin.ext h)
    simp [entries, damped, Vector.get_eq_getElem, hij, Vector.getElem_set_ne, hval]

/-- Damping keeps the matrix symmetric. -/
theorem isSymm_entries_damped {e : NormalEquations ℝ n} (he : (entries e.matrix).IsSymm)
    (damping : ℝ) : (entries (e.damped damping)).IsSymm := by
  rw [entries_damped]
  exact he.add (isSymm_one.smul damping)

/-- One more observation is added last. -/
theorem ofList_concat (os : List (Observation ℝ n)) (o : Observation ℝ n) :
    ofList (os ++ [o]) = (ofList os).add o.row o.residual o.weight :=
  List.foldl_concat ..

/-- What every residual adds to is a sum over the residuals. -/
theorem map_ofList {M : Type} [AddMonoid M] {f : NormalEquations ℝ n → M}
    {g : Observation ℝ n → M} (hzero : f .zero = 0)
    (hadd : ∀ e o, f (e.add o.row o.residual o.weight) = f e + g o)
    (os : List (Observation ℝ n)) : f (ofList os) = (os.map g).sum := by
  induction os using List.reverseRecOn with
  | nil => exact hzero
  | append_singleton os o ih =>
      rw [ofList_concat, hadd, ih, List.map_append, List.sum_append, List.map_singleton,
        List.sum_singleton]

/-- **The solver gathers the second-order part** of the sum of squares. -/
theorem entries_ofList (os : List (Observation ℝ n)) :
    entries (ofList os).matrix = normalMatrix os :=
  map_ofList (f := fun e => entries e.matrix) entries_zero entries_add os

/-- **The solver gathers the first-order part** of the sum of squares. -/
theorem gradient_ofList (os : List (Observation ℝ n)) : (ofList os).gradient.get = pull os :=
  map_ofList (f := fun e => e.gradient.get) gradient_zero gradient_add os

/-- Equations are equal if their entries and gradients are. -/
theorem ext_entries {e e' : NormalEquations ℝ n} (hmatrix : entries e.matrix = entries e'.matrix)
    (hgradient : e.gradient.get = e'.gradient.get) : e = e' := by
  cases e
  cases e'
  refine congrArg₂ mk (Vector.ext fun i hi => Vector.ext fun j hj => ?_)
    (Vector.ext fun i hi => congrFun hgradient ⟨i, hi⟩)
  exact congrFun (congrFun hmatrix ⟨i, hi⟩) ⟨j, hj⟩

/-- **The order of the residuals does not matter.** -/
theorem ofList_perm {os os' : List (Observation ℝ n)} (h : os.Perm os') :
    ofList os = ofList os' := by
  have hmatrix : entries (ofList os).matrix = entries (ofList os').matrix := by
    rw [entries_ofList, entries_ofList]
    exact (h.map _).sum_eq
  have hgradient : (ofList os).gradient.get = (ofList os').gradient.get := by
    rw [gradient_ofList, gradient_ofList]
    exact (h.map _).sum_eq
  exact ext_entries hmatrix hgradient

/-! ### The solution -/

/-- **A step that is found solves the damped equations.** -/
theorem solve_eq_some {e : NormalEquations ℝ n} {damping : ℝ} {δ : Vector ℝ n}
    (he : (entries e.matrix).IsSymm) (h : e.solve damping = some δ) :
    (entries e.matrix + damping • 1) *ᵥ δ.get = -e.gradient.get := by
  rw [solve, Option.map_eq_some_iff] at h
  obtain ⟨x, hx, rfl⟩ := h
  have hneg : (x.map (- ·)).get = -x.get := by
    funext i
    simp [Vector.get_eq_getElem]
  rw [hneg, mulVec_neg, ← entries_damped,
    mulVec_of_solvePositiveDefinite (isSymm_entries_damped he damping) hx]

/-- **A step is found** exactly if the damped matrix is positive definite. -/
theorem isSome_solve_iff {e : NormalEquations ℝ n} (he : (entries e.matrix).IsSymm)
    (damping : ℝ) : (e.solve damping).isSome ↔ (entries e.matrix + damping • 1).PosDef := by
  rw [solve, Option.isSome_map, isSome_solvePositiveDefinite_iff _
    (isSymm_entries_damped he damping), entries_damped]

end NormalEquations

/-! ### The sum of squares -/

section Cost

variable {os : List (Observation ℝ n)} {damping : ℝ} {x δ : Fin n → ℝ}

/-- The normal matrix is symmetric. -/
theorem isSymm_normalMatrix (os : List (Observation ℝ n)) : (normalMatrix os).IsSymm := by
  induction os with
  | nil => exact transpose_zero
  | cons o os ih =>
      rw [normalMatrix_cons]
      exact (IsSymm.smul (transpose_vecMulVec _ _) _).add ih

/-- A row's share of the product of the matrix with a step. -/
theorem smul_vecMulVec_self_mulVec (w : ℝ) (row x : Fin n → ℝ) :
    (w • vecMulVec row row) *ᵥ x = (w * (row ⬝ᵥ x)) • row := by
  rw [smul_mulVec, vecMulVec_mulVec, op_smul_eq_smul, smul_smul]

/-- **The form of the normal equations** is a weighted sum of squares itself. -/
theorem dotProduct_normalMatrix (os : List (Observation ℝ n)) (x : Fin n → ℝ) :
    x ⬝ᵥ normalMatrix os *ᵥ x = (os.map fun o => o.weight * (o.row.get ⬝ᵥ x) ^ 2).sum := by
  induction os with
  | nil => simp [normalMatrix]
  | cons o os ih =>
      rw [normalMatrix_cons, add_mulVec, dotProduct_add, ih, smul_vecMulVec_self_mulVec,
        dotProduct_smul, smul_eq_mul, dotProduct_comm x, List.map_cons, List.sum_cons]
      ring

/-- **The sum of squares is a quadratic polynomial** in a further step. -/
theorem cost_add (os : List (Observation ℝ n)) (x h : Fin n → ℝ) : cost os (x + h) =
    cost os x + 2 * ((normalMatrix os *ᵥ x + pull os) ⬝ᵥ h) + h ⬝ᵥ normalMatrix os *ᵥ h := by
  induction os with
  | nil => simp [cost, normalMatrix, pull]
  | cons o os ih =>
      rw [cost_cons, cost_cons, ih, normalMatrix_cons, pull_cons]
      simp only [Observation.after, add_mulVec, smul_vecMulVec_self_mulVec, add_dotProduct,
        dotProduct_add, smul_dotProduct, smul_eq_mul, dotProduct_comm h]
      ring

/-- **Growth around a solution**: where the gradient vanishes, the damped sum grows by the form
of the damped matrix. -/
theorem dampedCost_eq (hδ : (normalMatrix os + damping • 1) *ᵥ δ = -pull os) :
    dampedCost os damping x = dampedCost os damping δ +
      (x - δ) ⬝ᵥ (normalMatrix os + damping • 1) *ᵥ (x - δ) := by
  obtain ⟨h, rfl⟩ : ∃ h, x = δ + h := ⟨x - δ, (add_sub_cancel _ _).symm⟩
  rw [add_mulVec, smul_mulVec, one_mulVec] at hδ
  have hgradient : (normalMatrix os *ᵥ δ + pull os) ⬝ᵥ h = -(damping * (δ ⬝ᵥ h)) := by
    rw [eq_neg_iff_add_eq_zero, ← smul_eq_mul, ← smul_dotProduct, ← add_dotProduct,
      add_right_comm, hδ, neg_add_cancel, zero_dotProduct]
  rw [dampedCost, dampedCost, cost_add, hgradient, add_sub_cancel_left, add_mulVec, smul_mulVec,
    one_mulVec]
  simp only [add_dotProduct, dotProduct_add, dotProduct_smul, smul_eq_mul, dotProduct_comm h δ]
  ring

/-- **The solution is the only minimum** of the damped sum, if the damped matrix is positive
definite. -/
theorem dampedCost_lt (hpos : (normalMatrix os + damping • 1).PosDef)
    (hδ : (normalMatrix os + damping • 1) *ᵥ δ = -pull os) (hx : x ≠ δ) :
    dampedCost os damping δ < dampedCost os damping x := by
  have hgrowth := hpos.dotProduct_mulVec_pos (sub_ne_zero.mpr hx)
  rw [star_trivial] at hgrowth
  rw [dampedCost_eq (x := x) hδ]
  exact lt_add_of_pos_right _ hgrowth

/-! ### Weights that are not negative -/

variable (hw : ∀ o ∈ os, 0 ≤ o.weight)

include hw

/-- No term of the quadratic form is negative. -/
theorem forall_term_nonneg (x : Fin n → ℝ) :
    ∀ s ∈ os.map fun o => o.weight * (o.row.get ⬝ᵥ x) ^ 2, 0 ≤ s := by
  intro s hs
  obtain ⟨o, ho, rfl⟩ := List.mem_map.mp hs
  exact mul_nonneg (hw o ho) (sq_nonneg _)

/-- **The normal matrix is positive semidefinite.** -/
theorem posSemidef_normalMatrix : (normalMatrix os).PosSemidef := by
  refine .of_dotProduct_mulVec_nonneg (isHermitian_iff_isSymm.mpr (isSymm_normalMatrix os))
    fun x => ?_
  rw [star_trivial, dotProduct_normalMatrix]
  exact List.sum_nonneg (forall_term_nonneg hw x)

/-- **The form vanishes in the directions that no residual of positive weight sees.** -/
theorem dotProduct_normalMatrix_eq_zero_iff : x ⬝ᵥ normalMatrix os *ᵥ x = 0 ↔
    ∀ o ∈ os, 0 < o.weight → o.row.get ⬝ᵥ x = 0 := by
  rw [dotProduct_normalMatrix]
  constructor
  · intro hsum o ho hpos
    have hterm := List.all_zero_of_le_zero_le_of_sum_eq_zero (forall_term_nonneg hw x) hsum
      (List.mem_map_of_mem ho)
    exact pow_eq_zero_iff two_ne_zero |>.mp ((mul_eq_zero.mp hterm).resolve_left hpos.ne')
  · intro hseen
    refine List.sum_eq_zero fun s hs => ?_
    obtain ⟨o, ho, rfl⟩ := List.mem_map.mp hs
    rcases (hw o ho).eq_or_lt with hzero | hpos
    · rw [← hzero, zero_mul]
    · rw [hseen o ho hpos, zero_pow two_ne_zero, mul_zero]

/-- Damping makes the matrix positive definite. -/
theorem posDef_damped (hdamping : 0 < damping) : (normalMatrix os + damping • 1).PosDef :=
  .posSemidef_add (posSemidef_normalMatrix hw) (PosDef.one.smul hdamping)

/-- Without damping it is positive definite unless a direction is not seen. -/
theorem not_posDef_normalMatrix_iff : ¬ (normalMatrix os).PosDef ↔
    ∃ x ≠ 0, ∀ o ∈ os, 0 < o.weight → o.row.get ⬝ᵥ x = 0 := by
  have hform : (normalMatrix os).PosDef ↔ ∀ x ≠ 0, x ⬝ᵥ normalMatrix os *ᵥ x ≠ 0 := by
    have hnonneg := (posSemidef_normalMatrix hw).dotProduct_mulVec_nonneg
    simp only [star_trivial] at hnonneg
    simp only [posDef_iff_dotProduct_mulVec, isHermitian_iff_isSymm, isSymm_normalMatrix, true_and,
      star_trivial, (hnonneg _).lt_iff_ne']
  rw [hform]
  push Not
  simp only [dotProduct_normalMatrix_eq_zero_iff hw]

end Cost

/-! ### Damped least squares -/

section Solve

variable {os : List (Observation ℝ n)} {damping : ℝ}

/-- The matrix that is gathered is symmetric. -/
theorem isSymm_entries_ofList (os : List (Observation ℝ n)) :
    (entries (NormalEquations.ofList os).matrix).IsSymm := by
  rw [NormalEquations.entries_ofList]
  exact isSymm_normalMatrix os

/-- **With damping there is a step.** -/
theorem exists_solve (hw : ∀ o ∈ os, 0 ≤ o.weight) (hdamping : 0 < damping) :
    ∃ δ, (NormalEquations.ofList os).solve damping = some δ := by
  refine Option.isSome_iff_exists.mp ?_
  rw [NormalEquations.isSome_solve_iff (isSymm_entries_ofList os), NormalEquations.entries_ofList]
  exact posDef_damped hw hdamping

/-- **The step solves the normal equations.** -/
theorem mulVec_of_solve {δ : Vector ℝ n}
    (h : (NormalEquations.ofList os).solve damping = some δ) :
    (normalMatrix os + damping • 1) *ᵥ δ.get = -pull os := by
  have hδ := NormalEquations.solve_eq_some (isSymm_entries_ofList os) h
  rwa [NormalEquations.entries_ofList, NormalEquations.gradient_ofList] at hδ

/-- Residuals that vanish do not pull. -/
theorem pull_eq_zero (h : ∀ o ∈ os, o.residual = 0) : pull os = 0 := by
  refine List.sum_eq_zero (List.forall_mem_map.mpr fun o ho => ?_)
  rw [h o ho, mul_zero, zero_smul]

/-- **Where all residuals vanish the damped step is zero.** -/
theorem solve_eq_zero (hw : ∀ o ∈ os, 0 ≤ o.weight) (hdamping : 0 < damping)
    (h : ∀ o ∈ os, o.residual = 0) :
    (NormalEquations.ofList os).solve damping = some (Vector.replicate n 0) := by
  obtain ⟨δ, hδ⟩ := exists_solve hw hdamping
  have hequations := mulVec_of_solve hδ
  rw [pull_eq_zero h, neg_zero] at hequations
  have hzero : δ.get = 0 :=
    eq_zero_of_mulVec_eq_zero (posDef_damped hw hdamping).det_pos.ne' hequations
  rw [hδ]
  refine congrArg some (Vector.ext fun i hi => ?_)
  rw [Vector.getElem_replicate]
  exact congrFun hzero ⟨i, hi⟩

/-- **Without damping there is none** exactly if a direction is not seen by any residual of
positive weight. -/
theorem solve_zero_eq_none_iff (hw : ∀ o ∈ os, 0 ≤ o.weight) :
    (NormalEquations.ofList os).solve 0 = none ↔
      ∃ v ≠ 0, ∀ o ∈ os, 0 < o.weight → o.row.get ⬝ᵥ v = 0 := by
  rw [← not_posDef_normalMatrix_iff hw, ← Option.not_isSome_iff_eq_none,
    NormalEquations.isSome_solve_iff (isSymm_entries_ofList os), NormalEquations.entries_ofList,
    zero_smul, add_zero]

/-- A step that damping makes worth taking is no worse than none without damping. -/
theorem cost_le_cost_zero (hdamping : 0 ≤ damping) {δ : Fin n → ℝ}
    (h : dampedCost os damping δ ≤ dampedCost os damping 0) : cost os δ ≤ cost os 0 := by
  have hlength : 0 ≤ δ ⬝ᵥ δ := dotProduct_self_star_nonneg δ
  calc cost os δ ≤ dampedCost os damping δ :=
        le_add_of_nonneg_right (mul_nonneg hdamping hlength)
    _ ≤ dampedCost os damping 0 := h
    _ = cost os 0 := by rw [dampedCost, dotProduct_zero, mul_zero, add_zero]

end Solve

end LidarOdometry
