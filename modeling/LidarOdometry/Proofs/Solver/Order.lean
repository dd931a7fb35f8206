import LidarOdometry.Proofs.Solver.Course

/-!
# The Order of the Keypoints

The keypoints of a scan come in some order, and their residuals may be gathered in any other, as
happens when several keypoints are matched at once. Over the reals neither matters. A round depends
on its residuals only through their number and through the normal equations, which are sums; so by
induction on the rounds two iterations whose residuals agree up to their order run alike: in the
steps, in whether they stop, and in how they fail. The keypoints are placed one by one, so those
that are returned come in the order in which they were given.

## Main definitions

* `arranged`: a list in another order.
* `PointToPlane.iterateFrom`: the iteration, with residuals gathered anew in every round.

## Main results

* `PointToPlane.step_perm`: a step does not depend on the order of its residuals.
* `PointToPlane.iterateFrom_perm`: nor does the iteration.
* `PointToPlane.order_does_not_matter`: nor does the solver on the order of the keypoints.
-/

namespace LidarOdometry

/-! ### Lists in another order -/

section Arranged

variable {β γ : Type} {n : ℕ}

/-- **A list in another order**: in place `i` is the element that was in place `σ i`. -/
def arranged (σ : Equiv.Perm (Fin n)) (l : List β) : List β :=
  (List.ofFn σ).filterMap fun i => l[i.val]?

/-- Arranging commutes with mapping. -/
theorem arranged_map (σ : Equiv.Perm (Fin n)) (f : β → γ) (l : List β) :
    arranged σ (l.map f) = (arranged σ l).map f := by
  simp only [arranged, List.map_filterMap, List.getElem?_map]

/-- Every element has a place in the other order. -/
theorem arranged_eq_ofFn (l : List β) (σ : Equiv.Perm (Fin l.length)) :
    arranged σ l = List.ofFn fun i => l.get (σ i) := by
  rw [arranged, List.ofFn_eq_map, List.ofFn_eq_map, List.filterMap_map]
  exact List.filterMap_eq_map_iff_forall_eq_some.mpr fun i _ => List.getElem?_eq_getElem (σ i).isLt

/-- An arrangement is a permutation. -/
theorem arranged_perm (l : List β) (σ : Equiv.Perm (Fin l.length)) : (arranged σ l).Perm l := by
  have hperm := Equiv.Perm.ofFn_comp_perm σ l.get
  rw [List.ofFn_get] at hperm
  rw [arranged_eq_ofFn]
  exact hperm

end Arranged

namespace PointToPlane

/-! ### Iterations from gathered residuals -/

section Gathered

variable {α : Type} [Scalar α]

/-- **The iteration from gathered residuals**: those of the round with `n` rounds left are
`gathered n`, under the motion reached. -/
def iterateFrom (gathered : ℕ → ScanMotion α → List (Residual α))
    (previous : Option (ScanMotion α)) (options : SolverOptions α) :
    (n : ℕ) → (motion : ScanMotion α) → (count : ℕ) → Except SolverError (ScanMotion α × ℕ)
  | 0, motion, count => .ok (motion, count)
  | n + 1, motion, _ =>
      let rs := gathered n motion
      if rs.length < options.minResiduals then
        .error (.tooFewResiduals rs.length options.minResiduals)
      else step motion rs previous options >>= fun (moved, size) =>
        if size.isSmall options then .ok (moved, rs.length)
        else iterateFrom gathered previous options n moved rs.length

/-- **The solver's iteration** gathers the residuals in the order of the keypoints. -/
theorem iterateOn_eq_iterateFrom [EigenSolver α] (problem : Problem α) (options : SolverOptions α)
    (n : ℕ) (start : ScanMotion α) (count : ℕ) :
    iterateOn problem options n start count =
      iterateFrom (fun _ => problem.found options) (problem.tie options) options n start count := by
  induction n generalizing start count with
  | zero => rfl
  | succ n ih => simp only [iterate_succ_eq, iterateFrom, ih]

end Gathered

/-! ### The order of the residuals -/

section Perm

variable {motion : ScanMotion ℝ} {rs rs' : List (Residual ℝ)} {previous : Option (ScanMotion ℝ)}
  {options : SolverOptions ℝ}

/-- **The order of the residuals does not matter** to the equations. -/
theorem rigidEquations_perm (h : rs.Perm rs') (pivot : Vec3 ℝ) :
    rigidEquations pivot rs = rigidEquations pivot rs' := by
  rw [rigidEquations_eq, rigidEquations_eq]
  exact NormalEquations.ofList_perm (h.map _)

/-- The ties to the previous scan depend on the number of residuals only. -/
theorem continuousEquations_perm (h : rs.Perm rs') :
    continuousEquations motion rs previous options =
      continuousEquations motion rs' previous options := by
  rw [continuousEquations_eq, continuousEquations_eq, continuousObservations,
    continuousObservations, h.length_eq]
  exact NormalEquations.ofList_perm ((h.map _).append_right _)

/-- **A step does not depend on the order of its residuals.** -/
theorem step_perm (h : rs.Perm rs') :
    step motion rs previous options = step motion rs' previous options := by
  rw [step, step]
  cases options.metric with
  | rigid => simp only [stepRigid_eq, rigidEquations_perm h]
  | continuous => simp only [stepContinuous_eq, continuousEquations_perm h]

/-- **Nor does the iteration**, in whichever order the residuals are gathered in each round. -/
theorem iterateFrom_perm {gathered gathered' : ℕ → ScanMotion ℝ → List (Residual ℝ)}
    (h : ∀ n motion, (gathered n motion).Perm (gathered' n motion)) (n : ℕ)
    (motion : ScanMotion ℝ) (count : ℕ) :
    iterateFrom gathered previous options n motion count =
      iterateFrom gathered' previous options n motion count := by
  -- both runs have reached the same motion, so that they make the same step from it
  induction n generalizing motion count with
  | zero => rfl
  | succ n ih => simp only [iterateFrom, (h n motion).length_eq, step_perm (h n motion), ih]

end Perm

/-! ### The order of the keypoints -/

section Keypoints

variable [EigenSolver ℝ]

/-- Keypoints in another order have the same residuals, in another order. -/
theorem found_perm (problem : Problem ℝ) (options : SolverOptions ℝ)
    {keypoints : List (ScanPoint ℝ)} (h : keypoints.Perm problem.keypoints)
    (motion : ScanMotion ℝ) :
    (({ problem with keypoints } : Problem ℝ).found options motion).Perm
      (problem.found options motion) := by
  rw [Problem.found, Problem.found, residuals_eq, residuals_eq]
  exact (h.map _).filterMap _

/-- **The iteration does not depend on the order of the keypoints.** -/
theorem iterateOn_perm (problem : Problem ℝ) (options : SolverOptions ℝ)
    {keypoints : List (ScanPoint ℝ)} (h : keypoints.Perm problem.keypoints) (n : ℕ)
    (start : ScanMotion ℝ) (count : ℕ) :
    iterateOn { problem with keypoints } options n start count =
      iterateOn problem options n start count := by
  rw [iterateOn_eq_iterateFrom, iterateOn_eq_iterateFrom]
  exact iterateFrom_perm (fun _ motion => found_perm problem options h motion) n start count

/-- **Order does not matter.** On keypoints in another order the solver fails with the same error,
counts included, or answers with the same motion and number of residuals, and with the keypoints
placed alike, in that other order. Nor does it matter in which order residuals are gathered, be it
another one in every round. -/
theorem order_does_not_matter (problem : Problem ℝ) (options : SolverOptions ℝ) :
    (∀ σ : Equiv.Perm (Fin problem.keypoints.length),
      (register { problem with keypoints := arranged σ problem.keypoints } options ()).1 =
        (register problem options ()).1.map fun registered =>
          { registered with keypoints := arranged σ registered.keypoints }) ∧
    ∀ gathered : ℕ → ScanMotion ℝ → List (Residual ℝ),
      (∀ n motion, (gathered n motion).Perm (problem.found options motion)) →
      (register problem options ()).1 =
        (iterateFrom gathered (problem.tie options) options options.iterations problem.guess 0).map
          fun (motion, count) =>
            ⟨motion, motion.place options.compensate problem.keypoints, count⟩ := by
  refine ⟨fun σ => ?_, fun gathered hgathered => ?_⟩
  · rw [register_eq, register_eq, iterateOn_perm problem options (arranged_perm _ σ)]
    cases iterateOn problem options options.iterations problem.guess 0 with
    | error e => rfl
    | ok result =>
        obtain ⟨motion, count⟩ := result
        simp only [Except.map, ScanMotion.place, arranged_map]
  · rw [register_eq, iterateOn_eq_iterateFrom, iterateFrom_perm hgathered]

end Keypoints

/-- Two keypoints over four points of the floor: the later one is given first, and then residuals
are gathered from the last keypoint to the first. -/
theorem order_does_not_matter_two_keypoints :
    letI : EigenSolver ℝ := ⟨Mat3.jacobi⟩
    let map := ((VoxelMap.empty (8 : ℝ) 20).insert
      [⟨6, 4, 0⟩, ⟨2, 4, 0⟩, ⟨4, 5, 0⟩, ⟨4, 3, 0⟩] ⟨20, 0⟩).2
    let early : ScanPoint ℝ := .sampled ⟨3, 4, 0⟩ 0 0
    let late : ScanPoint ℝ := .sampled ⟨5, 4, 1 / 5⟩ 1 1
    let problem : Problem ℝ := ⟨map, [early, late], .identity, some .identity, 30⟩
    let options : SolverOptions ℝ :=
      { SolverOptions.standard with minNeighbors := 4, minResiduals := 1 }
    (register { problem with keypoints := [late, early] } options ()).1 =
        (register problem options ()).1.map (fun registered => { registered with
          keypoints := arranged (Equiv.swap (0 : Fin 2) 1) registered.keypoints }) ∧
      (register problem options ()).1 =
        (iterateFrom (fun _ motion => (problem.found options motion).reverse) (some .identity)
          options 10 .identity 0).map fun (motion, count) =>
            ⟨motion, motion.place true [early, late], count⟩ := by
  let _ : EigenSolver ℝ := ⟨Mat3.jacobi⟩
  intro map early late problem options
  obtain ⟨harranged, hgathered⟩ := order_does_not_matter problem options
  have hswap : arranged (Equiv.swap (0 : Fin 2) 1) problem.keypoints = [late, early] := rfl
  refine ⟨?_, hgathered _ fun n motion => List.reverse_perm _⟩
  have hswapped := harranged (Equiv.swap (0 : Fin 2) 1)
  rwa [hswap] at hswapped

end PointToPlane

end LidarOdometry
