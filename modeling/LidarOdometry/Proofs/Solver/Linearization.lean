import LidarOdometry.Proofs.Geometry.RotationVector
import LidarOdometry.Proofs.Solver.Steps

/-!
# The Linear Model of a Step

The equations of a step treat the distance of a point from its plane as a linear function of the
unknowns. Which function that has to be is a matter of geometry: to first order a rotation vector
about a pivot displaces a point by its vector product with the lever from the pivot, and a shift
displaces it by itself. Here the rows of the equations are compared with that displacement, in the
order of the unknowns in which a step reads its solution.

The ties to the previous scan are linear in the unknowns as they stand: an end that turns about its
own place is displaced by its shift alone.

## Main definitions

* `Update.displacement`: the displacement of a point by an update, to first order.
* `Update.about`: one motion of the world, about another pivot.

## Main results

* `Update.hasDerivAt_move`: what an update does to points, to first order.
* `after_rigidObservation`, `after_continuousObservation`: the rows of points.
* `after_continuousObservation_about`: the two kinds of rows agree on motions of the world.
* `locationGap_moveContinuous`, `velocityGap_moveContinuous`: the rows of the ties.
* `rows_model_updates`: the rows are the linear model of the updates.
-/

namespace LidarOdometry

namespace PointToPlane

open Matrix

/-! ### Updates to first order -/

namespace Update

/-- **The displacement of a point** by an update about a pivot, to first order. -/
noncomputable def displacement (u : Update ℝ) (pivot x : Vec3 ℝ) : Vec3 ℝ :=
  u.turn.cross (x - pivot) + u.shift

/-- A multiple of an update. -/
noncomputable def scale (u : Update ℝ) (s : ℝ) : Update ℝ :=
  ⟨u.turn.scale s, u.shift.scale s⟩

/-- **The same motion of the world** as that of an update about `pivot`, to first order, as an
update about `pivot'`. -/
noncomputable def about (u : Update ℝ) (pivot pivot' : Vec3 ℝ) : Update ℝ :=
  ⟨u.turn, u.shift + u.turn.cross (pivot' - pivot)⟩

variable (u : Update ℝ) (pivot : Vec3 ℝ) (pose : Pose ℝ)

/-- An update displaces a point alike about any pivot. -/
theorem displacement_about (pivot' x : Vec3 ℝ) :
    (u.about pivot pivot').displacement pivot' x = u.displacement pivot x := by
  refine Vec3.ext ?_ ?_ ?_ <;>
    simp only [displacement, about, Vec3.cross, Vec3.add_x, Vec3.add_y, Vec3.add_z, Vec3.sub_x,
      Vec3.sub_y, Vec3.sub_z] <;> ring

/-- Where an update moves the points of a pose. -/
theorem move_apply (v : Vec3 ℝ) : (u.move pivot pose).apply v =
    (Mat3.ofRotationVector u.turn).mulVec (pose.apply v - pivot) + pivot + u.shift := by
  simp only [move, turnAbout, Pose.apply, Mat3.mul_mulVec]
  refine Vec3.ext ?_ ?_ ?_ <;>
    simp only [Mat3.mulVec, Vec3.dot, Vec3.add_x, Vec3.add_y, Vec3.add_z, Vec3.sub_x, Vec3.sub_y,
      Vec3.sub_z] <;> ring

/-- **To first order** the distance of a point from a plane changes, along the multiples of an
update, by the displacement across the plane. -/
theorem hasDerivAt_move (normal center v : Vec3 ℝ) :
    HasDerivAt (fun s : ℝ => normal.dot (((u.scale s).move pivot pose).apply v - center))
      (normal.dot (u.displacement pivot (pose.apply v))) 0 := by
  have hdistance : (fun s : ℝ => normal.dot (((u.scale s).move pivot pose).apply v - center)) =
      fun s : ℝ =>
        normal.dot ((Mat3.ofRotationVector (u.turn.scale s)).mulVec (pose.apply v - pivot)) +
          normal.dot (pivot - center) + s * normal.dot u.shift := by
    funext s
    rw [move_apply, Vec3.dot_sub, Vec3.dot_add, Vec3.dot_add, Vec3.dot_sub]
    simp only [scale, Vec3.dot_scale]
    ring
  rw [hdistance, displacement, Vec3.dot_add]
  exact ((Mat3.hasDerivAt_ofRotationVector u.turn _ normal).add_const _).add
    (hasDerivAt_mul_const _)

/-- **An end that turns about its own place** is displaced by its shift. -/
theorem position_move_self : (u.move pose.position pose).position = pose.position + u.shift := by
  refine Vec3.ext ?_ ?_ ?_ <;> simp [move, turnAbout, Mat3.mulVec, Vec3.dot]

end Update

/-! ### The rows of points -/

section Points

variable {motion : ScanMotion ℝ} {r : Residual ℝ} {center : Vec3 ℝ}

/-- **The row of a rigid step** is the displacement of the point along the normal. -/
theorem rigidRow_dotProduct (pivot : Vec3 ℝ) (r : Residual ℝ) (δ : Vector ℝ 6) :
    (rigidRow pivot r).get ⬝ᵥ δ.get =
      r.normal.dot ((rigidUpdate δ).displacement pivot r.world) := by
  simp [dotProduct, Fin.sum_univ_succ, Vector.get_eq_getElem, rigidRow, rigidUpdate,
    unknowns, Update.displacement, Vec3.dot, Vec3.cross]
  ring

/-- **The row of a continuous step** blends the displacements by both ends. -/
theorem continuousRow_dotProduct (startPivot finishPivot : Vec3 ℝ) (r : Residual ℝ)
    (δ : Vector ℝ 12) : (continuousRow startPivot finishPivot r).get ⬝ᵥ δ.get =
      (1 - r.phase) * r.normal.dot ((startUpdate δ).displacement startPivot r.world) +
        r.phase * r.normal.dot ((finishUpdate δ).displacement finishPivot r.world) := by
  simp [dotProduct, Fin.sum_univ_succ, Vector.get_eq_getElem, continuousRow, startUpdate,
    finishUpdate, unknowns, Update.displacement, Vec3.dot, Vec3.cross, Vec3.scale]
  ring

/-- A displaced point is as far from a plane as it was, and as it is displaced across it. -/
theorem dot_add_sub (normal x d center : Vec3 ℝ) :
    normal.dot (x + d - center) = normal.dot (x - center) + normal.dot d := by
  rw [Vec3.dot_sub, Vec3.dot_add, Vec3.dot_sub]
  ring

/-- **The row of a point in a rigid step** gives the distance of the displaced point. -/
theorem after_rigidObservation (hr : r.distance = r.normal.dot (r.world - center))
    (pivot : Vec3 ℝ) (δ : Vector ℝ 6) : (rigidObservation pivot r).after δ.get =
      r.normal.dot (r.world + (rigidUpdate δ).displacement pivot r.world - center) := by
  rw [dot_add_sub, ← hr, ← rigidRow_dotProduct]
  rfl

/-- **The row of a point in a continuous step** gives the mean of the distances of the point
displaced with either end, by its phase. -/
theorem after_continuousObservation (hr : r.distance = r.normal.dot (r.world - center))
    (δ : Vector ℝ 12) : (continuousObservation motion r).after δ.get =
      (1 - r.phase) * r.normal.dot (r.world +
          (startUpdate δ).displacement motion.start.position r.world - center) +
        r.phase * r.normal.dot (r.world +
          (finishUpdate δ).displacement motion.finish.position r.world - center) := by
  have hafter : (continuousObservation motion r).after δ.get = r.distance +
      (continuousRow motion.start.position motion.finish.position r).get ⬝ᵥ δ.get := rfl
  rw [hafter, dot_add_sub, dot_add_sub, ← hr, continuousRow_dotProduct]
  ring

/-- **The two kinds of rows agree** where the updates of both ends are one motion of the world. -/
theorem after_continuousObservation_about {δ : Vector ℝ 12} {δ' : Vector ℝ 6}
    (hstart : startUpdate δ =
      (rigidUpdate δ').about motion.finish.position motion.start.position)
    (hfinish : finishUpdate δ = rigidUpdate δ') : (continuousObservation motion r).after δ.get =
      (rigidObservation motion.finish.position r).after δ'.get := by
  simp only [Observation.after, continuousObservation, rigidObservation]
  rw [continuousRow_dotProduct, rigidRow_dotProduct, hstart, hfinish, Update.displacement_about]
  ring

end Points

/-! ### The rows of the ties -/

section Ties

variable (motion previous : ScanMotion ℝ) (δ : Vector ℝ 12) (axis : Fin 3)

/-- The row of the location is the shift of the start. -/
theorem locationRow_dotProduct : (locationRow axis).get ⬝ᵥ δ.get =
    (startUpdate δ).shift.coordinates axis := by
  fin_cases axis <;>
    simp [dotProduct, Fin.sum_univ_succ, Vector.get_eq_getElem, locationRow, startUpdate,
      unknowns, Vec3.coordinates]

/-- The row of the velocity is the difference between the shifts of both ends. -/
theorem velocityRow_dotProduct : (velocityRow axis).get ⬝ᵥ δ.get =
    (finishUpdate δ).shift.coordinates axis - (startUpdate δ).shift.coordinates axis := by
  fin_cases axis <;>
    simp [dotProduct, Fin.sum_univ_succ, Vector.get_eq_getElem, velocityRow, startUpdate,
      finishUpdate, unknowns, Vec3.coordinates] <;> ring

/-- **The row of a gap between the scans** gives the gap after the step. -/
theorem locationGap_moveContinuous :
    (locationGap (moveContinuous motion δ) previous).coordinates axis =
      (locationGap motion previous).coordinates axis + (locationRow axis).get ⬝ᵥ δ.get := by
  rw [locationRow_dotProduct]
  simp only [locationGap, moveContinuous, Update.position_move_self, Vec3.coordinates_sub,
    Vec3.coordinates_add, Pi.sub_apply, Pi.add_apply]
  ring

/-- **The row of a change of displacement** gives the change after the step. -/
theorem velocityGap_moveContinuous :
    (velocityGap (moveContinuous motion δ) previous).coordinates axis =
      (velocityGap motion previous).coordinates axis + (velocityRow axis).get ⬝ᵥ δ.get := by
  rw [velocityRow_dotProduct]
  simp only [velocityGap, moveContinuous, Update.position_move_self, Vec3.coordinates_sub,
    Vec3.coordinates_add, Pi.sub_apply, Pi.add_apply]
  ring

/-- **The ties are exact**: their residuals after a step are those of the moved scan. -/
theorem after_continuityObservations (locationWeight velocityWeight : ℝ) :
    (continuityObservations motion previous locationWeight velocityWeight).map
        (fun o => o.after δ.get) =
      (continuityObservations (moveContinuous motion δ) previous locationWeight
        velocityWeight).map Observation.residual := by
  simp only [continuityObservations, List.map_flatMap, List.map_cons, List.map_nil,
    locationGap_moveContinuous, velocityGap_moveContinuous, Observation.after]

end Ties

/-! ### The linear model -/

/-- **The rows are the linear model of the updates.** The equations of a step are those of the rows
below, and the step moves the poses by the update read from the solution in the same order of the
unknowns; to first order such an update displaces points as `Update.displacement` says. The row of
a point in a rigid step gives its distance from the plane once it is displaced about the finish; in
a continuous step, the mean by phase of the distances once it is displaced about either end. Where
both ends follow one motion of the world the two rows agree. The rows of the ties give, on every
axis, the gaps after the step. -/
theorem rows_model_updates :
    (∀ (motion : ScanMotion ℝ) (rs : List (Residual ℝ)) (finishOnly : Bool) (damping : ℝ),
      stepRigid motion rs finishOnly damping =
        (finiteStep (.ofList (rs.map (rigidObservation motion.finish.position))) damping).map
          fun δ => (moveRigid motion finishOnly δ, (rigidUpdate δ).size)) ∧
    (∀ (motion : ScanMotion ℝ) (rs : List (Residual ℝ)) (previous : Option (ScanMotion ℝ))
      (options : SolverOptions ℝ), stepContinuous motion rs previous options =
        (finiteStep (.ofList (continuousObservations motion rs previous options))
          options.damping).map fun δ => (moveContinuous motion δ, continuousSize δ)) ∧
    (∀ (u : Update ℝ) (pivot : Vec3 ℝ) (pose : Pose ℝ) (normal center v : Vec3 ℝ),
      HasDerivAt (fun s : ℝ => normal.dot (((u.scale s).move pivot pose).apply v - center))
        (normal.dot (u.displacement pivot (pose.apply v))) 0) ∧
    (∀ (motion : ScanMotion ℝ) (r : Residual ℝ) (center : Vec3 ℝ),
      r.distance = r.normal.dot (r.world - center) →
      (∀ δ, (rigidObservation motion.finish.position r).after δ.get = r.normal.dot
        (r.world + (rigidUpdate δ).displacement motion.finish.position r.world - center)) ∧
      ∀ δ, (continuousObservation motion r).after δ.get =
        (1 - r.phase) * r.normal.dot (r.world +
            (startUpdate δ).displacement motion.start.position r.world - center) +
          r.phase * r.normal.dot (r.world +
            (finishUpdate δ).displacement motion.finish.position r.world - center)) ∧
    (∀ (motion : ScanMotion ℝ) (r : Residual ℝ) (w t : Vec3 ℝ) (δ : Vector ℝ 12)
      (δ' : Vector ℝ 6), rigidUpdate δ' = ⟨w, t⟩ → finishUpdate δ = ⟨w, t⟩ →
      startUpdate δ = ⟨w, t + w.cross (motion.start.position - motion.finish.position)⟩ →
      (continuousObservation motion r).after δ.get =
        (rigidObservation motion.finish.position r).after δ'.get) ∧
    ∀ (motion previous : ScanMotion ℝ) (δ : Vector ℝ 12),
      (∀ axis, (locationGap (moveContinuous motion δ) previous).coordinates axis =
        (locationGap motion previous).coordinates axis + (locationRow axis).get ⬝ᵥ δ.get) ∧
      (∀ axis, (velocityGap (moveContinuous motion δ) previous).coordinates axis =
        (velocityGap motion previous).coordinates axis + (velocityRow axis).get ⬝ᵥ δ.get) ∧
      ∀ locationWeight velocityWeight,
        (continuityObservations motion previous locationWeight velocityWeight).map
            (fun o => o.after δ.get) =
          (continuityObservations (moveContinuous motion δ) previous locationWeight
            velocityWeight).map Observation.residual := by
  refine ⟨fun motion rs finishOnly damping => ?_, fun motion rs previous options => ?_,
    Update.hasDerivAt_move, fun motion r center hr => ⟨after_rigidObservation hr _,
      after_continuousObservation hr⟩, fun motion r w t δ δ' hrigid hfinish hstart => ?_,
    fun motion previous δ => ⟨locationGap_moveContinuous motion previous δ,
      velocityGap_moveContinuous motion previous δ, after_continuityObservations motion previous δ⟩⟩
  · rw [stepRigid_eq, rigidEquations_eq]
  · rw [stepContinuous_eq, continuousEquations_eq]
  · refine after_continuousObservation_about ?_ (hfinish.trans hrigid.symm)
    rw [hstart, hrigid]
    rfl

/-- A sensor has moved by two along the first axis. When both ends follow a turn about the second
axis through the start, a quarter of the way along, a point above the plane of the first two axes
comes nearer to it by one, in either kind of row. -/
theorem rows_model_updates_turn :
    let motion : ScanMotion ℝ := ⟨⟨.identity, 0⟩, ⟨.identity, ⟨2, 0, 0⟩⟩, 0, 1⟩
    let r : Residual ℝ := ⟨⟨1, 3, 5⟩, ⟨0, 0, 1⟩, 5, 1, 0.25⟩
    let δ' : Vector ℝ 6 := #v[0, 1, 0, 0, 0, -2]
    let δ : Vector ℝ 12 := #v[0, 1, 0, 0, 0, 0, 0, 1, 0, 0, 0, -2]
    (rigidObservation motion.finish.position r).after δ'.get = 4 ∧
      (continuousObservation motion r).after δ.get = 4 := by
  intro motion r δ' δ
  obtain ⟨-, -, -, hpoint, hworld, -⟩ := rows_model_updates
  have hr : r.distance = r.normal.dot (r.world - 0) := by
    simp [r, Vec3.dot]
  have hrigid : (rigidObservation motion.finish.position r).after δ'.get = 4 := by
    rw [(hpoint motion r 0 hr).1 δ']
    norm_num [motion, r, δ', rigidUpdate, unknowns, Update.displacement, Vec3.dot, Vec3.cross]
  refine ⟨hrigid, (hworld motion r ⟨0, 1, 0⟩ ⟨0, 0, -2⟩ δ δ' rfl rfl ?_).trans hrigid⟩
  simp [motion, δ, startUpdate, unknowns, Vec3.cross, Vec3.ext_iff]

end PointToPlane

end LidarOdometry
