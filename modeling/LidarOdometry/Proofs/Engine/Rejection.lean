import LidarOdometry.Proofs.Engine.Acceptance

/-!
# Rejected Scans Leave No Trace

A rejected scan changes neither the trajectory nor the map, but it is not without effect: it has
used the sampler, and the solver may remember it. With a pure solver neither can be
noticed later. Engines that differ in their sessions only are *alike*, and alike engines answer
all calls alike and stay alike; a rejected scan leaves an engine that is alike to the one before.

So a history of calls can be replayed without its rejected calls: a new engine gives each
of the others the summary it got, and reaches the same trajectory and the same map.

## Main definitions

* `Engine.Alike`: engines that differ in their sessions only.
* `Engine.Traceless`: nothing that can be asked of an engine has changed.

## Main results

* `Engine.Alike.call`: alike engines answer alike and stay alike.
* `Engine.Alike.replay`: a history replayed without its rejected calls.
* `Engine.rejections_leave_no_trace`: rejected scans leave no trace.
-/

namespace LidarOdometry

namespace Engine

variable {σ α : Type} {e e' : Engine σ α}

/-! ### Engines that differ in their sessions -/

/-- Engines are **alike** if only their sessions may differ. -/
def Alike (e e' : Engine σ α) : Prop :=
  ∃ session, e' = { e with session }

/-- Being alike is transitive. -/
theorem Alike.trans {e'' : Engine σ α} (h : Alike e e') (h' : Alike e' e'') : Alike e e'' := by
  obtain ⟨_, rfl⟩ := h
  obtain ⟨session, rfl⟩ := h'
  exact ⟨session, rfl⟩

/-- Being alike is symmetric. -/
theorem Alike.symm (h : Alike e e') : Alike e' e := by
  obtain ⟨_, rfl⟩ := h
  exact ⟨e.session, rfl⟩

variable [Scalar α] {c : ScanCall α}

/-- **Nothing that can be asked of an engine has changed.** -/
structure Traceless (before after : Engine σ α) : Prop where
  trajectory_eq : after.trajectory = before.trajectory
  map_eq : after.map = before.map
  mapSize_eq : after.map.size = before.map.size
  localMap_eq : after.map.points = before.map.points
  registered_eq : after.trajectory.length = before.trajectory.length
  lastPose_eq : after.lastPose = before.lastPose

/-- **What is asked of an engine** is not about its session. -/
theorem Alike.traceless (h : Alike e e') : Traceless e e' := by
  obtain ⟨_, rfl⟩ := h
  exact ⟨rfl, rfl, rfl, rfl, rfl, rfl⟩

/-- **Alike engines** with a pure solver answer alike and stay alike. -/
theorem Alike.call (h : Alike e e') (hpure : e.solver.IsPure) (c : ScanCall α) :
    (e.call c).1 = (e'.call c).1 ∧ Alike (e.call c).2 (e'.call c).2 := by
  obtain ⟨session, rfl⟩ := h
  obtain ⟨sampler, heq⟩ := e.call_eq c
  obtain ⟨sampler', heq'⟩ := ({ e with session } : Engine σ α).call_eq c
  have hscan : ({ e with session } : Engine σ α).scanFor c = e.scanFor c := by
    cases c <;> rfl
  have hregistrar : ({ e with session } : Engine σ α).registrar = e.registrar := rfl
  have hsummary := Registrar.oblivious_register (r := e.registrar) hpure (e.scanFor c)
    ⟨e.session.memory, sampler⟩ ⟨session.memory, sampler'⟩
  rw [hscan, hregistrar] at heq'
  rw [heq, heq', hsummary]
  refine ⟨rfl, ?_⟩
  dsimp only
  split
  · exact ⟨_, rfl⟩
  · exact ⟨_, rfl⟩

/-! ### Histories without their rejected calls -/

/-- The calls of a history whose scans were accepted. -/
def accepted (history : List (ScanCall α × Summary α)) : List (ScanCall α × Summary α) :=
  history.filter fun entry => entry.2.isSuccess

/-- **A history without its rejected calls**, replayed on an engine that is alike. The induction
is on the calls: an accepted call is made on both engines and keeps them alike, a rejected one
is made on the first only, which it leaves alike to what it was. -/
theorem Alike.replay (h : Alike e e') (hpure : e.solver.IsPure) (calls : List (ScanCall α)) :
    let kept := accepted (e.history calls)
    e'.history (kept.map Prod.fst) = kept ∧
      Alike (e.after calls) (e'.after (kept.map Prod.fst)) := by
  induction calls generalizing e e' with
  | nil => exact ⟨rfl, h⟩
  | cons c calls ih =>
      have hpure' : (e.call c).2.solver.IsPure := by
        rw [(e.call_settings c).2]
        exact hpure
      cases hsuccess : (e.call c).1.isSuccess with
      | true =>
          have hkept : accepted (e.history (c :: calls)) =
              (c, (e.call c).1) :: accepted ((e.call c).2.history calls) := by
            simp [history, accepted, hsuccess]
          obtain ⟨hsummary, halike⟩ := h.call hpure c
          obtain ⟨hhistory, hafter⟩ := ih halike hpure'
          rw [hkept]
          refine ⟨?_, hafter⟩
          simp only [List.map_cons, history]
          rw [hhistory, hsummary]
      | false =>
          have hkept : accepted (e.history (c :: calls)) =
              accepted ((e.call c).2.history calls) := by
            simp [history, accepted, hsuccess]
          -- the rejected call is left out, as the engine after it is alike to the one before
          have halike : Alike e (e.call c).2 := exists_of_rejected hsuccess
          rw [hkept]
          exact ih (halike.symm.trans h) hpure'

/-- **Rejected scans leave no trace.** In every history of a new engine with a pure solver, a
rejected call changes nothing that can be asked of the engine, and an accepted call appends one
motion to the trajectory. Another new engine to which the accepted calls alone are made
returns the same summaries and reaches the same trajectory and the same map. -/
theorem rejections_leave_no_trace {options : OdometryOptions α} {solver : Solver σ α}
    {memory memory' : σ} {fresh again : Engine σ α} (hpure : solver.IsPure)
    (hfresh : ofOptions options solver memory = .ok fresh)
    (hagain : ofOptions options solver memory' = .ok again) (calls : List (ScanCall α)) :
    (∀ earlier c later, calls = earlier ++ c :: later →
      let before := fresh.after earlier
      let summary := (before.call c).1
      let next := (before.call c).2
      (summary.isSuccess = false → before.Traceless next) ∧
        (summary.isSuccess = true → next.trajectory = before.trajectory ++ [summary.motion])) ∧
    let kept := accepted (fresh.history calls)
    again.history (kept.map Prod.fst) = kept ∧
      (again.after (kept.map Prod.fst)).trajectory = (fresh.after calls).trajectory ∧
      (again.after (kept.map Prod.fst)).map = (fresh.after calls).map := by
  have halike : Alike fresh again := by
    rw [eq_of_ofOptions hfresh, eq_of_ofOptions hagain]
    exact ⟨_, rfl⟩
  have hsolver : fresh.solver = solver := by rw [eq_of_ofOptions hfresh]
  obtain ⟨hhistory, hafter⟩ := halike.replay (hsolver ▸ hpure) calls
  refine ⟨fun earlier c later _ => ⟨fun h => ?_, trajectory_of_accepted⟩, hhistory, ?_, ?_⟩
  · have hrejected : Alike (fresh.after earlier) _ := exists_of_rejected h
    exact hrejected.traceless
  · exact hafter.traceless.trajectory_eq
  · exact hafter.traceless.map_eq

/-- What is left of three calls whose second is rejected. -/
theorem map_fst_accepted_history {c c' c'' : ScanCall α} (h : (e.call c).1.isSuccess = true)
    (h' : ((e.after [c]).call c').1.isSuccess = false)
    (h'' : ((e.after [c, c']).call c'').1.isSuccess = true) :
    (accepted (e.history [c, c', c''])).map Prod.fst = [c, c''] := by
  change ((e.call c).2.call c').1.isSuccess = false at h'
  change (((e.call c).2.call c').2.call c'').1.isSuccess = true at h''
  simp [accepted, history, h, h', h'']

/-- Of three scans the second has a single point and is rejected after ten attempts. It leaves no
trace: the others alone get the same summaries, and lead to the same trajectory of two motions and
to the same map. -/
theorem rejections_leave_no_trace_few_keypoints : ∃ fresh : Engine Unit Float,
    ofOptions .slowOutdoor (believing 2) () = .ok fresh ∧
      (fresh.after [twoPoints]).Traceless (fresh.after [twoPoints, singlePoint]) ∧
      fresh.history [twoPoints, twoPointsAhead] =
        accepted (fresh.history [twoPoints, singlePoint, twoPointsAhead]) ∧
      (fresh.after [twoPoints, singlePoint, twoPointsAhead]).trajectory =
        [fresh.guessFor twoPoints, stepAhead] ∧
      (fresh.after [twoPoints, twoPointsAhead]).trajectory =
        (fresh.after [twoPoints, singlePoint, twoPointsAhead]).trajectory ∧
      (fresh.after [twoPoints, twoPointsAhead]).map =
        (fresh.after [twoPoints, singlePoint, twoPointsAhead]).map := by
  obtain ⟨fresh, hfresh⟩ : ∃ fresh : Engine Unit Float,
      ofOptions .slowOutdoor (believing 2) () = .ok fresh := ⟨_, rfl⟩
  obtain ⟨hfirst, hrejected, -, haccepted, hgrown⟩ := calls_believing_slowOutdoor hfresh
  obtain ⟨hcalls, hhistory, htrajectory, hmap⟩ :=
    rejections_leave_no_trace (Solver.isPure_pure _) hfresh hfresh
      [twoPoints, singlePoint, twoPointsAhead]
  have hbefore : fresh.after [twoPoints, singlePoint] =
      ((fresh.after [twoPoints]).call singlePoint).2 := fresh.after_concat [twoPoints] _
  have htraceless : (fresh.after [twoPoints]).Traceless (fresh.after [twoPoints, singlePoint]) :=
    hbefore ▸ (hcalls [twoPoints] singlePoint [twoPointsAhead] rfl).1 hrejected
  rw [map_fst_accepted_history hfirst hrejected haccepted] at hhistory htrajectory hmap
  exact ⟨fresh, hfresh, htraceless, hhistory, hgrown, htrajectory, hmap⟩

end Engine

end LidarOdometry
