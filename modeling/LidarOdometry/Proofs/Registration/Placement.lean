import LidarOdometry.Proofs.Registration.Session
import Mathlib.Data.List.Forall2

/-!
# Where Registered Points Lie

Registration ends in many ways, and in each of them the thinned scan is placed by the motion that
the summary reports: the guess, an accepted motion, a rejected one, or the last that the solver
proposed before it failed. So the points of a summary are known from its motion, whatever the
solver did.

Placing changes nothing of a point but its map coordinates. A scan is thinned by its raw
coordinates, and so thinning and placing can be done in either order.

## Main definitions

* `SessionM.Yields`: all results of a computation have a property.
* `ScanPoint.IsMoved`: points that differ in their map coordinates only.

## Main results

* `Registrar.yields_corrected`: registration places the points by the motion that it reports.
* `Sampler.thin_place`: thinning and placing in either order.
-/

namespace LidarOdometry

variable {σ α β γ : Type}

/-! ### Results of computations -/

namespace SessionM

/-- A computation **yields** a property if its result has it in every session. -/
def Yields (P : β → Prop) (c : SessionM σ β) : Prop :=
  ∀ session : Session σ, P (c session).1

variable {P : γ → Prop}

/-- A given result that has the property. -/
theorem Yields.pure {c : γ} (h : P c) : Yields (σ := σ) P (Pure.pure c) :=
  fun _ => h

/-- The computation that comes last decides. -/
theorem Yields.bind {c : SessionM σ β} {f : β → SessionM σ γ} (hf : ∀ b, Yields P (f b)) :
    Yields P (c >>= f) :=
  fun session => hf (c session).1 (c session).2

end SessionM

/-! ### Placing and thinning -/

namespace ScanPoint

/-- **Points that differ in their map coordinates only.** -/
def IsMoved (p q : ScanPoint α) : Prop :=
  q = { p with world := q.world }

/-- Such points have the same raw coordinates. -/
theorem map_raw_of_isMoved {points moved : List (ScanPoint α)}
    (h : List.Forall₂ IsMoved points moved) : moved.map raw = points.map raw := by
  induction h with
  | nil => rfl
  | cons hmoved _ ih =>
      rw [List.map_cons, List.map_cons, ih, hmoved]

end ScanPoint

section Placing

variable [Scalar α] {m : ScanMotion α} {compensate : Bool} {points : List (ScanPoint α)} {size : α}

/-- Placed points differ from the points in their map coordinates only. -/
theorem ScanMotion.forall₂_isMoved_place (m : ScanMotion α) (compensate : Bool)
    (points : List (ScanPoint α)) :
    List.Forall₂ ScanPoint.IsMoved points (m.place compensate points) := by
  rw [place, List.forall₂_map_right_iff, List.forall₂_same]
  exact fun p _ => rfl

/-- Placed points lie where the motion locates them. -/
theorem ScanMotion.world_of_mem_place {q : ScanPoint α} (h : q ∈ m.place compensate points) :
    q.world = m.locate compensate q := by
  obtain ⟨p, -, rfl⟩ := List.mem_map.mp h
  rfl

/-- Changes that leave the raw coordinates alone can be made before thinning or after it. -/
theorem VoxelGrid.firsts_map (f : ScanPoint α → ScanPoint α) (hraw : ∀ p, (f p).raw = p.raw)
    (grid : VoxelGrid) (points : List (ScanPoint α)) :
    (VoxelGrid.firsts size grid (points.map f)).1 =
      (VoxelGrid.firsts size grid points).1.map f := by
  induction points generalizing grid with
  | nil => rfl
  | cons p ps ih =>
      rw [List.map_cons, firsts_cons, firsts_cons, hraw, ih, apply_ite (List.map f), List.map_cons]

/-- **Thinning and placing in either order.** -/
theorem Sampler.thin_place (size : α) (m : ScanMotion α) (compensate : Bool)
    (points : List (ScanPoint α)) :
    Sampler.thin size (m.place compensate points) = m.place compensate (Sampler.thin size points) :=
  VoxelGrid.firsts_map (fun p => { p with world := m.locate compensate p }) (fun _ => rfl) ∅ points

/-- A single point is not thinned. -/
theorem Sampler.thin_singleton (size : α) (p : ScanPoint α) : Sampler.thin size [p] = [p] := by
  rw [thin, VoxelGrid.firsts_cons, Std.HashSet.contains_empty]
  rfl

/-- What a sampler draws does not depend on what it was used for before. -/
theorem Sampler.sample_eq_thin (s : Sampler) (size : α) (points : List (ScanPoint α)) :
    (s.sample size points).1 = Sampler.thin size points := rfl

end Placing

/-! ### Registration -/

namespace Registrar

open SessionM

variable [Scalar α] {r : Registrar σ α}

/-- A summary whose points are placed by its own motion. -/
def IsPlaced (r : Registrar σ α) (points : List (ScanPoint α)) (summary : Summary α) : Prop :=
  summary.corrected = summary.motion.place r.baseOptions.compensate points

/-- Attempts place the points at each of their exits. The induction is on the attempts left. -/
theorem yields_attempts (scan : Scan α) (previous : ScanMotion α) (remaining number : Nat)
    (attempt : Attempt α) (summary : Summary α)
    (last : Option (RegistrationError (Rejection α))) :
    Yields (r.IsPlaced scan.points)
      (r.attempts scan previous remaining number attempt summary last) := by
  induction remaining generalizing number attempt summary last with
  | zero => exact .pure rfl
  | succ remaining ih =>
      rw [attempts, attemptsBy]
      refine .bind fun number => .bind fun found => ?_
      obtain ⟨keypoints, outcome⟩ := found
      cases outcome with
      | accepted registered assessment => exact .pure rfl
      | rejected registered assessment reason =>
          dsimp only
          split
          · exact .pure rfl
          · exact .bind fun next => ih number next _ _
      | unsolved cause => exact .bind fun next => ih number next _ _

/-- A scan without points has none to undo the motion of. -/
theorem points_settled_of_nil {scan : Scan α} (hpoints : scan.points = []) :
    (r.settled scan).points = [] := by
  rw [settled]
  split
  · rw [hpoints]
    rfl
  · exact hpoints

/-- **Registration places the points** by the motion that it reports, however it ends. -/
theorem yields_corrected (scan : Scan α) :
    Yields (r.IsPlaced (r.settled scan).points) (r.register scan) := by
  rw [register, registerBy]
  dsimp only
  split
  · next hempty =>
      refine .pure ?_
      rw [IsPlaced, points_settled_of_nil (List.isEmpty_iff.mp hempty)]
      rfl
  · split
    · exact .bind fun _ => .pure rfl
    · exact yields_attempts _ _ _ _ _ _ _

end Registrar

end LidarOdometry
