import LidarOdometry.Proofs.Engine.Run
import LidarOdometry.Proofs.Scan.Sampler

/-!
# One Sampler for All Stages

All stages of an engine share one sampler: every scan is thinned with it, and the keypoints of every
attempt are drawn with it. Since what it draws does not depend on what it drew before, no stage,
attempt or scan has an effect on another by way of it. Engines that differ in their samplers only
return the same summaries and reach the same trajectory and the same map, whatever the solver
remembers.

## Main definitions

* `Engine.Resampled`: engines that differ in their samplers only.

## Main results

* `Engine.Resampled.run`: a run does not depend on the sampler that it starts with.
* `Engine.sampling_keeps_firsts`: what a sampler draws, and that it has no other effect.
-/

namespace LidarOdometry

variable {σ α : Type}

namespace Engine

/-- Engines that **differ in their samplers** only. -/
def Resampled (e e' : Engine σ α) : Prop :=
  ∃ sampler, e' = { e with session := { e.session with sampler } }

variable [Scalar α] {e e' : Engine σ α}

/-- **One call** does not depend on the sampler. -/
theorem Resampled.call (h : Resampled e e') (c : ScanCall α) :
    (e'.call c).1 = (e.call c).1 ∧ Resampled (e.call c).2 (e'.call c).2 := by
  obtain ⟨other, rfl⟩ := h
  obtain ⟨sampler, heq⟩ := e.call_eq c
  obtain ⟨sampler', heq'⟩ :=
    ({ e with session := { e.session with sampler := other } } : Engine σ α).call_eq c
  have hscan : ({ e with session := { e.session with sampler := other } } : Engine σ α).scanFor c =
      e.scanFor c := by
    cases c <;> rfl
  have hregistrar : ({ e with session := { e.session with sampler := other } } :
      Engine σ α).registrar = e.registrar := rfl
  rw [hscan, hregistrar] at heq'
  -- what is drawn does not depend on what the sampler still holds
  obtain ⟨hsummary, hmemory⟩ := Registrar.respects_register e.registrar.solver.respects_eq
    (e.scanFor c) ⟨e.session.memory, sampler⟩ ⟨e.session.memory, sampler'⟩ rfl
  rw [heq, heq']
  generalize e.registrar.register (e.scanFor c) ⟨e.session.memory, sampler⟩ = run at *
  generalize e.registrar.register (e.scanFor c) ⟨e.session.memory, sampler'⟩ = run' at *
  obtain ⟨summary, memory, left⟩ := run
  obtain ⟨summary', memory', left'⟩ := run'
  obtain rfl : summary = summary' := hsummary
  obtain rfl : memory = memory' := hmemory
  refine ⟨rfl, left', ?_⟩
  cases summary.isSuccess <;> rfl

/-- **A run** does not depend on the sampler that it starts with. -/
theorem Resampled.run (h : Resampled e e') (calls : List (ScanCall α)) :
    e'.history calls = e.history calls ∧ Resampled (e.after calls) (e'.after calls) := by
  induction calls generalizing e e' with
  | nil => exact ⟨rfl, h⟩
  | cons c calls ih =>
      obtain ⟨hsummary, hnext⟩ := h.call c
      obtain ⟨hhistory, hafter⟩ := ih hnext
      refine ⟨?_, hafter⟩
      rw [history, history, hsummary, hhistory]

/-- **Sampling keeps the first point of every voxel**, whatever the sampler was used for before:
points of the scan in their order and as they are, one for each voxel that the scan visits, also
where different voxels have the same hash. What it was used for before has no other effect
either: a run of an engine does not depend on the sampler that it starts with. -/
theorem sampling_keeps_firsts :
    (∀ (before : Sampler) (size : α) (points : List (ScanPoint α)),
      let kept := (before.sample size points).1
      kept = ScanPoint.firsts size points ∧ kept.Sublist points ∧
      (kept.map (ScanPoint.voxel size)).Nodup ∧
      (∀ p ∈ points, ∃ q ∈ kept, q.voxel size = p.voxel size) ∧
      (∀ p ∈ points, ∀ q ∈ points, p.voxel size ≠ q.voxel size → ∃ p' ∈ kept, ∃ q' ∈ kept,
        p'.voxel size = p.voxel size ∧ q'.voxel size = q.voxel size ∧ p' ≠ q') ∧
      (kept = [] ↔ points = []) ∧
      kept = (Sampler.fresh.sample size points).1) ∧
    ∀ (σ : Type) (e e' : Engine σ α), Resampled e e' → ∀ calls : List (ScanCall α),
      e'.history calls = e.history calls ∧ Resampled (e.after calls) (e'.after calls) := by
  refine ⟨fun before size points => ?_, fun σ e e' h calls => h.run calls⟩
  intro kept
  have hkept : kept = ScanPoint.firsts size points := Sampler.thin_eq_firsts size points
  have hvisited : ∀ p ∈ points, ∃ q ∈ kept, q.voxel size = p.voxel size := by
    rw [hkept]
    exact fun p hp => ScanPoint.exists_mem_firsts hp
  refine ⟨hkept, ?_, ?_, hvisited, fun p hp q hq hne => ?_, ?_, rfl⟩
  · rw [hkept]
    exact ScanPoint.firsts_sublist size points
  · rw [hkept]
    exact ScanPoint.nodup_map_voxel_firsts size points
  · obtain ⟨p', hp', hpvoxel⟩ := hvisited p hp
    obtain ⟨q', hq', hqvoxel⟩ := hvisited q hq
    refine ⟨p', hp', q', hq', hpvoxel, hqvoxel, ?_⟩
    rintro rfl
    exact hne (hpvoxel.symm.trans hqvoxel)
  · rw [hkept]
    exact ScanPoint.firsts_eq_nil_iff

/-- Two voxels with the same hash, drawn by a sampler that has visited one of them before. -/
theorem sampling_keeps_firsts_same_hash :
    let p : ScanPoint Float := .untimed ⟨19349663.5, 0.5, 0.5⟩
    let q : ScanPoint Float := .untimed ⟨0.5, 73856093.5, 0.5⟩
    let used := (Sampler.fresh.sample 1 [q]).2
    let e : Engine Unit Float :=
      ⟨.driving, .pure fun _ _ => .error .degenerate, ⟨(), .fresh⟩, [], .empty 1 20⟩
    (p.voxel 1 ≠ q.voxel 1 ∧ (p.voxel 1).spatialHash = (q.voxel 1).spatialHash) ∧
      (∃ p' ∈ (used.sample 1 [p, q, p]).1, ∃ q' ∈ (used.sample 1 [p, q, p]).1, p' ≠ q') ∧
      ({ e with session := ⟨(), used⟩ } : Engine Unit Float).history [.predicted [p, q]] =
        e.history [.predicted [p, q]] := by
  intro p q used e
  have hp : p.voxel 1 = ⟨19349663, 0, 0⟩ := by decide +kernel
  have hq : q.voxel 1 = ⟨0, 73856093, 0⟩ := by decide +kernel
  have hne : p.voxel 1 ≠ q.voxel 1 := by
    rw [hp, hq]
    decide
  obtain ⟨hsampling, hruns⟩ := sampling_keeps_firsts (α := Float)
  obtain ⟨-, -, -, -, happart, -⟩ := hsampling used 1 [p, q, p]
  refine ⟨⟨hne, ?_⟩, ?_, (hruns Unit e _ ⟨used, rfl⟩ _).1⟩
  · rw [hp, hq]
    decide
  · obtain ⟨p', hp', q', hq', -, -, hne'⟩ := happart p (by simp) q (by simp) hne
    exact ⟨p', hp', q', hq', hne'⟩

end Engine

end LidarOdometry
