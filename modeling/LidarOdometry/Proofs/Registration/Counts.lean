import LidarOdometry.Proofs.Numeric.Checked
import LidarOdometry.Proofs.Registration.Exits
import LidarOdometry.Proofs.Registration.Schedule

/-!
# Counts That Are Machine Words

Registration counts attempts, and from attempt to attempt it raises two counts of the solver. Where
counts are machine words a sum can leave the words, and what happens then depends on the kind of
sum: one that wraps around goes on with a wrong value, one that is checked stops everything.

With sums that wrap around the attempts are the same as with counts of any size after all: a count
that has wrapped is below every bound that it is compared with next, so that it is dropped. With
checked sums they are the same as long as there is an answer. There is none exactly if an attempt
whose sums leave the words is relaxed. Attempts are counted without harm, but the two counts of the
solver are added to before they are bounded, and nothing keeps them away from the end of the words.

## Main definitions

* `Count.wrapping`: sums of counts that wrap around.
* `Attempt.Overflows`: attempts that cannot be relaxed within the words.
* `Registrar.RelaxesAt`: attempts that are relaxed.

## Main results

* `Registrar.attemptsBy_eq`: sums that come out right make no difference.
* `Registrar.attemptsBy_checked_eq_none`: an attempt whose sums leave the words stops everything.
* `Registrar.register_fits_iff`: which registrations stay within the words.
-/

namespace LidarOdometry

/-! ### Sums -/

namespace Count

/-- **A sum that wraps around** at the end of the words. -/
def wrapping (a b : Nat) : Id Nat :=
  (a + b) % UInt64.size

variable {a b : Nat}

/-- A sum that is a word does not wrap around. -/
theorem wrapping_eq (h : a + b < UInt64.size) : wrapping a b = a + b :=
  Nat.mod_eq_of_lt h

/-- **A bounded sum does not show** whether it has wrapped: what is so close to the end of the words
has passed the bound already, and stays as it is. -/
theorem max_min_wrapping {most : Nat} (ha : a < UInt64.size) (hb : b < UInt64.size)
    (hmost : most + b ≤ UInt64.size) :
    max (min ((a + b) % UInt64.size) most) a = max (min (a + b) most) a := by
  rcases Nat.lt_or_ge (a + b) UInt64.size with hlt | hge
  · rw [Nat.mod_eq_of_lt hlt]
  · have hwrapped : (a + b) % UInt64.size = a + b - UInt64.size := by
      rw [Nat.mod_eq_sub_mod hge, Nat.mod_eq_of_lt (by omega)]
    rw [hwrapped]
    omega

end Count

variable {M : Type → Type} [Monad M] {σ α : Type} [Scalar α]

/-! ### Relaxing an attempt -/

namespace Attempt

/-- **The counts of an attempt are words.** -/
structure Fits (p : Attempt α) : Prop where
  neighborhood : p.solver.neighborhood < UInt64.size
  iterations : p.solver.iterations < UInt64.size

/-- **The next attempt is out of reach**: a sum leaves the words. -/
def Overflows (p : Attempt α) : Prop :=
  UInt64.size ≤ p.solver.iterations + 20 ∨ UInt64.size ≤ p.solver.neighborhood + 1

variable {p : Attempt α} {maxNeighborhood : Nat} {thinningSize : α}

omit [Scalar α] in
/-- There is no overflow exactly if both raised counts are words. -/
theorem not_overflows_iff : ¬ p.Overflows ↔
    p.solver.neighborhood + 1 < UInt64.size ∧ p.solver.iterations + 20 < UInt64.size := by
  rw [Overflows, not_or, Nat.not_le, Nat.not_le, and_comm]

/-- **The counts of the next attempt fit** in words if those of this one do. -/
theorem Fits.next (h : p.Fits) (hmost : maxNeighborhood < UInt64.size) :
    (p.next maxNeighborhood thinningSize).Fits where
  neighborhood := max_lt (lt_of_le_of_lt (min_le_right _ _) hmost) h.neighborhood
  iterations := max_lt (lt_of_le_of_lt (min_le_right _ _) (by decide)) h.iterations

/-- **With sums that wrap around** the next attempt is what it should be. -/
theorem nextBy_wrapping (h : p.Fits) (hmost : maxNeighborhood < UInt64.size) :
    p.nextBy Count.wrapping maxNeighborhood thinningSize = p.next maxNeighborhood thinningSize := by
  have hneighborhood := Count.max_min_wrapping h.neighborhood (by decide : 1 < UInt64.size)
    (Nat.succ_le_of_lt hmost)
  have hiterations := Count.max_min_wrapping h.iterations (by decide : 20 < UInt64.size)
    (by decide : 50 + 20 ≤ UInt64.size)
  simp only [nextBy, Count.wrapping, bind, pure, hneighborhood, hiterations]
  rfl

/-- **With checked sums** it is what it should be, if it is within reach. -/
theorem nextBy_checked (h : ¬ p.Overflows) :
    p.nextBy Count.checked maxNeighborhood thinningSize =
      some (p.next maxNeighborhood thinningSize) := by
  obtain ⟨hneighborhood, hiterations⟩ := not_overflows_iff.mp h
  rw [nextBy, Count.checked_eq hneighborhood, Count.checked_eq hiterations]
  rfl

/-- If it is out of reach, there is none. -/
theorem nextBy_checked_eq_none (h : p.Overflows) :
    p.nextBy Count.checked maxNeighborhood thinningSize = none := by
  rcases Nat.lt_or_ge (p.solver.neighborhood + 1) UInt64.size with hlt | hge
  · have hiterations := h.resolve_right (Nat.not_le.mpr hlt)
    rw [nextBy, Count.checked_eq hlt, Count.checked_eq_none hiterations]
    rfl
  · rw [nextBy, Count.checked_eq_none hge]
    rfl

end Attempt

namespace Registrar

/-- **The counts of a registrar are words.** -/
structure Fits (r : Registrar σ α) : Prop where
  neighborhood : r.baseOptions.neighborhood < UInt64.size
  iterations : r.baseOptions.iterations < UInt64.size
  maxNeighborhood : r.options.maxNeighborhood < UInt64.size
  maxAttempts : r.options.maxAttempts < UInt64.size

section Parameters

variable {r : Registrar σ α} {scan : Scan α} {i : Nat}

/-- The counts of every attempt fit. -/
theorem Fits.parameters (h : r.Fits) (i : Nat) : (r.parameters scan i).Fits := by
  induction i with
  | zero => exact ⟨h.neighborhood, h.iterations⟩
  | succ i ih => exact ih.next h.maxNeighborhood

omit [Scalar α] in
/-- The number of attempts is a word. -/
theorem Fits.maxAttempts_lt (h : r.Fits) : r.maxAttempts < UInt64.size := by
  rw [Registrar.maxAttempts]
  split
  · exact h.maxAttempts
  · decide

/-- The counts of each attempt follow the schedule, whatever the arithmetic of sizes is. -/
theorem counts_parameters (r : Registrar σ α) (scan : Scan α) (i : Nat) :
    (r.parameters scan i).solver.neighborhood =
        Attempt.raised r.baseOptions.neighborhood 1 r.options.maxNeighborhood i ∧
      (r.parameters scan i).solver.iterations =
        Attempt.raised r.baseOptions.iterations 20 50 i := by
  induction i with
  | zero => exact ⟨(Attempt.raised_zero ..).symm, (Attempt.raised_zero ..).symm⟩
  | succ i ih =>
      rw [← Attempt.raised_succ, ← Attempt.raised_succ, ← ih.1, ← ih.2]
      exact ⟨rfl, rfl⟩

/-- **Where the next attempt is out of reach**, by the options. The iterations are so from the
start or never. -/
theorem overflows_parameters_iff : (r.parameters scan i).Overflows ↔
    UInt64.size ≤ r.baseOptions.iterations + 20 ∨
      UInt64.size ≤
        Attempt.raised r.baseOptions.neighborhood 1 r.options.maxNeighborhood i + 1 := by
  obtain ⟨hneighborhood, hiterations⟩ := counts_parameters r scan i
  rw [Attempt.Overflows, hneighborhood, hiterations]
  refine or_congr_left ?_
  have hsize : UInt64.size = 18446744073709551616 := rfl
  simp only [Attempt.raised, hsize]
  omega

end Parameters

/-! ### Attempts in a row -/

section Run

variable {r : Registrar σ α} {scan : Scan α} {previous : ScanMotion α} {memory : σ}
  {session : Session σ} {i k remaining : Nat} {summary : Summary α}
  {last : Option (RegistrationError (Rejection α))}

variable (r scan previous memory) in
/-- **Attempt `k` is relaxed**: it is made, and neither it nor one before it decides. -/
structure RelaxesAt (k : Nat) : Prop where
  lt_maxAttempts : k < r.maxAttempts
  undecided : ∀ j ≤ k, r.decides scan previous memory j = false

/-- **Sums that come out right** make the attempts of the library. The induction is on the attempts
left; it needs the sums of attempts that are relaxed only. -/
theorem attemptsBy_eq [LawfulMonad M] {plus : Nat → Nat → M Nat}
    (hcount : ∀ k < r.maxAttempts, plus k 1 = pure (k + 1))
    (hnext : ∀ k, r.RelaxesAt scan previous memory k →
      (r.parameters scan k).nextBy plus r.options.maxNeighborhood scan.thinningSize =
        pure (r.parameters scan (k + 1)))
    (hprevious : scan.previous = some previous) (hsum : i + remaining = r.maxAttempts)
    (hundecided : ∀ j < i, r.decides scan previous memory j = false)
    (hmemory : session.memory = r.memoryBefore scan previous memory i) :
    r.lift.attemptsBy plus (r.settled scan) previous remaining i (r.parameters scan i) summary last
        session =
      pure (r.attempts (r.settled scan) previous remaining i (r.parameters scan i) summary last
        session) := by
  induction remaining generalizing i summary last session with
  | zero => rfl
  | succ remaining ih =>
      have hnumber := hcount i (by omega)
      cases hdecides : r.decides scan previous memory i with
      | true => exact attemptsBy_of_decides hnumber hprevious hmemory hdecides remaining
      | false =>
          have hundecided' : ∀ j ≤ i, r.decides scan previous memory j = false := fun j hj => by
            rcases Nat.lt_or_eq_of_le hj with hlt | rfl
            · exact hundecided j hlt
            · exact hdecides
          rw [attemptsBy_of_undecided hnumber hprevious hmemory hdecides,
            hnext i ⟨by omega, hundecided'⟩, pure_bind,
            attempts_of_undecided hprevious hmemory hdecides]
          exact ih (by omega) (fun j hj => hundecided' j (Nat.le_of_lt_succ hj))
            (outcome_eq hprevious hmemory).2

/-- **An attempt whose sums leave the words** stops everything, if it is relaxed. The induction is
on the attempts left, down from the one in question. -/
theorem attemptsBy_checked_eq_none (hrelaxes : r.RelaxesAt scan previous memory k)
    (hoverflows : (r.parameters scan k).Overflows) (hmax : r.maxAttempts < UInt64.size)
    (hprevious : scan.previous = some previous) (hsum : i + remaining = r.maxAttempts)
    (hle : i ≤ k) (hmemory : session.memory = r.memoryBefore scan previous memory i) :
    r.lift.attemptsBy Count.checked (r.settled scan) previous remaining i (r.parameters scan i)
      summary last session = none := by
  have hlt := hrelaxes.lt_maxAttempts
  induction remaining generalizing i summary last session with
  | zero => omega
  | succ remaining ih =>
      rw [attemptsBy_of_undecided (Count.checked_eq (by omega)) hprevious hmemory
        (hrelaxes.undecided i hle)]
      -- an earlier attempt may overflow already; if not, the attempts go on
      by_cases hearlier : (r.parameters scan i).Overflows
      · rw [Attempt.nextBy_checked_eq_none hearlier]
        rfl
      · have hne : i ≠ k := fun heq => hearlier (heq ▸ hoverflows)
        rw [Attempt.nextBy_checked hearlier]
        exact ih (by omega) (by omega) (outcome_eq hprevious hmemory).2

end Run

/-! ### Registrations within the words -/

section Register

variable {r : Registrar σ α} {scan : Scan α} {previous : ScanMotion α} {session : Session σ}
  {i : Nat}

/-- A scan without points needs no sums. -/
theorem registerBy_of_nil (plus : Nat → Nat → M Nat) (hpoints : scan.points = []) :
    r.lift.registerBy plus scan session = pure (r.register scan session) := by
  rw [register, registerBy, registerBy, if_pos (List.isEmpty_iff.mpr hpoints),
    if_pos (List.isEmpty_iff.mpr hpoints)]
  rfl

/-- **Sums that come out right** make no difference to a registration. -/
theorem registerBy_eq [LawfulMonad M] {plus : Nat → Nat → M Nat}
    (hcount : ∀ k < r.maxAttempts, plus k 1 = pure (k + 1))
    (hnext : ∀ k, r.RelaxesAt scan previous session.memory k →
      (r.parameters scan k).nextBy plus r.options.maxNeighborhood scan.thinningSize =
        pure (r.parameters scan (k + 1)))
    (hpoints : scan.points ≠ []) (hprevious : scan.previous = some previous) :
    r.lift.registerBy plus scan session = pure (r.register scan session) := by
  rw [registerBy_of_previous plus hpoints hprevious, register_of_previous hpoints hprevious]
  exact attemptsBy_eq hcount hnext hprevious (Nat.zero_add _)
    (fun j hj => absurd hj (Nat.not_lt_zero j)) rfl

/-- **Sums that wrap around** do not show. -/
theorem registerBy_wrapping (hfits : r.Fits) (hprevious : scan.previous = some previous) :
    r.lift.registerBy Count.wrapping scan session = r.register scan session := by
  by_cases hpoints : scan.points = []
  · exact registerBy_of_nil Count.wrapping hpoints
  · have hmax := hfits.maxAttempts_lt
    exact registerBy_eq (fun k hk => Count.wrapping_eq (by omega))
      (fun k _ => Attempt.nextBy_wrapping (hfits.parameters k) hfits.maxNeighborhood) hpoints
      hprevious

/-- **Checked sums** do not show as long as no attempt overflows that is relaxed. -/
theorem registerBy_checked (hfits : r.Fits) (hpoints : scan.points ≠ [])
    (hprevious : scan.previous = some previous)
    (h : ∀ k, r.RelaxesAt scan previous session.memory k → ¬ (r.parameters scan k).Overflows) :
    r.lift.registerBy Count.checked scan session = some (r.register scan session) := by
  have hmax := hfits.maxAttempts_lt
  exact registerBy_eq (fun k hk => Count.checked_eq (by omega))
    (fun k hk => Attempt.nextBy_checked (h k hk)) hpoints hprevious

/-- **There is no answer** with checked sums exactly if an attempt is relaxed that overflows. -/
theorem registerBy_checked_eq_none_iff (hfits : r.Fits)
    (hprevious : scan.previous = some previous) :
    r.lift.registerBy Count.checked scan session = none ↔ scan.points ≠ [] ∧
      ∃ k, r.RelaxesAt scan previous session.memory k ∧ (r.parameters scan k).Overflows := by
  constructor
  · intro hnone
    have hpoints : scan.points ≠ [] := fun hnil => by
      rw [registerBy_of_nil Count.checked hnil] at hnone
      cases hnone
    refine ⟨hpoints, ?_⟩
    by_contra hwithin
    rw [registerBy_checked hfits hpoints hprevious
      fun k hk hoverflows => hwithin ⟨k, hk, hoverflows⟩] at hnone
    cases hnone
  · rintro ⟨hpoints, k, hrelaxes, hoverflows⟩
    rw [registerBy_of_previous Count.checked hpoints hprevious]
    exact attemptsBy_checked_eq_none hrelaxes hoverflows hfits.maxAttempts_lt hprevious
      (Nat.zero_add _) (Nat.zero_le k) rfl

/-- **An answer with checked sums** is that of the library. -/
theorem eq_of_registerBy_checked (hfits : r.Fits) (hprevious : scan.previous = some previous)
    {ended : Summary α × Session σ}
    (h : r.lift.registerBy Count.checked scan session = some ended) :
    ended = r.register scan session := by
  by_cases hpoints : scan.points = []
  · rw [registerBy_of_nil Count.checked hpoints] at h
    exact (Option.some.inj h).symm
  · have hwithin : ∀ k, r.RelaxesAt scan previous session.memory k →
        ¬ (r.parameters scan k).Overflows := fun k hk hoverflows => by
      rw [(registerBy_checked_eq_none_iff hfits hprevious).mpr ⟨hpoints, k, hk, hoverflows⟩] at h
      cases h
    rw [registerBy_checked hfits hpoints hprevious hwithin] at h
    exact (Option.some.inj h).symm

/-- **Registration stays within the words** unless an attempt is relaxed whose counts are at their
end. Let the options be valid and all counts words, and let the scan have a previous one. With sums
that wrap around it is registered as in the library. With checked sums there is no answer exactly
if the scan has points and there is an attempt that, like all before it, does not decide, while the
iterations are within twenty of the end of the words or the neighbourhood, as far as it is raised by
then, is at the end; any other answer is that of the library. So there is an answer if both counts
of the solver and the bound of the neighbourhood keep their distance from the end. A scan is
accepted exactly if no failure is reported. -/
theorem register_fits_iff (hvalid : r.options.validate = .ok ()) (hfits : r.Fits)
    (hprevious : scan.previous = some previous) (session : Session σ) :
    r.lift.registerBy Count.wrapping scan session = r.register scan session ∧
    (r.lift.registerBy Count.checked scan session = none ↔
      scan.points ≠ [] ∧ ∃ i < r.maxAttempts,
        (∀ j ≤ i, r.decides scan previous session.memory j = false) ∧
        (UInt64.size ≤ r.baseOptions.iterations + 20 ∨ UInt64.size ≤
          Attempt.raised r.baseOptions.neighborhood 1 r.options.maxNeighborhood i + 1)) ∧
    (∀ ended, r.lift.registerBy Count.checked scan session = some ended →
      ended = r.register scan session) ∧
    (r.baseOptions.iterations + 20 < UInt64.size → r.baseOptions.neighborhood + 1 < UInt64.size →
      r.options.maxNeighborhood + 1 < UInt64.size →
        r.lift.registerBy Count.checked scan session = some (r.register scan session)) ∧
    ((r.register scan session).1.isSuccess = true ↔
      (r.register scan session).1.failure = none) := by
  have hnone : r.lift.registerBy Count.checked scan session = none ↔
      scan.points ≠ [] ∧ ∃ i < r.maxAttempts,
        (∀ j ≤ i, r.decides scan previous session.memory j = false) ∧
        (UInt64.size ≤ r.baseOptions.iterations + 20 ∨ UInt64.size ≤
          Attempt.raised r.baseOptions.neighborhood 1 r.options.maxNeighborhood i + 1) := by
    rw [registerBy_checked_eq_none_iff hfits hprevious]
    refine and_congr_right' (exists_congr fun i => ?_)
    rw [overflows_parameters_iff]
    exact ⟨fun ⟨⟨hlt, hundecided⟩, hover⟩ => ⟨hlt, hundecided, hover⟩,
      fun ⟨hlt, hundecided, hover⟩ => ⟨⟨hlt, hundecided⟩, hover⟩⟩
  have hattempts : 0 < r.options.maxAttempts :=
    Nat.pos_of_ne_zero (OdometryOptions.validate_eq_ok_iff.mp hvalid).maxAttempts
  refine ⟨registerBy_wrapping hfits hprevious, hnone,
    fun ended h => eq_of_registerBy_checked hfits hprevious h,
    fun hiterations hneighborhood hmost => ?_,
    (register_ends hattempts scan session).isSuccess_iff⟩
  cases hended : r.lift.registerBy Count.checked scan session with
  | some ended => rw [eq_of_registerBy_checked hfits hprevious hended]
  | none =>
      obtain ⟨-, i, -, -, hover⟩ := hnone.mp hended
      have hraised := Attempt.raised_le r.baseOptions.neighborhood 1 r.options.maxNeighborhood i
      omega

/-- With a solver that always fails, the fourth of ten attempts cannot be relaxed if the
neighbourhood starts at four voxels less than there are words. -/
theorem register_fits_iff_fourth_attempt :
    let options : OdometryOptions Float := { OdometryOptions.slowOutdoor with
      maxNeighborhood := UInt64.size - 1
      solver := { OdometryOptions.slowOutdoor.solver with neighborhood := UInt64.size - 4 } }
    let r := Registrar.failing options
    let scan : Scan Float := ⟨[.untimed ⟨1, 0, 0⟩], .identity, some .identity, 1, 0.8, 1.5⟩
    r.lift.registerBy Count.wrapping scan ⟨(), .fresh⟩ = r.register scan ⟨(), .fresh⟩ ∧
      r.lift.registerBy Count.checked scan ⟨(), .fresh⟩ = none ∧
      (r.register scan ⟨(), .fresh⟩).1.isSuccess = false := by
  intro options r scan
  have hpreset := OdometryOptions.validate_eq_ok_iff.mp
    (OdometryOptions.validate_ofProfile .slowOutdoor)
  have hvalid : options.validate = .ok () :=
    OdometryOptions.validate_eq_ok_iff.mpr { hpreset with }
  have hfits : r.Fits := ⟨by decide, by decide, by decide, by decide⟩
  have hpoints : scan.points ≠ [] := List.cons_ne_nil _ _
  have hprevious : scan.previous = some .identity := rfl
  obtain ⟨hwrapping, hnone, -⟩ := register_fits_iff (r := r) hvalid hfits hprevious ⟨(), .fresh⟩
  have hraised : UInt64.size ≤
      Attempt.raised (UInt64.size - 4) 1 (UInt64.size - 1) 3 + 1 := by
    simp only [Attempt.raised]
    omega
  obtain ⟨i, -, hreports, -⟩ := register_reports (r := r) hpoints hprevious
    (by decide : 0 < options.maxAttempts) ⟨(), .fresh⟩
  exact ⟨hwrapping, hnone.mpr ⟨hpoints, 3, by decide, fun j _ => decides_failing .., .inr hraised⟩,
    hreports.isSuccess_eq⟩

/-- **Valid options can leave the words**: with the widest neighbourhood there is, a single failed
attempt is enough, although no other one follows. -/
theorem not_register_fits :
    let options : OdometryOptions Float := { OdometryOptions.driving with
      solver := { OdometryOptions.driving.solver with neighborhood := UInt64.size - 1 } }
    let r := Registrar.failing options
    let scan : Scan Float := ⟨[.untimed ⟨1, 0, 0⟩], .identity, some .identity, 1, 0.5, 1.5⟩
    options.validate = .ok () ∧ r.Fits ∧ r.maxAttempts = 1 ∧
      r.lift.registerBy Count.checked scan ⟨(), .fresh⟩ = none := by
  intro options r scan
  have hpreset := OdometryOptions.validate_eq_ok_iff.mp
    (OdometryOptions.validate_ofProfile .driving)
  have hvalid : options.validate = .ok () :=
    OdometryOptions.validate_eq_ok_iff.mpr { hpreset with }
  have hfits : r.Fits := ⟨by decide, by decide, by decide, by decide⟩
  have hrelaxes : r.RelaxesAt scan .identity () 0 := ⟨by decide, fun j _ => decides_failing ..⟩
  have hoverflows : (r.parameters scan 0).Overflows := .inr (le_refl UInt64.size)
  exact ⟨hvalid, hfits, rfl, (registerBy_checked_eq_none_iff hfits rfl).mpr
    ⟨List.cons_ne_nil _ _, 0, hrelaxes, hoverflows⟩⟩

end Register

end Registrar

end LidarOdometry
