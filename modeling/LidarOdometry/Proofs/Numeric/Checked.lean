import LidarOdometry.Numeric.Word

/-!
# Checked Sums

Whatever adds cells or counts is written for any kind of sum. With sums that go round, or that may
have any size, there always is a result. With checked sums there is one only if all sums stay within
the range, and then the check should make no difference: what is computed with it *agrees* with what
is computed without.

Agreement is kept by everything that programs are built from, so that it passes from sums to whole
registrations. Whatever is proved of results without the check is thereby true of all answers with
it; when there is an answer is another question.

## Main definitions

* `Word.IsWord`: integers of the range of cells.
* `Agrees`: a computation that has a given result, if it has any.

## Main results

* `Word.checked_eq_none_iff`: when a sum of cells has no result.
* `Word.agrees_checked`, `Count.agrees_checked`: checked sums agree with all others.
* `Agrees.bind`, `Agrees.filterMapM`: computations in a row.
-/

namespace LidarOdometry

variable {β γ : Type}

/-! ### Words -/

namespace Word

variable {n b q : Int}

/-- An integer **within the range of words**. -/
def IsWord (n : Int) : Prop :=
  least ≤ n ∧ n ≤ greatest

instance (n : Int) : Decidable (IsWord n) :=
  inferInstanceAs (Decidable (_ ∧ _))

/-- Going round ends within the range. -/
theorem isWord_wrap (n : Int) : IsWord (wrap n) :=
  ⟨least_le_wrap n, wrap_le_greatest n⟩

/-- So does moving to the nearest end. -/
theorem isWord_clamp (n : Int) : IsWord (clamp n) :=
  ⟨least_le_clamp n, clamp_le_greatest n⟩

/-- Going round changes exactly what is outside the range. -/
theorem wrap_eq_self_iff : wrap n = n ↔ IsWord n :=
  ⟨fun h => h ▸ isWord_wrap n, fun h => wrap_of_mem h.1 h.2⟩

/-- A word is what every integer with the same lowest bits goes round to. -/
theorem wrap_eq_of_isWord (hb : IsWord b) (hn : n = b + 0x10000000000000000 * q) : wrap n = b := by
  obtain ⟨hl, hu⟩ := isWord_wrap n
  obtain ⟨hl', hu'⟩ := hb
  obtain ⟨q', hq'⟩ := exists_wrap_eq n
  simp only [least, greatest] at hl hu hl' hu'
  omega

/-- A word passes the check. -/
theorem checked_of_isWord (h : IsWord n) : checked n = some n :=
  if_pos h

/-- **The check stops** what is outside the range. -/
theorem checked_eq_none_iff : checked n = none ↔ ¬ IsWord n := by
  rw [checked, ite_eq_right_iff]
  exact ⟨fun h hword => Option.some_ne_none n (h hword), fun h hword => absurd hword h⟩

end Word

/-! ### Agreement -/

/-- A computation **agrees** with a result if that is what it has, or nothing. -/
def Agrees (x : Option β) (b : β) : Prop :=
  ∀ c ∈ x, c = b

namespace Agrees

variable {x : Option β} {b : β}

/-- Where there is anything, it is the result. -/
theorem eq_some (h : Agrees x b) (hx : x ≠ none) : x = some b := by
  obtain ⟨c, rfl⟩ := Option.ne_none_iff_exists'.mp hx
  rw [h c rfl]

/-- A result that is given agrees with itself. -/
theorem pure (b : β) : Agrees (Pure.pure b) b :=
  fun _ hc => (Option.some.inj hc).symm

/-- **One computation after another**: agreement at each is agreement of both. -/
theorem bind {y : Id β} {f : β → Option γ} {g : β → Id γ} (hx : Agrees x y)
    (hf : ∀ b, Agrees (f b) (g b)) : Agrees (x >>= f) (y >>= g) := by
  intro c hc
  obtain ⟨b, hb, hc⟩ := Option.bind_eq_some_iff.mp hc
  obtain rfl := hx b hb
  exact hf b c hc

/-- The results of a computation that looks through a list. -/
theorem filterMapM {f : β → Option (Option γ)} {g : β → Id (Option γ)}
    (hf : ∀ b, Agrees (f b) (g b)) (bs : List β) :
    Agrees (bs.filterMapM f) (bs.filterMapM g) := by
  induction bs with
  | nil => exact .pure []
  | cons b bs ih =>
      rw [List.filterMapM_cons, List.filterMapM_cons]
      refine .bind (hf b) fun result => ?_
      cases result with
      | none => exact ih
      | some c => exact .bind ih fun cs => .pure (c :: cs)

end Agrees

/-- **A checked sum of cells** agrees with one that goes round. -/
theorem Word.agrees_checked (n : Int) : Agrees (Word.checked n) (Word.wrapping n) := by
  intro c hc
  by_cases hword : Word.IsWord n
  · rw [Word.checked_of_isWord hword] at hc
    rw [← Option.some.inj hc]
    exact (Word.wrap_eq_self_iff.mpr hword).symm
  · rw [Word.checked_eq_none_iff.mpr hword] at hc
    cases hc

namespace Count

variable {a b : Nat}

/-- A sum that is a word passes the check. -/
theorem checked_eq (h : a + b < UInt64.size) : checked a b = some (a + b) :=
  if_pos h

/-- Any other does not. -/
theorem checked_eq_none (h : UInt64.size ≤ a + b) : checked a b = none :=
  if_neg (Nat.not_lt.mpr h)

/-- **A checked sum of counts** agrees with one of any size. -/
theorem agrees_checked (a b : Nat) : Agrees (Count.checked a b) (Count.exact a b) := by
  intro c hc
  rcases Nat.lt_or_ge (a + b) UInt64.size with hlt | hge
  · rw [checked_eq hlt] at hc
    exact (Option.some.inj hc).symm
  · rw [checked_eq_none hge] at hc
    cases hc

end Count

end LidarOdometry
