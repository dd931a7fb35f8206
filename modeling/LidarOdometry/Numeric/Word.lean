/-!
# Integers of 64-Bit Range

Cells are signed 64-bit words and counts are unsigned ones. There are two ways back into the range
of cells for an integer that has left it: moving to the nearest end, as a conversion does, and
going round to the integer with the same lowest bits.

What a sum does there is left open. It may go round, or it may be checked, and then nothing comes of
a computation in which it leaves the range. Whatever adds cells or counts is therefore written once,
in any monad, and is told what becomes of a sum: in `Id` there always is a result, in `Option` there
is one as long as all sums stay within the range.

## Main definitions

* `Word.least`, `Word.greatest`: the ends of the range of cells.
* `Word.clamp`: the nearest integer of the range.
* `Word.wrap`: the integer of the range with the same lowest 64 bits.
* `Word.wrapping`, `Word.checked`: what becomes of a sum of cells.
* `Count.exact`, `Count.checked`: sums of counts.
-/

namespace LidarOdometry.Word

/-- The least integer of the range. -/
def least : Int := -0x8000000000000000

/-- The greatest integer of the range. -/
def greatest : Int := 0x7FFFFFFFFFFFFFFF

/-- **The nearest integer of the range.** -/
def clamp (n : Int) : Int :=
  if n < least then least else if greatest < n then greatest else n

/-- Moving to the nearest end does not end below the range. -/
theorem least_le_clamp (n : Int) : least ≤ clamp n := by
  have h : least ≤ greatest := by decide
  unfold clamp
  split
  · omega
  · split <;> omega

/-- It does not end above the range either. -/
theorem clamp_le_greatest (n : Int) : clamp n ≤ greatest := by
  have h : least ≤ greatest := by decide
  unfold clamp
  split
  · omega
  · split <;> omega

/-- **The integer of the range with the same lowest 64 bits.** -/
def wrap (n : Int) : Int :=
  (Int64.ofInt n).toInt

/-- Going round is taking the balanced remainder. -/
theorem wrap_eq_bmod (n : Int) : wrap n = n.bmod Int64.size :=
  Int64.toInt_ofInt

/-- Going round does not end below the range. -/
theorem least_le_wrap (n : Int) : least ≤ wrap n :=
  Int64.le_toInt _

/-- It does not end above the range either. -/
theorem wrap_le_greatest (n : Int) : wrap n ≤ greatest :=
  Int.le_of_lt_add_one (Int64.toInt_lt _)

/-- Going round changes an integer by a multiple of the size of the words. -/
theorem exists_wrap_eq (n : Int) : ∃ q, wrap n = n + 0x10000000000000000 * q := by
  refine ⟨-n.bdiv Int64.size, ?_⟩
  rw [wrap_eq_bmod, Int.bmod_eq_self_sub_mul_bdiv, Int.mul_neg, Int.sub_eq_add_neg]
  rfl

/-- Within the range going round changes nothing. -/
theorem wrap_of_mem {n : Int} (hl : least ≤ n) (hu : n ≤ greatest) : wrap n = n := by
  rw [wrap_eq_bmod]
  exact Int.bmod_eq_of_le hl (Int.lt_of_le_of_lt hu (by decide))

/-- The lowest 64 bits of an integer. -/
def bits (n : Int) : UInt64 :=
  (Int64.ofInt n).toUInt64

/-- **A sum that goes round** at the ends of the range. -/
def wrapping (n : Int) : Id Int :=
  wrap n

/-- **A sum that is checked**: beyond the range there is none. -/
def checked (n : Int) : Option Int :=
  if least ≤ n ∧ n ≤ greatest then some n else none

end LidarOdometry.Word

namespace LidarOdometry.Count

/-- **The sum of two counts**, whatever its size. -/
def exact (a b : Nat) : Id Nat :=
  a + b

/-- **A sum that is checked**: beyond the words there is none. -/
def checked (a b : Nat) : Option Nat :=
  if a + b < UInt64.size then some (a + b) else none

end LidarOdometry.Count
