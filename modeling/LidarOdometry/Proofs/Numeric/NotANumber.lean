import LidarOdometry.Geometry.Pose
import Mathlib

/-!
# Values that are not Numbers

A value of 64-bit floating point that is not a number compares false with everything, and what is
computed from it by the operations of arithmetic is not a number either. All other values are
ordered linearly, both infinities included, if the two zeros count as one. This module
derives both facts from the logical model of `Float`, for all values.

For the model a value is unpacked into sign, mantissa and exponent. The order is shown to be that
of a *rank*: first by kind, from negative infinity to positive infinity, then by exponent,
then by mantissa.

## Main definitions

* `NotANumber.rank`: the place of an unpacked value in the order.
* `Vec3.HasNaN`: some coordinate is not a number.

## Main results

* `NotANumber.lt_iff`, `NotANumber.le_iff`: the order of values that are numbers.
* `NotANumber.not_lt_iff`, `NotANumber.lt_max_iff`: what is not above, and what a maximum is above.
* `NotANumber.isNaN_distance`: distances from places that are not numbers.
-/

namespace LidarOdometry

namespace NotANumber

open Float.Model (UnpackedFloat)

variable {a b t : Float}

/-! ### The order of numbers -/

/-- **The rank of an unpacked value**: its kind, and for finite values exponent and mantissa. -/
def rank : UnpackedFloat → ℤ ×ₗ ℤ ×ₗ ℤ
  | .notANumber => toLex (0, toLex (0, 0))
  | .infinity .negative => toLex (-2, toLex (0, 0))
  | .finite .negative mantissa exponent _ => toLex (-1, toLex (-exponent, -mantissa))
  | .zero _ => toLex (0, toLex (0, 0))
  | .finite .positive mantissa exponent _ => toLex (1, toLex (exponent, mantissa))
  | .infinity .positive => toLex (2, toLex (0, 0))

/-- A float is not a number exactly if its unpacked form says so. -/
theorem isNaN_iff : a.isNaN = true ↔ a.toModel.unpack = .notANumber :=
  UnpackedFloat.isNaN_iff

/-- Comparing two exponents and then two mantissas. -/
theorem then_compare_eq_lt_iff {e f : ℤ} {m n : ℕ} :
    (compare e f).then (compare m n) = .lt ↔ e < f ∨ e = f ∧ m < n := by
  rw [Ordering.then_eq_lt, compare_lt_iff_lt, compare_eq_iff_eq, compare_lt_iff_lt]

/-- Exponents decide before significands: greater. -/
theorem then_compare_eq_gt_iff {e f : ℤ} {m n : ℕ} :
    (compare e f).then (compare m n) = .gt ↔ f < e ∨ e = f ∧ n < m := by
  rw [Ordering.then_eq_gt, compare_gt_iff_gt, compare_eq_iff_eq, compare_gt_iff_gt]

/-- Exponents decide before significands: at most. -/
theorem then_compare_isLE_iff {e f : ℤ} {m n : ℕ} :
    ((compare e f).then (compare m n)).isLE = true ↔ e < f ∨ e = f ∧ m ≤ n := by
  rw [Ordering.isLE_iff_ne_gt, then_compare_eq_gt_iff]
  omega

/-- Exponents decide before significands: at least. -/
theorem then_compare_isGE_iff {e f : ℤ} {m n : ℕ} :
    ((compare e f).then (compare m n)).isGE = true ↔ f < e ∨ e = f ∧ n ≤ m := by
  rw [Ordering.isGE_iff_ne_lt, then_compare_eq_lt_iff]
  omega

/-- The comparison of the model is that of ranks. -/
theorem compare_eq_lt_iff (u v : UnpackedFloat) : u.compare v = some .lt ↔
    u ≠ .notANumber ∧ v ≠ .notANumber ∧ rank u < rank v := by
  rcases u with ⟨_ | _⟩ | _ | _ | ⟨_ | _, m, e, hm⟩ <;>
    rcases v with ⟨_ | _⟩ | _ | _ | ⟨_ | _, n, f, hn⟩ <;>
    simp [UnpackedFloat.compare, rank, Prod.Lex.toLex_lt_toLex, then_compare_eq_lt_iff,
      then_compare_eq_gt_iff]
  rfl

/-- Unpacked floats are ordered by their rank, and what is not a number is below nothing. -/
theorem compare_isLE_iff (u v : UnpackedFloat) : (u.compare v).any (·.isLE) = true ↔
    u ≠ .notANumber ∧ v ≠ .notANumber ∧ rank u ≤ rank v := by
  rcases u with ⟨_ | _⟩ | _ | _ | ⟨_ | _, m, e, hm⟩ <;>
    rcases v with ⟨_ | _⟩ | _ | _ | ⟨_ | _, n, f, hn⟩ <;>
    simp [UnpackedFloat.compare, rank, Prod.Lex.toLex_le_toLex, then_compare_isLE_iff,
      then_compare_isGE_iff]
  all_goals rfl

/-- A float is a number exactly if its unpacked form says so. -/
theorem isNaN_eq_false_iff : a.isNaN = false ↔ a.toModel.unpack ≠ .notANumber := by
  rw [ne_eq, ← isNaN_iff, Bool.not_eq_true]

/-- **The order of numbers** is that of their ranks. -/
theorem lt_iff : a < b ↔ a.isNaN = false ∧ b.isNaN = false ∧
    rank a.toModel.unpack < rank b.toModel.unpack := by
  rw [isNaN_eq_false_iff, isNaN_eq_false_iff, ← compare_eq_lt_iff]
  change decide (_ = true) = true ↔ _
  rw [decide_eq_true_iff]
  exact beq_iff_eq

/-- **A float is at most another** exactly if both are numbers and their ranks are in this order.
-/
theorem le_iff : a ≤ b ↔ a.isNaN = false ∧ b.isNaN = false ∧
    rank a.toModel.unpack ≤ rank b.toModel.unpack := by
  rw [isNaN_eq_false_iff, isNaN_eq_false_iff, ← compare_isLE_iff]
  change decide (_ = true) = true ↔ _
  exact decide_eq_true_iff

/-- Numbers are ordered linearly: what is not above is below or equal, unless one of the two is
not a number. -/
theorem not_lt_iff : ¬ b < a ↔ a ≤ b ∨ a.isNaN = true ∨ b.isNaN = true := by
  rw [lt_iff, le_iff, ← not_lt]
  cases a.isNaN <;> cases b.isNaN <;> simp

/-- A maximum that ignores what is not a number is above a threshold if one of the two values
is. -/
theorem lt_max_iff : t < Scalar.max a b ↔ t < a ∨ t < b := by
  -- the second argument counts only if it is a number that the first does not reach
  rw [Scalar.max]
  split
  · next hle =>
      refine ⟨.inl, fun h => h.elim id fun hlt => ?_⟩
      obtain ⟨-, ha, hrank⟩ := le_iff.mp hle
      obtain ⟨ht, -, hrank'⟩ := lt_iff.mp hlt
      exact lt_iff.mpr ⟨ht, ha, hrank'.trans_le hrank⟩
  · next hle =>
      split
      · next hnumber =>
          refine ⟨.inr, fun h => h.elim (fun hlt => ?_) id⟩
          obtain ⟨hb, -, -⟩ := le_iff.mp hnumber
          obtain ⟨ht, ha, hrank⟩ := lt_iff.mp hlt
          have hrank' := not_le.mp fun h => hle (le_iff.mpr ⟨hb, ha, h⟩)
          exact lt_iff.mpr ⟨ht, hb, hrank.trans hrank'⟩
      · next hnumber =>
          refine ⟨.inl, fun h => h.elim id fun hlt => absurd (le_iff.mpr ?_) hnumber⟩
          obtain ⟨-, hb, -⟩ := lt_iff.mp hlt
          exact ⟨hb, hb, le_rfl⟩

/-! ### Computing with values that are not numbers -/

/-- Packing what is not a number gives a value that is none. -/
theorem isNaN_ofModel_pack {u : UnpackedFloat} (h : u = .notANumber) :
    (Float.ofModel (.pack u)).isNaN = true := by
  subst h
  decide

/-- **A sum is not a number** if a term is none. -/
theorem isNaN_add (h : a.isNaN = true ∨ b.isNaN = true) : (a + b).isNaN = true := by
  refine isNaN_ofModel_pack ?_
  rcases h with h | h
  · rw [isNaN_iff.mp h, UnpackedFloat.add]
  · rw [isNaN_iff.mp h]
    cases a.toModel.unpack <;> rfl

/-- **A difference is not a number** if a term is none. -/
theorem isNaN_sub (h : a.isNaN = true ∨ b.isNaN = true) : (a - b).isNaN = true := by
  refine isNaN_ofModel_pack ?_
  rcases h with h | h
  · rw [isNaN_iff.mp h, UnpackedFloat.sub]
  · rw [isNaN_iff.mp h]
    cases a.toModel.unpack <;> rfl

/-- **A product is not a number** if a factor is none. -/
theorem isNaN_mul (h : a.isNaN = true ∨ b.isNaN = true) : (a * b).isNaN = true := by
  refine isNaN_ofModel_pack ?_
  rcases h with h | h
  · rw [isNaN_iff.mp h, UnpackedFloat.mul]
  · rw [isNaN_iff.mp h]
    cases a.toModel.unpack <;> rfl

/-- **A root is not a number** if its radicand is none. -/
theorem isNaN_sqrt (h : a.isNaN = true) : (Float.sqrt a).isNaN = true := by
  refine isNaN_ofModel_pack ?_
  rw [isNaN_iff.mp h, UnpackedFloat.sqrt]

end NotANumber

/-! ### Places that are not numbers -/

/-- Some coordinate is **not a number**. -/
def Vec3.HasNaN (v : Vec3 Float) : Prop :=
  v.x.isNaN = true ∨ v.y.isNaN = true ∨ v.z.isNaN = true

namespace NotANumber

variable {v w : Vec3 Float}

/-- A difference of vectors has such a coordinate if one of the vectors has. -/
theorem hasNaN_sub (h : v.HasNaN ∨ w.HasNaN) : (v - w).HasNaN := by
  rcases h with (h | h | h) | (h | h | h)
  · exact .inl (isNaN_sub (.inl h))
  · exact .inr (.inl (isNaN_sub (.inl h)))
  · exact .inr (.inr (isNaN_sub (.inl h)))
  · exact .inl (isNaN_sub (.inr h))
  · exact .inr (.inl (isNaN_sub (.inr h)))
  · exact .inr (.inr (isNaN_sub (.inr h)))

/-- The squared norm of a vector with such a coordinate is not a number. -/
theorem isNaN_normSq (h : v.HasNaN) : v.normSq.isNaN = true := by
  rcases h with h | h | h
  · exact isNaN_add (.inl (isNaN_add (.inl (isNaN_mul (.inl h)))))
  · exact isNaN_add (.inl (isNaN_add (.inr (isNaN_mul (.inl h)))))
  · exact isNaN_add (.inr (isNaN_mul (.inl h)))

/-- **The distance from a place that is not a number** is not a number. -/
theorem isNaN_distance {p q : Pose Float} (h : p.position.HasNaN ∨ q.position.HasNaN) :
    (p.distance q).isNaN = true :=
  isNaN_sqrt (isNaN_normSq (hasNaN_sub h))

end NotANumber

end LidarOdometry
