import LidarOdometry.Proofs.Numeric.NotANumber

/-!
# Squared Distances in Floating Point

Whether a sum or a product is a number cannot be told from its operands being numbers: infinities
cancel, and an infinity times zero is none. It can be told once signs are known. A square is
positive, positive values add up to a positive one, and rounding keeps the sign, even where it
overflows. So the square of a length is a number as soon as the coordinates are, and what separates
a place from one that is finite has coordinates that are.

The sign is read off unpacked values, where it is missing exactly if there is no number. Packing and
unpacking may change a value that is too large for its format, but they keep its sign.

## Main definitions

* `NotANumber.sign?`: the sign of an unpacked value that is a number.
* `NotANumber.IsPositive`: values with a positive sign.
* `Vec3.IsFinite`: places all of whose coordinates are finite.

## Main results

* `NotANumber.sign?_unpack_pack`: packing keeps the sign.
* `NotANumber.isPositive_mul_self`, `NotANumber.IsPositive.add`: squares and their sums.
* `NotANumber.isNaN_normSq_sub_iff`: when a squared distance is not a number.
* `NotANumber.floor_div_eq_zero`: the cell of what is not a number.
-/

namespace LidarOdometry

namespace NotANumber

open Float.Model (Format UnpackedFloat)
open Float.Model.UnpackedFloat (Sign)

variable {a b : Float}

/-! ### Signs -/

/-- **The sign of an unpacked value**, `none` for what is not a number. -/
def sign? : UnpackedFloat → Option Sign
  | .notANumber => none
  | .infinity sign => some sign
  | .zero sign => some sign
  | .finite sign _ _ _ => some sign

/-- Only what is not a number has no sign. -/
theorem sign?_eq_none_iff (u : UnpackedFloat) : sign? u = none ↔ u = .notANumber := by
  cases u <;> simp [sign?]

/-- A float is not a number exactly if its unpacked form has no sign. -/
theorem isNaN_iff_sign? : a.isNaN = true ↔ sign? a.toModel.unpack = none := by
  rw [isNaN_iff, sign?_eq_none_iff]

/-- What is packed from a sign, an exponent that marks no special value and any mantissa is
unpacked with that sign. -/
theorem sign?_unpack_packComponents {sign : Sign} {exponent : BitVec 11} (mantissa : BitVec 52)
    (hexponent : exponent ≠ -1#11) :
    sign? (UnpackedFloat.unpack .binary64
      (UnpackedFloat.packComponents .binary64 sign exponent mantissa)) = some sign := by
  simp only [UnpackedFloat.unpack, UnpackedFloat.unpackExponent_packComponents,
    UnpackedFloat.unpackMantissa_packComponents, UnpackedFloat.unpackSign_packComponents,
    Sign.ofBitVec_toBitVec, if_neg hexponent]
  split
  · split <;> rfl
  · rfl

/-- An infinity keeps its sign when it is packed. -/
theorem sign?_unpack_packedInfinity (sign : Sign) :
    sign? (UnpackedFloat.unpack .binary64 (UnpackedFloat.packedInfinity .binary64 sign)) =
      some sign := by
  cases sign <;> rfl

/-- **Packing keeps the sign.** -/
theorem sign?_unpack_pack (u : UnpackedFloat) :
    sign? (UnpackedFloat.unpack .binary64 (UnpackedFloat.pack .binary64 u)) = sign? u := by
  cases u with
  | notANumber => rfl
  | infinity sign => exact sign?_unpack_packedInfinity sign
  | zero sign => cases sign <;> rfl
  | finite sign mantissa exponent hmantissa =>
      -- what is too large becomes infinite, and keeps its sign
      rw [UnpackedFloat.pack]
      split
      · exact sign?_unpack_packedInfinity sign
      · next hsmall =>
          split
          · refine sign?_unpack_packComponents _ fun hspecial => hsmall ?_
            have hbits := congrArg BitVec.toNat hspecial
            rw [BitVec.toNat_ofNat] at hbits
            change _ % 2048 = 2047 at hbits
            change 2048 ≤ _ + 1
            omega
          · exact sign?_unpack_packComponents _ (by decide)

/-- A value that is computed and packed has the sign that it was computed with. -/
theorem sign?_ofModel_pack (u : UnpackedFloat) :
    sign? (Float.ofModel (.pack u)).toModel.unpack = sign? u :=
  sign?_unpack_pack u

/-- Rounding keeps the sign. -/
theorem sign?_roundWithAccuracy (spec : Format) (sign : Sign) (mantissa : Nat) (exponent : Int)
    (accuracy : UnpackedFloat.Accuracy) :
    sign? (UnpackedFloat.roundWithAccuracy spec sign mantissa exponent accuracy) = some sign := by
  unfold UnpackedFloat.roundWithAccuracy
  dsimp only
  split <;> rfl

/-- What an exact sum is rounded to is a number. -/
theorem sign?_normalize_ne_none (spec : Format) (mantissa exponent : Int) (zeroSign : Sign) :
    sign? (UnpackedFloat.normalize spec mantissa exponent zeroSign) ≠ none := by
  rw [UnpackedFloat.normalize]
  split
  · exact (sign?_roundWithAccuracy ..).trans_ne (Option.some_ne_none _)
  · exact Option.some_ne_none _
  · exact (sign?_roundWithAccuracy ..).trans_ne (Option.some_ne_none _)

/-- What an exact sum that is not negative is rounded to is positive. -/
theorem sign?_normalize_of_nonneg (spec : Format) {mantissa : Int} (hmantissa : 0 ≤ mantissa)
    (exponent : Int) :
    sign? (UnpackedFloat.normalize spec mantissa exponent .positive) = some .positive := by
  rw [UnpackedFloat.normalize]
  split
  · next hlt => exact absurd (compare_lt_iff_lt.mp hlt) (not_lt.mpr hmantissa)
  · rfl
  · exact sign?_roundWithAccuracy ..

/-! ### Computing with numbers -/

/-- A value with a **positive sign**, which zero and infinity may have, too. -/
def IsPositive (a : Float) : Prop :=
  sign? a.toModel.unpack = some .positive

/-- A positive float is a number. -/
theorem IsPositive.isNaN_eq (h : IsPositive a) : a.isNaN = false := by
  rw [← Bool.not_eq_true, isNaN_iff_sign?, h]
  exact Option.some_ne_none _

/-- **A square is positive**, unless it is that of no number. -/
theorem isPositive_mul_self (h : a.isNaN = false) : IsPositive (a * a) := by
  rw [isNaN_eq_false_iff] at h
  refine (sign?_ofModel_pack _).trans ?_
  cases hunpack : a.toModel.unpack with
  | notANumber => exact absurd hunpack h
  | infinity sign => cases sign <;> rfl
  | zero sign => cases sign <;> rfl
  | finite sign mantissa exponent hmantissa =>
      refine (sign?_roundWithAccuracy ..).trans ?_
      cases sign <;> rfl

/-- **Positive values add up** to a positive one. -/
theorem IsPositive.add (ha : IsPositive a) (hb : IsPositive b) : IsPositive (a + b) := by
  rw [IsPositive] at ha hb
  refine (sign?_ofModel_pack _).trans ?_
  cases hunpack : a.toModel.unpack <;> cases hunpack' : b.toModel.unpack <;>
    rw [hunpack] at ha <;> rw [hunpack'] at hb <;> cases ha <;> cases hb
  case finite.finite.refl.refl =>
    exact sign?_normalize_of_nonneg _
      (Int.add_nonneg (Int.natCast_nonneg _) (Int.natCast_nonneg _)) _
  all_goals rfl

/-- **A difference to what is finite** is a number, unless it is that of no number. -/
theorem isNaN_sub_eq_false (ha : a.isNaN = false) (hb : b.isFinite = true) :
    (a - b).isNaN = false := by
  rw [isNaN_eq_false_iff] at ha
  rw [← Bool.not_eq_true, isNaN_iff_sign?]
  refine (sign?_ofModel_pack _).trans_ne ?_
  change b.toModel.unpack.isFinite = true at hb
  cases hunpack : a.toModel.unpack <;> cases hunpack' : b.toModel.unpack <;>
    rw [hunpack] at ha <;> rw [hunpack'] at hb <;> cases hb
  case finite.finite.refl => exact sign?_normalize_ne_none _ _ _ _
  case notANumber.zero.refl => exact absurd rfl ha
  case notANumber.finite.refl => exact absurd rfl ha
  case zero.zero.refl sign sign' => cases sign <;> cases sign' <;> exact Option.some_ne_none _
  all_goals exact Option.some_ne_none _

/-- A quotient whose dividend is not a number is none. -/
theorem isNaN_div (h : a.isNaN = true) : (a / b).isNaN = true := by
  refine isNaN_ofModel_pack ?_
  rw [isNaN_iff.mp h, UnpackedFloat.div]

/-- **What is not a number lies in cell zero**, whatever the size of cells. -/
theorem floor_div_eq_zero (h : a.isNaN = true) (size : Float) : Scalar.floor (a / size) = 0 := by
  have hnan : a / size = .nan := of_decide_eq_true (Float.isNaN_eq_decide_eq_nan ▸ isNaN_div h)
  rw [hnan]
  decide

end NotANumber

/-! ### Distances in space -/

/-- **All coordinates are finite.** -/
structure Vec3.IsFinite (v : Vec3 Float) : Prop where
  x : v.x.isFinite = true
  y : v.y.isFinite = true
  z : v.z.isFinite = true

namespace NotANumber

variable {p place : Vec3 Float}

/-- **A squared distance from a finite place** is a number exactly if the coordinates of the other
place are. -/
theorem isNaN_normSq_sub_iff (hplace : place.IsFinite) :
    (p - place).normSq.isNaN = true ↔ p.HasNaN := by
  refine ⟨fun h => ?_, fun h => isNaN_normSq (hasNaN_sub (.inl h))⟩
  by_contra hp
  simp only [Vec3.HasNaN, not_or, Bool.not_eq_true] at hp
  obtain ⟨hx, hy, hz⟩ := hp
  have hsum : IsPositive (p - place).normSq :=
    ((isPositive_mul_self (isNaN_sub_eq_false hx hplace.x)).add
      (isPositive_mul_self (isNaN_sub_eq_false hy hplace.y))).add
        (isPositive_mul_self (isNaN_sub_eq_false hz hplace.z))
  rw [hsum.isNaN_eq] at h
  cases h

end NotANumber

end LidarOdometry
