import LidarOdometry.Numeric.Word

/-!
# Binary64 Values, Decoded

Every finite 64-bit float is an integer times a power of two. This module takes the bits of a
`Float` apart into that exact form, on which the library's other exact operations are built:
the cell a coordinate falls into (`Binary64.floor`), the shortest decimal that reads back and
the decimal of a fixed number of places.

Working on the decoded integers keeps these operations inside plain `Nat` and `Int` arithmetic,
so that they can be evaluated and reasoned about without any property of the hardware.

## Main definitions

* `Binary64`: not a number, an infinity, or `± significand * 2 ^ exponent`.
* `Binary64.ofFloat`: the decoding.
* `Binary64.floor`: the greatest integer not above the value, kept within 64-bit range.
-/

namespace LidarOdometry

/-- **A decoded float.** A finite value is `significand * 2 ^ exponent`, negated when
`isNegative` holds; zero keeps its sign. -/
inductive Binary64 where
  | notANumber
  | infinite (isNegative : Bool)
  | finite (isNegative : Bool) (significand : Nat) (exponent : Int)
deriving DecidableEq, Repr

namespace Binary64

/-- Splits the 64 bits into sign, biased exponent and fraction. The all-ones exponent marks the
special values, the zero exponent the values without an implicit leading bit. -/
def ofBits (bits : UInt64) : Binary64 :=
  let isNegative := bits >>> 63 == 1
  let biased := ((bits >>> 52) &&& 0x7FF).toNat
  let fraction := (bits &&& 0xFFFFFFFFFFFFF).toNat
  if biased = 0x7FF then
    if fraction = 0 then infinite isNegative else notANumber
  else if biased = 0 then
    finite isNegative fraction (-1074)
  else
    finite isNegative (0x10000000000000 + fraction) ((biased : Int) - 1075)

/-- The exact value a float stands for. -/
def ofFloat (x : Float) : Binary64 :=
  ofBits x.toBits

/-- The signed significand of a finite value. -/
def signed (isNegative : Bool) (significand : Nat) : Int :=
  if isNegative then -(significand : Int) else significand

/-- **The cell of a value.** The greatest integer not above it, saturated to 64-bit range; a
value that is not a number has cell `0`. -/
def floor : Binary64 → Int
  | notANumber => 0
  | infinite isNegative => if isNegative then Word.least else Word.greatest
  | finite isNegative significand exponent =>
      let n := signed isNegative significand
      Word.clamp (if 0 ≤ exponent then n <<< exponent.toNat else n >>> (-exponent).toNat)

end Binary64

end LidarOdometry
