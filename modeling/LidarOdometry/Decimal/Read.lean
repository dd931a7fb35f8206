/-!
# Floats from Decimals

## Main definitions

* `Decimal.toFloat`: the float nearest to a decimal.
-/

namespace LidarOdometry.Decimal

/-- **The float nearest to** `digits * 10 ^ exponent`. Decimals too large for any finite float, or
too small for any but zero, are recognised by their magnitude before a power of ten is formed,
so that the exponent may be as long as it likes. -/
def toFloat (digits : Nat) (exponent : Int) : Float :=
  let magnitude : Int := (Nat.toDigits 10 digits).length + exponent
  if digits = 0 ∨ magnitude < -330 then 0
  else if 310 < magnitude then 1.0 / 0.0
  else Float.ofScientific digits (exponent < 0) exponent.natAbs

end LidarOdometry.Decimal
