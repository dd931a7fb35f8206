import LidarOdometry.Numeric.Binary64

/-!
# The Shortest Decimal of a Float

Of the decimals that round to a given float, the one with the fewest digits identifies it best
to a reader. It is found by exact integer arithmetic. The reals that round to the float form an
interval around it; on ever finer decimal grids the two grid points next to the float are
tried, until one lies in the interval.

## Main definitions

* `RoundingInterval`: the float and the ends of its interval, over a common denominator.
* `RoundingInterval.contains`: whether a decimal rounds to the float.
* `Decimal.shortest`: the decimal with the fewest digits that does.
-/

namespace LidarOdometry

/-- The power of ten with a given exponent. -/
def tenTo (exponent : Nat) : Nat :=
  Nat.pow 10 exponent

/-- A non-negative decimal, `digits * 10 ^ exponent`. -/
structure Decimal where
  digits : Nat
  exponent : Int
deriving DecidableEq, Repr

/-- **The reals that round to a float**: those between `lower` and `upper`, the float itself being
`middle`, all over the denominator `unit`. Rounding to even, the ends belong to the interval
exactly if the float's significand is even. -/
structure RoundingInterval where
  lower : Nat
  middle : Nat
  upper : Nat
  unit : Nat
  hasEnds : Bool
deriving DecidableEq, Repr

namespace RoundingInterval

/-- The interval of `significand * 2 ^ exponent`. It reaches half way to the neighbours; below a
power of two the neighbour is half as far away as above. -/
def ofFinite (significand : Nat) (exponent : Int) : RoundingInterval :=
  let isNarrowBelow := significand = 0x10000000000000 ∧ -1074 < exponent
  { lower := (4 * significand - if isNarrowBelow then 1 else 2) <<< exponent.toNat
    middle := (4 * significand) <<< exponent.toNat
    upper := (4 * significand + 2) <<< exponent.toNat
    unit := 4 <<< (-exponent).toNat
    hasEnds := significand % 2 = 0 }

/-- The order of a decimal and `n / unit`. -/
def compareWith (i : RoundingInterval) (d : Decimal) (n : Nat) : Ordering :=
  compare (d.digits * tenTo d.exponent.toNat * i.unit) (n * tenTo (-d.exponent).toNat)

/-- **Whether a decimal rounds to the float.** -/
def contains (i : RoundingInterval) (d : Decimal) : Bool :=
  let low := i.compareWith d i.lower
  let high := i.compareWith d i.upper
  (low == .gt || (i.hasEnds && low == .eq)) && (high == .lt || (i.hasEnds && high == .eq))

/-- The multiple of `10 ^ exponent` next below the float. -/
def below (i : RoundingInterval) (exponent : Int) : Decimal :=
  ⟨i.middle * tenTo (-exponent).toNat / (i.unit * tenTo exponent.toNat), exponent⟩

/-- The least exponent of ten whose power exceeds the float, from a first guess that is not too
large. -/
def magnitude (i : RoundingInterval) : (tries : Nat) → (guess : Int) → Int
  | 0, guess => guess
  | tries + 1, guess =>
      if i.compareWith ⟨1, guess⟩ i.middle == .gt then guess else magnitude i tries (guess + 1)

/-- The grid point next to the float that rounds to it; of two such points the nearer one, and
the upper one if they are equally near. -/
def nearest? (i : RoundingInterval) (exponent : Int) : Option Decimal :=
  let down := i.below exponent
  let up : Decimal := ⟨down.digits + 1, exponent⟩
  match i.contains down, i.contains up with
  | false, false => none
  | true, false => some down
  | false, true => some up
  | true, true =>
      let between : Decimal := ⟨down.digits + up.digits, exponent⟩
      if i.compareWith between (2 * i.middle) == .gt then some down else some up

end RoundingInterval

namespace Decimal

/-- The same decimal without zeros at the end of its digits. -/
def strip : (fuel : Nat) → Decimal → Decimal
  | 0, d => d
  | fuel + 1, d =>
      if d.digits ≠ 0 ∧ d.digits % 10 = 0 then strip fuel ⟨d.digits / 10, d.exponent + 1⟩ else d

/-- **The shortest decimal** that rounds to `significand * 2 ^ exponent`. Seventeen digits always
suffice for a nonzero float. -/
def shortest (significand : Nat) (exponent : Int) : Decimal :=
  if significand = 0 then ⟨0, 0⟩
  else
    let i := RoundingInterval.ofFinite significand exponent
    let bits : Int := significand.log2 + exponent
    let top := i.magnitude 4 (bits * 30103 / 100000 - 1)
    let grids := (List.range 18).map fun (n : Nat) => top - ((n : Int) + 1)
    match grids.findSome? i.nearest? with
    | some d => strip 20 d
    | none => i.below (top - 18)

end Decimal

end LidarOdometry
