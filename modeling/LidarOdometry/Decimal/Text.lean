import LidarOdometry.Decimal.Shortest

/-!
# Numbers as Text

Two ways of writing a float. In messages it has the fewest digits that identify it, and looks
like a number with a fraction or an exponent in any case. In tables it has a fixed number of
places.

## Main definitions

* `Decimal.write`: shortest digits, as in messages.
* `Decimal.writeFixed`: a fixed number of places.
-/

namespace LidarOdometry.Decimal

/-- The digits of a number, most significant first. -/
def digitText (n : Nat) : List Char :=
  Nat.toDigits 10 n

/-- Digits filled up with zeros in front to at least `width`. -/
def padded (width n : Nat) : List Char :=
  let ds := digitText n
  List.replicate (width - ds.length) '0' ++ ds

/-- The digits of `n` with a point before the last `places`, and at least one digit in front of
it. -/
def withPoint (places n : Nat) : List Char :=
  let ds := padded (places + 1) n
  if places = 0 then ds
  else ds.take (ds.length - places) ++ '.' :: ds.drop (ds.length - places)

/-- **Positional or scientific.** With the leading digit at `10 ^ e`, numbers with
`-4 ≤ e < 16` are written with a point and at least one place, all others with one digit in
front of the point, or no point at all, and an exponent. -/
def layout (d : Decimal) : List Char :=
  let ds := digitText d.digits
  let leading : Int := d.exponent + ds.length - 1
  if -4 ≤ leading ∧ leading < 16 then
    if 0 ≤ d.exponent then withPoint 1 (d.digits * tenTo (d.exponent.toNat + 1))
    else withPoint (-d.exponent).toNat d.digits
  else
    let fraction := ds.drop 1
    ds.take 1 ++ (if fraction.isEmpty then [] else '.' :: fraction) ++
      'e' :: (toString leading).toList

/-- A sign in front of a text. -/
def signed (isNegative : Bool) (text : List Char) : String :=
  String.ofList (if isNegative then '-' :: text else text)

/-- The text of a value that has no decimal. -/
def special? : Binary64 → Option String
  | .notANumber => some "NaN"
  | .infinite isNegative => some (if isNegative then "-inf" else "inf")
  | .finite .. => none

/-- **A float as in messages**: `0.5`, `1.0`, `-0.0`, `1e16`, `1.5e-7`, `NaN`, `inf`. -/
def write (x : Float) : String :=
  match Binary64.ofFloat x with
  | .finite isNegative significand exponent =>
      signed isNegative (layout (shortest significand exponent))
  | value => (special? value).getD ""

/-- A quotient rounded to the nearest integer, a half to the even neighbour. -/
def roundDiv (num den : Nat) : Nat :=
  let quotient := num / den
  let twice := 2 * (num % den)
  if twice < den ∨ (twice = den ∧ quotient % 2 = 0) then quotient else quotient + 1

/-- **A float with a fixed number of places**, rounded to nearest from its exact value. -/
def writeFixed (places : Nat) (x : Float) : String :=
  match Binary64.ofFloat x with
  | .finite isNegative significand exponent =>
      let num := (significand <<< exponent.toNat) * tenTo places
      signed isNegative (withPoint places (roundDiv num (1 <<< (-exponent).toNat)))
  | value => (special? value).getD ""

end LidarOdometry.Decimal
