import Reckoner.Arithmetic.Squaring
import Reckoner.Failure

/-!
# `Reckoner.Arithmetic.Operations`: the operators between two doubles

Sums, differences and products of doubles always have a value. A quotient needs a
divisor other than zero, and a power needs a value among the real numbers. An
operator that is a sign stands for a factor (`Operator.apply`,
`Operator.signFactor`).

Whole exponents go by repeated squaring, so their powers do not hang on a library's
logarithm, and negative ones take the reciprocal of the positive power. An exponent
counts as whole when it lies within `wholeTolerance` of a whole number.
-/

set_option autoImplicit false

namespace Reckoner

namespace Arithmetic

/-- The whole number nearest to a double that is not below zero, a half going up.
Below 2 ^ 52 a double is cut down to a whole number and the part cut off is looked
at; from there on every double is whole. -/
def nearestNonneg (x : Float) : Float :=
  if x < 4503599627370496 then
    -- The part cut off is a double itself, so nothing is rounded in looking at it.
    let whole := Float.ofNat x.toUInt64.toNat
    if 0.5 ≤ x - whole then whole + 1 else whole
  else x

/-- The whole number nearest to a double, a half going away from zero. The sign
stays, also that of a zero, and what is not finite is its own nearest. -/
def nearest (x : Float) : Float :=
  if x < 0 then -(nearestNonneg (-x))
  -- A zero below zero has no part to cut off, and cutting would take its sign.
  else if x == 0 then x
  else nearestNonneg x

/-- How far an exponent may lie from a whole number and still count as whole. -/
def wholeTolerance : Float := 1e-12

/-- Whether an exponent counts as whole. Infinite ones do not, because their
distance to themselves is not a number. -/
def isWhole (exponent : Float) : Bool :=
  (exponent - nearest exponent).abs ≤ wholeTolerance

/-- The power to a whole exponent. The number of factors is held in 64 bits, and an
exponent with more counts as the largest of them. -/
def wholePower (base whole : Float) : Float :=
  let product := Squaring.power (· * ·) 1 base whole.abs.toUInt64.toNat
  if whole < 0 then 1 / product else product

/-- `base` to the `exponent`, `none` when that is undefined among the real numbers:
zero to anything but a positive exponent, and a number below zero to an exponent
that is not whole. -/
def power (base exponent : Float) : Option Float :=
  -- Both zeros are the same base, and the power is the zero above.
  if base == 0 then
    if 0 < exponent then some 0 else none
  else if isWhole exponent then some (wholePower base (nearest exponent))
  else if base < 0 then none
  else some (base.pow exponent)

end Arithmetic

namespace Operator

/-- The factor that an operator stands for as a sign. -/
def signFactor : Operator → Float
  | sub => -1
  | _ => 1

/-- The value of `a op b`, where the operator stands at `pos`. -/
def apply (op : Operator) (a b : Float) (pos : Nat) : Except Failure Float :=
  match op with
  | .add => .ok (a + b)
  | .sub => .ok (a - b)
  | .mul => .ok (a * b)
  | .div => if b == 0 then .error (.divisionByZero pos) else .ok (a / b)
  | .pow =>
    match Arithmetic.power a b with
    | some value => .ok value
    | none => .error (.undefinedPower a b pos)

end Operator

end Reckoner
