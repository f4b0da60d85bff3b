import Reckoner.Failure

/-!
# `Reckoner.Settings`: how a calculation is to be done

The settings hold the range that results are clamped to, whether formulas are
evaluated unchecked, and how many digits a number may have. They are equal when
all four are, the bounds compared as numbers: zero equals the zero below it, and
what is not a number equals nothing.
-/

set_option autoImplicit false

namespace Reckoner

/-- How a calculation is to be done. The defaults clamp to the range of signed
16-bit integers. -/
structure Settings where
  /-- The lower bound of the results. -/
  lower : Float := -32768
  /-- The upper bound of the results. -/
  upper : Float := 32767
  /-- Whether formulas are evaluated unchecked. -/
  unchecked : Bool := false
  /-- How many digits a number may have in a formula that is checked. -/
  maxDigits : UInt8 := 8
deriving Repr

namespace Settings

/-- The default settings, with a range that takes in every number. -/
def unclamped : Settings :=
  { lower := -(1 / 0), upper := 1 / 0 }

/-- Settings are compared part by part, the bounds as numbers. -/
instance : BEq Settings where
  beq s t := s.lower == t.lower && s.upper == t.upper &&
    s.unchecked == t.unchecked && s.maxDigits == t.maxDigits

/-- Whether the bounds enclose a range: they are numbers, and in order. -/
def usableRange (s : Settings) : Bool :=
  !(s.lower.isNaN || s.upper.isNaN || s.upper < s.lower)

/-- The point of the range nearest to a value. -/
def clamp (s : Settings) (value : Float) : Except Failure Float :=
  if !s.usableRange then .error (.unusableRange s.lower s.upper)
  else if value < s.lower then .ok s.lower
  else if s.upper < value then .ok s.upper
  -- What is not a number lies on neither side of the range and stays as it is.
  else .ok value

end Settings

end Reckoner
