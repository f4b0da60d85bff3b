import Reckoner.Decimal.Writing
import Reckoner.Fault

/-!
# `Reckoner.Failure`: why a calculation has no result

A calculation fails because its text is no formula, because the arithmetic has no
answer, because something is missing or left over in a formula that was not
checked first, or because its bounds are none. `Failure.pos?` gives the place in
the text, `Failure.message` the text that a user reads.
-/

set_option autoImplicit false

namespace Reckoner

/-- A reason for a calculation to have no result. Places are indices of characters
in the text as it was given. -/
inductive Failure where
  /-- The text breaks a rule of the grammar. -/
  | malformed (fault : Fault)
  /-- The divisor of the `/` at this place is zero. -/
  | divisionByZero (pos : Nat)
  /-- The power at this place has no value among the real numbers. -/
  | undefinedPower (base exponent : Float) (pos : Nat)
  /-- There are not enough values for the operator at this place. -/
  | missingOperand (op : Operator) (pos : Nat)
  /-- A `)` that closes nothing. -/
  | unmatchedClose (pos : Nat)
  /-- A `(` that is never closed. -/
  | unclosedGroup (pos : Nat)
  /-- At the end there was not one value but this many. -/
  | residual (count : Nat)
  /-- The bounds to clamp to enclose nothing. -/
  | unusableRange (min max : Float)
deriving DecidableEq, Repr

namespace Failure

/-- The place that a failure points at, if there is one. -/
def pos? : Failure → Option Nat
  | malformed fault => fault.pos?
  | divisionByZero pos
  | undefinedPower _ _ pos
  | missingOperand _ pos
  | unmatchedClose pos
  | unclosedGroup pos => some pos
  | residual _ | unusableRange _ _ => none

/-- What a user reads about a failure. -/
def message : Failure → String
  | malformed fault => fault.message
  | divisionByZero pos => s!"division by zero at {pos}"
  | undefinedPower base exponent pos =>
    s!"{Decimal.positional base}^{Decimal.positional exponent} at {pos} has no real result"
  | missingOperand op pos => s!"operator '{op.toChar}' at {pos} is missing an operand"
  | unmatchedClose pos => s!"unmatched closing parenthesis at {pos}"
  | unclosedGroup pos => s!"unclosed parenthesis at {pos}"
  | residual count => s!"evaluation left {count} values instead of one"
  | unusableRange min max =>
    s!"invalid clamp range [{Decimal.positional min}, {Decimal.positional max}]"

end Failure

end Reckoner
